import SpacecraftFsw.Fdir.Evidence

/-!
# Severity is monotone

Two runs of FDIR, one of which fares worse throughout: its readings are nowhere
better, and its tasks kick no more often.  It is never the less escalated one, as long
as no heartbeat counter of the first run comes round between two checks: 2^32 kicks
would look like none.

* `NoBetter`, `Harsher` — worse readings, and a run that fares worse.
* `evaluate_mono` — worse readings and a worse watchdog have no milder verdict.
* `escalation_monotone` — the result, over whole runs.
-/

namespace SpacecraftFsw
namespace Fdir

open Tmtc Obdh Escalation

/-! ## Readings -/

/-- The readings `s'` are nowhere better than `s`: less voltage, a hotter computer, a
battery further out on the side where it is, less charge.  Where `s` has a NaN, which
no limit catches, anything is no better. -/
structure NoBetter (s s' : SpacecraftState) : Prop where
  bus : Ieee.isNaN s.busVoltage = true ∨ Ieee.le s'.busVoltage s.busVoltage = true
  obc : Ieee.isNaN s.tempObc = true ∨ Ieee.le s.tempObc s'.tempObc = true
  batt : Ieee.isNaN s.tempBatt = true ∨
    (Ieee.le battTempLowWarnC s.tempBatt = true ∧ Ieee.le s.tempBatt s'.tempBatt = true) ∨
    (Ieee.le s.tempBatt battTempHighWarnC = true ∧ Ieee.le s'.tempBatt s.tempBatt = true)
  charge : s'.batteryPct ≤ s.batteryPct

/-- The severity of two nested limits. -/
def grade (fault warn : Bool) : Health := if fault then .fault else if warn then .warn else .ok

theorem grade_mono : ∀ {f w f' w' : Bool}, (f = true → f' = true) → (w = true → w' = true) →
    (grade f w).code ≤ (grade f' w').code := by
  decide

theorem code_healthWorst (a b : Health) : (healthWorst a b).code = max a.code b.code := by
  cases a <;> cases b <;> decide

theorem monitorPower_eq (s : SpacecraftState) :
    monitorPower s = grade (Ieee.lt s.busVoltage vFault) (Ieee.lt s.busVoltage vWarn) := rfl

/-- The thermal monitor is the worse of two gradings. -/
theorem monitorThermal_eq (s : SpacecraftState) :
    monitorThermal s = healthWorst
      (grade (Ieee.lt obcTempFaultC s.tempObc) (Ieee.lt obcTempWarnC s.tempObc))
      (grade (Ieee.lt battTempHighFaultC s.tempBatt || Ieee.lt s.tempBatt battTempLowFaultC)
        (Ieee.lt battTempHighWarnC s.tempBatt || Ieee.lt s.tempBatt battTempLowWarnC)) := by
  unfold monitorThermal grade
  cases Ieee.lt obcTempFaultC s.tempObc <;> cases Ieee.lt obcTempWarnC s.tempObc <;>
    cases (Ieee.lt battTempHighFaultC s.tempBatt || Ieee.lt s.tempBatt battTempLowFaultC) <;>
    cases (Ieee.lt battTempHighWarnC s.tempBatt || Ieee.lt s.tempBatt battTempLowWarnC) <;> rfl

theorem monitorBattery_eq (s : SpacecraftState) :
    monitorBattery s = grade (s.batteryPct < battSocFaultPct) (s.batteryPct < battSocWarnPct) := by
  simp [monitorBattery, grade]

/-- A limit that catches `x` catches what is below it. -/
theorem caught_below {x x' limit : Ieee.Binary32}
    (h : Ieee.isNaN x = true ∨ Ieee.le x' x = true) (hx : Ieee.lt x limit = true) :
    Ieee.lt x' limit = true := by
  rcases h with hnan | hle
  · simp [(Ieee.not_isNaN_of_lt hx).1] at hnan
  · exact Ieee.lt_of_le_of_lt hle hx

theorem caught_above {x x' limit : Ieee.Binary32}
    (h : Ieee.isNaN x = true ∨ Ieee.le x x' = true) (hx : Ieee.lt limit x = true) :
    Ieee.lt limit x' = true := by
  rcases h with hnan | hle
  · simp [(Ieee.not_isNaN_of_lt hx).2] at hnan
  · exact Ieee.lt_of_lt_of_le hx hle

/-- Limits on both sides, for a value that moves away from them on the side where it is. -/
theorem caught_outside {x x' low high inner outer : Ieee.Binary32}
    (hlow : Ieee.lt inner low = false) (hhigh : Ieee.lt high outer = false)
    (h : Ieee.isNaN x = true ∨ (Ieee.le inner x = true ∧ Ieee.le x x' = true) ∨
      (Ieee.le x outer = true ∧ Ieee.le x' x = true))
    (hx : (Ieee.lt high x || Ieee.lt x low) = true) :
    (Ieee.lt high x' || Ieee.lt x' low) = true := by
  rw [Bool.or_eq_true] at hx ⊢
  rcases hx with hx | hx
  · left
    refine caught_above (x := x) ?_ hx
    rcases h with hnan | ⟨_, hle⟩ | ⟨hout, _⟩
    · exact .inl hnan
    · exact .inr hle
    · rw [Ieee.lt_of_lt_of_le hx hout] at hhigh
      cases hhigh
  · right
    refine caught_below (x := x) ?_ hx
    rcases h with hnan | ⟨hin, _⟩ | ⟨_, hle⟩
    · exact .inl hnan
    · rw [Ieee.lt_of_le_of_lt hin hx] at hlow
      cases hlow
    · exact .inr hle

/-! ## Verdicts -/

section Monitors

variable {s s' : SpacecraftState} (h : NoBetter s s')
include h

theorem monitorPower_mono : (monitorPower s).code ≤ (monitorPower s').code := by
  rw [monitorPower_eq, monitorPower_eq]
  exact grade_mono (caught_below h.bus) (caught_below h.bus)

theorem monitorThermal_mono : (monitorThermal s).code ≤ (monitorThermal s').code := by
  rw [monitorThermal_eq, monitorThermal_eq, code_healthWorst, code_healthWorst]
  refine max_le_max ?_ ?_
  · exact grade_mono (caught_above h.obc) (caught_above h.obc)
  · exact grade_mono (caught_outside (by decide) (by decide) h.batt)
      (caught_outside (by decide) (by decide) h.batt)

theorem monitorBattery_mono : (monitorBattery s).code ≤ (monitorBattery s').code := by
  have hbelow : ∀ limit : U8, s.batteryPct < limit → s'.batteryPct < limit := by
    intro limit hlt
    exact Nat.lt_of_le_of_lt h.charge hlt
  rw [monitorBattery_eq, monitorBattery_eq]
  refine grade_mono ?_ ?_
  · simpa using hbelow _
  · simpa using hbelow _

end Monitors

/-- The verdict is the worst of the four. -/
theorem code_evaluate : ∀ p t b w : Health,
    (evaluate [(p, fdirSrcPower), (t, fdirSrcThermal), (b, fdirSrcBattery),
      (w, fdirSrcWatchdog)]).1.code = max (max p.code t.code) (max b.code w.code) := by
  decide

/-- **Worse readings and a worse watchdog have no milder verdict.** -/
theorem evaluate_mono {s s' : SpacecraftState} (h : NoBetter s s') {wd wd' : Health}
    (hwd : wd.code ≤ wd'.code) : (fdirEvaluate s wd).1.code ≤ (fdirEvaluate s' wd').1.code := by
  rw [fdirEvaluate, fdirEvaluate, code_evaluate, code_evaluate]
  exact max_le_max (max_le_max (monitorPower_mono h) (monitorThermal_mono h))
    (max_le_max (monitorBattery_mono h) hwd)

/-! ## The watchdog -/

theorem countSince_mono (i : ℕ) {m n : ℕ} (hmn : m ≤ n) (e : WdEvent) :
    countSince i m e ≤ countSince i n e := by
  cases e with
  | kick id =>
      simp only [countSince]
      split <;> omega
  | read j =>
      simp only [countSince]
      split <;> omega

/-- Fewer kicks before, and the same events since: fewer kicks. -/
theorem sinceRead_append_mono {i : ℕ} {h h' : List WdEvent} (hle : sinceRead i h' ≤ sinceRead i h)
    (es : List WdEvent) : sinceRead i (h' ++ es) ≤ sinceRead i (h ++ es) := by
  induction es using List.reverseRecOn with
  | nil => simpa using hle
  | append_singleton es e ih =>
      have hstep : ∀ h : List WdEvent,
          sinceRead i (h ++ (es ++ [e])) = countSince i (sinceRead i (h ++ es)) e := by
        intro h
        rw [← List.append_assoc, sinceRead, List.foldl_append]
        rfl
      rw [hstep, hstep]
      exact countSince_mono i ih e

/-- **Fewer kicks have no milder verdict**, unless a counter has come round. -/
theorem watchdogCheck_mono {h h' : List WdEvent} {w w' : Watchdog} (ht : Tracks h w)
    (ht' : Tracks h' w') (hpace : Paced (h ++ firstRounds (fun _ => []) nTasks))
    (hle : ∀ i, sinceRead i h' ≤ sinceRead i h) :
    (watchdogCheck w).1.code ≤ (watchdogCheck w').1.code := by
  rcases watchdogCheck_agree w with ⟨hok, _⟩ | ⟨hfault, _⟩
  · rw [hok]
    exact Nat.zero_le _
  · obtain ⟨i, hi, hnone⟩ := (watchdogCheck_fault_iff ht hpace).1 hfault
    have hnone' : sinceRead i h' = 0 := Nat.le_zero.1 (hnone ▸ hle i)
    rw [hfault, watchdogCheck_fault ht' hi hnone']

/-! ## Runs -/

/-- The second run fares worse: readings that are no better in each cycle, kicks left
out, and no ground exit that would take it out of SAFE. -/
inductive Harsher : List CycleOp → List CycleOp → Prop
  | start : Harsher [] []
  | cycle {ops ops' : List CycleOp} (h : Harsher ops ops') {s s' : SpacecraftState}
      (hs : NoBetter s s') : Harsher (ops ++ [.cycle s]) (ops' ++ [.cycle s'])
  | kick {ops ops' : List CycleOp} (h : Harsher ops ops') (id : ℤ) :
      Harsher (ops ++ [.kick id]) (ops' ++ [.kick id])
  | missed {ops ops' : List CycleOp} (h : Harsher ops ops') (id : ℤ) :
      Harsher (ops ++ [.kick id]) ops'
  | released {ops ops' : List CycleOp} (h : Harsher ops ops') :
      Harsher (ops ++ [.exitSafe]) ops'

/-- A run that fares worse has had no more kicks since each read. -/
theorem Harsher.kicks {ops ops' : List CycleOp} (h : Harsher ops ops') (i : ℕ) :
    sinceRead i (cycleEvents ops') ≤ sinceRead i (cycleEvents ops) := by
  induction h with
  | start => exact Nat.le_refl _
  | cycle _ _ ih | kick _ _ ih =>
      rw [cycleEvents_append, cycleEvents_append]
      exact sinceRead_append_mono ih _
  | missed _ id ih =>
      rw [cycleEvents_append]
      refine ih.trans ?_
      rw [CycleOp.events, sinceRead_kick]
      split <;> omega
  | released _ ih =>
      rw [cycleEvents_append, CycleOp.events, List.append_nil]
      exact ih

section Run

variable (b b' : Bus FdirMem) (hooks hooks' : Option FdirHooks) (confirmCycles : U8)
  (w w' : Watchdog)

/-- The position moves by the verdict of the cycle. -/
theorem remaining_cycle (ops : List CycleOp) (s : SpacecraftState) :
    let x := cycleRun b hooks confirmCycles w ops
    remaining (cycleOp x (.cycle s)).ctx = (policy confirmCycles).verdict (remaining x.ctx)
      (fdirEvaluate s (watchdogCheck x.watchdog).1).1.code := by
  intro x
  have hc := (masks_run b hooks confirmCycles w ops).2
  have htrans := fdirCycle_trans tmIngest_fdirIngest x.bus s x.watchdog
  exact (follows_step (hc.stall _) htrans).position

theorem remaining_le_top (ops : List CycleOp) :
    remaining (cycleRun b hooks confirmCycles w ops).ctx ≤ (policy confirmCycles).top := by
  have hneed := need_of_counters (masks_run b hooks confirmCycles w ops).2
  have hle := remaining_le (cycleRun b hooks confirmCycles w ops).ctx
  rwa [hneed] at hle

/-- A ground exit does not bring SAFE closer. -/
theorem remaining_exitSafe (ops : List CycleOp) :
    let x := cycleRun b hooks confirmCycles w ops
    remaining x.ctx ≤ remaining (cycleOp x .exitSafe).ctx := by
  intro x
  have hc := (masks_run b hooks confirmCycles w ops).2
  have hstep := (follows_op hc (fdirOp_trans x.bus .exitSafe)).2.position
  change _ ≤ remaining (fdirOp x.bus .exitSafe).user.ctx
  rw [hstep, FdirOp.input, Policy.step]
  split
  · exact remaining_le_top b hooks confirmCycles w ops
  · exact Nat.le_refl _

/-- **The run that fares worse is no further from SAFE.** -/
theorem remaining_of_harsher {ops ops' : List CycleOp} (h : Harsher ops ops')
    (hpace : Paced (cycleEvents ops)) :
    remaining (cycleRun b' hooks' confirmCycles w' ops').ctx ≤
      remaining (cycleRun b hooks confirmCycles w ops).ctx := by
  induction h with
  | start =>
      have hc := (masks_run b hooks confirmCycles w []).2
      have hc' := (masks_run b' hooks' confirmCycles w' []).2
      rw [position_top hc rfl rfl, position_top hc' rfl rfl]
  | cycle h hs ih =>
      rename_i ops ops' s s'
      rw [cycleEvents_append] at hpace
      have hwd := watchdogCheck_mono (tracks_cycleRun b hooks confirmCycles w ops)
        (tracks_cycleRun b' hooks' confirmCycles w' ops') hpace h.kicks
      rw [cycleRun_append, cycleRun_append, remaining_cycle, remaining_cycle]
      exact Policy.verdict_mono (ih hpace.before) (remaining_le_top b hooks confirmCycles w ops)
        (evaluate_mono hs hwd)
  | kick h id ih | missed h id ih =>
      rw [cycleEvents_append] at hpace
      simp only [cycleRun_append]
      exact ih hpace.before
  | released h ih =>
      rw [cycleEvents_append] at hpace
      rw [cycleRun_append]
      exact (ih hpace.before).trans (remaining_exitSafe b hooks confirmCycles w _)

end Run

/-- **Escalation is monotone in severity.**  Take two runs of FDIR of which the second
fares worse throughout: in each cycle its readings are nowhere better, it has had some
of the kicks of the first and no others, and no ground exit; and in the first no
heartbeat counter comes round between two checks.  Then it is never in an earlier
state, and in the same state no further back: with no fewer actions behind it in
RECOVERING, and no shorter a streak in NOMINAL. -/
theorem escalation_monotone (b b' : Bus FdirMem) (hooks hooks' : Option FdirHooks)
    (confirmCycles : U8) (w w' : Watchdog) {ops ops' : List CycleOp} (h : Harsher ops ops')
    (hpace : Paced (cycleEvents ops)) :
    let c := (cycleRun b hooks confirmCycles w ops).ctx
    let c' := (cycleRun b' hooks' confirmCycles w' ops').ctx
    c.state.code ≤ c'.state.code ∧
      (c.state = .recovering → c'.state = .recovering → c.attempts ≤ c'.attempts) ∧
      (c.state = .nominal → c'.state = .nominal → c.faultStreak ≤ c'.faultStreak) := by
  intro c c'
  have hc : Counters confirmCycles c := (masks_run b hooks confirmCycles w ops).2
  have hc' : Counters confirmCycles c' := (masks_run b' hooks' confirmCycles w' ops').2
  have hle : remaining c' ≤ remaining c :=
    remaining_of_harsher b b' hooks hooks' confirmCycles w w' h hpace
  refine ⟨?_, ?_, ?_⟩
  · cases hs' : c'.state with
    | nominal =>
        have hup := (nominal_iff_position hc').1 hs'
        rw [(nominal_iff_position hc).2 (by omega)]
        decide
    | recovering =>
        have hpos := ((recovering_iff_position hc').1 hs').1
        have hne : c.state ≠ .safe := by
          rw [ne_eq, ← remaining_eq_zero_iff hc.bounded]
          omega
        cases hs : c.state with
        | nominal | recovering => decide
        | safe => exact absurd hs hne
    | safe => cases c.state <;> decide
  · intro hs hs'
    have hsum := attempts_position hc hs
    have hsum' := attempts_position hc' hs'
    rw [BitVec.le_def]
    omega
  · intro hs hs'
    have hsum := streak_position hc hs
    have hsum' := streak_position hc' hs'
    rw [BitVec.le_def]
    omega

/-- 5.5 V and then 5.0 V, a kick and then none: the second run is confirmed as well. -/
theorem escalation_monotone_undervoltage :
    let at55 : SpacecraftState := ⟨0x40B00000, 80, 0x41C80000, 0x41A00000, .nominal⟩
    let at50 : SpacecraftState := ⟨0x40A00000, 70, 0x41C80000, 0x41A00000, .nominal⟩
    let ops : List CycleOp := [.kick 0, .cycle at55]
    let ops' : List CycleOp := [.cycle at50]
    let w : Watchdog := ⟨#v[0, 0, 0], #v[0, 0, 0]⟩
    let b := obdhInit true true (fdirInit none)
    Harsher ops ops' ∧ Paced (cycleEvents ops) ∧
      (cycleRun b none 1 w ops).ctx.state.code ≤ (cycleRun b none 1 w ops').ctx.state.code := by
  intro at55 at50 ops ops' w b
  have hworse : NoBetter at55 at50 :=
    ⟨.inr (by decide), .inr (by decide), .inr (.inl (by decide)), by decide⟩
  have hharsher : Harsher ops ops' := (Harsher.start.missed 0).cycle hworse
  have hpace : Paced (cycleEvents ops) := paced_of_short (by decide)
  exact ⟨hharsher, hpace, (escalation_monotone b b none none 1 w w hharsher hpace).1⟩

end Fdir
end SpacecraftFsw
