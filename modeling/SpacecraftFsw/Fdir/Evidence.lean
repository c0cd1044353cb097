import SpacecraftFsw.Fdir.Countdown
import SpacecraftFsw.Fdir.Limits

/-!
# The evidence for an escalation

When FDIR leaves NOMINAL and when it reaches SAFE, said of the readings and of the
kicks alone: what the telemetry would have to show for it.

* `verdict_fault_iff`, `verdict_bad_iff` — a cycle's verdict, by its physical causes.
* `cyclesOf` — the cycles of a run, each with the history before it.
* `Evidence` — cycles in a row that account for an escalation.
* `safe_iff_evidence` — no escalation without evidence, and none missing where there
  is enough of it.
-/

namespace SpacecraftFsw
namespace Fdir

open Tmtc Obdh Escalation

/-! ## Causes -/

/-- Some cause of a cycle on the readings `s` after the history `h` is out of its limits:
a reading, or a task that has not kicked since the last check. -/
def OutOfRange (h : List CycleOp) (s : SpacecraftState) : Prop :=
  Ieee.lt s.busVoltage vWarn = true ∨ Ieee.lt obcTempWarnC s.tempObc = true ∨
    Ieee.lt s.tempBatt battTempLowWarnC = true ∨ Ieee.lt battTempHighWarnC s.tempBatt = true ∨
    s.batteryPct < battSocWarnPct ∨ ∃ i < 3, sinceRead i (cycleEvents h) = 0

theorem monitorPower_fault_iff (s : SpacecraftState) :
    monitorPower s = .fault ↔ Ieee.lt s.busVoltage vFault = true := by
  unfold monitorPower
  split_ifs with h₁ h₂ <;> simp [h₁]

theorem monitorThermal_fault_iff (s : SpacecraftState) :
    monitorThermal s = .fault ↔ Ieee.lt obcTempFaultC s.tempObc = true ∨
      Ieee.lt battTempHighFaultC s.tempBatt = true ∨
      Ieee.lt s.tempBatt battTempLowFaultC = true := by
  refine ⟨fun h => ?_, monitorThermal_fault⟩
  by_contra hnone
  push Not at hnone
  obtain ⟨hobc, hhigh, hlow⟩ := hnone
  have hfine : ∀ h : Health, h ≠ .fault → healthWorst h .warn ≠ .fault := by decide
  simp only [Bool.not_eq_true] at hobc hhigh hlow
  simp only [monitorThermal, hobc, hhigh, hlow, Bool.or_self, Bool.false_eq_true, if_false] at h
  revert h
  split_ifs <;> decide

theorem monitorBattery_fault_iff (s : SpacecraftState) :
    monitorBattery s = .fault ↔ s.batteryPct < battSocFaultPct := by
  unfold monitorBattery
  split_ifs with h₁ h₂ <;> simp [h₁]

theorem evaluate_fault_iff : ∀ p t b w : Health,
    (evaluate [(p, fdirSrcPower), (t, fdirSrcThermal), (b, fdirSrcBattery),
      (w, fdirSrcWatchdog)]).1 = .fault ↔ p = .fault ∨ t = .fault ∨ b = .fault ∨ w = .fault := by
  decide

/-- The watchdog finds a task out exactly if one has not kicked. -/
theorem watchdogCheck_fault_iff {h : List WdEvent} {w : Watchdog} (ht : Tracks h w)
    (hpace : Paced (h ++ firstRounds (fun _ => []) nTasks)) :
    (watchdogCheck w).1 = .fault ↔ ∃ i < 3, sinceRead i h = 0 := by
  refine ⟨fun hfault => ?_, fun ⟨i, hi, hnone⟩ => watchdogCheck_fault ht hi hnone⟩
  have hchecked := checked ht fun _ => []
  rw [watchdogCheckWith_none] at hchecked
  rcases hchecked.agree with ⟨hok, _⟩ | ⟨_, hmask⟩
  · exact absurd (hfault.symm.trans hok) Health.noConfusion
  · by_contra hall
    push Not at hall
    refine hmask (BitVec.eq_of_getLsbD_eq fun i _ => ?_)
    have hclear : ¬(watchdogCheck w).2.1.getLsbD i = true := by
      intro hbit
      obtain ⟨hi, hnone⟩ := (hchecked.mask i).1 hbit
      have hsame : sinceRead i (atRead h (fun _ => []) i) = sinceRead i h := by
        simpa [atRead] using sinceRead_rounds h (Nat.le_refl i)
      have hlt := hpace.atRead hi
      rw [hsame] at hnone hlt
      have hmod : sinceRead i h % 2 ^ 32 = 0 := by
        simpa using congrArg BitVec.toNat hnone
      rw [Nat.mod_eq_of_lt hlt] at hmod
      exact hall i hi hmod
    simpa using hclear

section Verdicts

variable {h : List CycleOp} {w : Watchdog} (ht : Tracks (cycleEvents h) w) {s : SpacecraftState}
  (hpace : Paced (cycleEvents (h ++ [CycleOp.cycle s])))
include ht hpace

theorem watchdog_fault_iff :
    (watchdogCheck w).1 = .fault ↔ ∃ i < 3, sinceRead i (cycleEvents h) = 0 := by
  refine watchdogCheck_fault_iff ht ?_
  rwa [cycleEvents_append] at hpace

/-- **A faulty verdict has a cause at FAULT.** -/
theorem verdict_fault_iff :
    (fdirEvaluate s (watchdogCheck w).1).1 = .fault ↔ AtFault h s := by
  rw [fdirEvaluate, evaluate_fault_iff, monitorPower_fault_iff, monitorThermal_fault_iff,
    monitorBattery_fault_iff, watchdog_fault_iff ht hpace, AtFault]
  tauto

/-- **A verdict that is not OK has a cause out of its limits.** -/
theorem verdict_bad_iff :
    (fdirEvaluate s (watchdogCheck w).1).1 ≠ .ok ↔ OutOfRange h s := by
  have hwd : (watchdogCheck w).1 ≠ .ok ↔ (watchdogCheck w).1 = .fault := by
    rcases watchdogCheck_agree w with ⟨hok, _⟩ | ⟨hfault, _⟩
    · simp [hok]
    · simp [hfault]
  rw [ne_eq, evaluate_ok_iff, not_not, OutOfLimits, hwd, watchdog_fault_iff ht hpace, OutOfRange]

end Verdicts

/-! ## Cycles and their histories -/

/-- A cycle of a run: the history before it, and its readings. -/
abbrev Cycle := List CycleOp × SpacecraftState

/-- What FDIR is told in a run that began with `h`: its cycles, and the ground exits. -/
def dealings (h : List CycleOp) : List CycleOp → List (Option Cycle)
  | [] => []
  | .kick id :: ops => dealings (h ++ [.kick id]) ops
  | .cycle s :: ops => some (h, s) :: dealings (h ++ [.cycle s]) ops
  | .exitSafe :: ops => none :: dealings (h ++ [.exitSafe]) ops

/-- The cycles of a run. -/
def cyclesOf (ops : List CycleOp) : List Cycle := (dealings [] ops).reduceOption

theorem dealings_append (h ops : List CycleOp) (op : CycleOp) :
    dealings h (ops ++ [op]) = dealings h ops ++ dealings (h ++ ops) [op] := by
  induction ops generalizing h with
  | nil => simp [dealings]
  | cons op' ops ih => cases op' <;> simp [dealings, ih]

/-- A cycle of the run is an operation of it. -/
theorem prefix_of_dealing {h ops : List CycleOp} {c : Cycle} (hc : some c ∈ dealings h ops) :
    c.1 ++ [CycleOp.cycle c.2] <+: h ++ ops := by
  induction ops generalizing h with
  | nil => simp [dealings] at hc
  | cons op ops ih =>
      have hshift : h ++ op :: ops = (h ++ [op]) ++ ops := by simp
      cases op with
      | kick id =>
          rw [hshift]
          exact ih hc
      | exitSafe =>
          rw [hshift]
          exact ih (by simpa [dealings] using hc)
      | cycle s =>
          rw [hshift]
          rcases List.mem_cons.1 hc with hhead | hrest
          · rw [Option.some.inj hhead]
            exact List.prefix_append _ _
          · exact ih hrest

/-- A verdict for each cycle, as the supervisor is told it. -/
def dealingInput (verdict : Cycle → Health) : Option Cycle → Input ℕ
  | some c => .verdict (verdict c).code
  | none => .release

section Run

variable (b : Bus FdirMem) (hooks : Option FdirHooks) (confirmCycles : U8) (w : Watchdog)

/-- The verdict of a cycle of the run. -/
def verdictOf (c : Cycle) : Health :=
  (fdirEvaluate c.2 (watchdogCheck (cycleRun b hooks confirmCycles w c.1).watchdog).1).1

/-- **The position after a run of cycles** is that of the supervisor. -/
theorem remaining_cycleRun (ops : List CycleOp) :
    remaining (cycleRun b hooks confirmCycles w ops).ctx =
      ((dealings [] ops).map (dealingInput (verdictOf b hooks confirmCycles w))).foldl
        (policy confirmCycles).step (policy confirmCycles).top := by
  induction ops using List.reverseRecOn with
  | nil =>
      have hc := (masks_run b hooks confirmCycles w []).2
      exact position_top hc rfl rfl
  | append_singleton ops op ih =>
      have hc := (masks_run b hooks confirmCycles w ops).2
      rw [cycleRun_append, dealings_append, List.map_append, List.foldl_append, ← ih,
        List.nil_append]
      set x := cycleRun b hooks confirmCycles w ops with hx
      cases op with
      | kick id => rfl
      | cycle s =>
          have htrans := fdirCycle_trans tmIngest_fdirIngest x.bus s x.watchdog
          exact (follows_step (hc.stall _) htrans).position
      | exitSafe => exact (follows_op hc (fdirOp_trans x.bus .exitSafe)).2.position

/-- The verdicts the supervisor is told are those of the cycles. -/
theorem verdicts_dealings (verdict : Cycle → Health) (ds : List (Option Cycle)) :
    Policy.verdicts (ds.map (dealingInput verdict)) =
      ds.reduceOption.map fun c => (verdict c).code := by
  induction ds with
  | nil => rfl
  | cons d ds ih =>
      cases d with
      | none => exact ih
      | some c => exact congrArg ((verdict c).code :: ·) ih

/-- Without a ground exit the supervisor is told nothing else. -/
theorem dealings_noExit {h ops : List CycleOp} (hops : .exitSafe ∉ ops) :
    dealings h ops = (dealings h ops).reduceOption.map some := by
  induction ops generalizing h with
  | nil => rfl
  | cons op ops ih =>
      have hrest : .exitSafe ∉ ops := fun hmem => hops (List.mem_cons_of_mem _ hmem)
      cases op with
      | kick id => exact ih hrest
      | cycle s => exact congrArg (some (h, s) :: ·) (ih hrest)
      | exitSafe => exact absurd List.mem_cons_self hops

/-! ## Windows -/

/-- Cycles that account for an escalation: the first `need` of them had a cause at FAULT,
and all of them one out of its limits. -/
structure Evidence (need : ℕ) (window : List Cycle) : Prop where
  faulty : ∀ c ∈ window.take need, AtFault c.1 c.2
  bad : ∀ c ∈ window, OutOfRange c.1 c.2

theorem Health.code_eq_two {worst : Health} : 2 ≤ worst.code ↔ worst = .fault := by
  cases worst <;> decide

theorem Health.code_pos_iff {worst : Health} : 0 < worst.code ↔ worst ≠ .ok := by
  cases worst <;> decide

variable {b hooks confirmCycles w}

/-- **To the supervisor, evidence is what supports a position.** -/
theorem supported_iff_evidence {ops : List CycleOp} (hpace : Paced (cycleEvents ops))
    {window : List Cycle} (hwindow : window <:+: cyclesOf ops) :
    (policy confirmCycles).Supported
        (window.map fun c => (verdictOf b hooks confirmCycles w c).code) ↔
      Evidence (max 1 confirmCycles.toNat) window := by
  have hcycle : ∀ c ∈ window,
      (verdictOf b hooks confirmCycles w c = .fault ↔ AtFault c.1 c.2) ∧
      (verdictOf b hooks confirmCycles w c ≠ .ok ↔ OutOfRange c.1 c.2) := by
    intro c hc
    have hmem : some c ∈ dealings [] ops := List.reduceOption_mem_iff.1 (hwindow.subset hc)
    obtain ⟨later, hlater⟩ := prefix_of_dealing hmem
    have hpace' : Paced (cycleEvents (c.1 ++ [CycleOp.cycle c.2])) := by
      rw [List.nil_append] at hlater
      rw [← hlater, cycleEvents, List.flatMap_append] at hpace
      exact hpace.before
    have ht := tracks_cycleRun b hooks confirmCycles w c.1
    exact ⟨verdict_fault_iff ht hpace', verdict_bad_iff ht hpace'⟩
  have htake : ∀ c ∈ window.take (max 1 confirmCycles.toNat), c ∈ window := fun c hc =>
    List.mem_of_mem_take hc
  constructor
  · rintro ⟨halarms, hbad⟩
    constructor
    · intro c hc
      refine (hcycle c (htake c hc)).1.1 (Health.code_eq_two.1 (halarms _ ?_))
      exact List.map_take ▸ List.mem_map_of_mem hc
    · intro c hc
      exact (hcycle c hc).2.1 (Health.code_pos_iff.1 (hbad _ (List.mem_map_of_mem hc)))
  · rintro ⟨hfaulty, hbad⟩
    constructor
    · intro v hv
      rw [← List.map_take] at hv
      obtain ⟨c, hc, rfl⟩ := List.mem_map.1 hv
      exact Health.code_eq_two.2 ((hcycle c (htake c hc)).1.2 (hfaulty c hc))
    · intro v hv
      obtain ⟨c, hc, rfl⟩ := List.mem_map.1 hv
      exact Health.code_pos_iff.2 ((hcycle c hc).2.2 (hbad c hc))

end Run

/-- **No escalation without evidence, and none missing.**  After every run of kicks,
cycles and ground exits in which no heartbeat counter comes round between two checks:

* in RECOVERING the last cycles, as many as a confirmation takes and one for each action
  since, are evidence;
* in SAFE there have been `need + 4` cycles in a row that are;
* and where no ground exit was made, such cycles have taken FDIR to SAFE. -/
theorem safe_iff_evidence (b : Bus FdirMem) (hooks : Option FdirHooks) (confirmCycles : U8)
    (w : Watchdog) (ops : List CycleOp) (hpace : Paced (cycleEvents ops)) :
    let c := (cycleRun b hooks confirmCycles w ops).ctx
    let need := max 1 confirmCycles.toNat
    (c.state = .recovering → ∃ window, window <:+ cyclesOf ops ∧
      window.length = need + c.attempts.toNat ∧ Evidence need window) ∧
    (c.state = .safe → ∃ window, window <:+: cyclesOf ops ∧ window.length = need + 4 ∧
      Evidence need window) ∧
    (.exitSafe ∉ ops → ∀ window, window <:+: cyclesOf ops → window.length = need + 4 →
      Evidence need window → c.state = .safe) := by
  intro c need
  set p := policy confirmCycles with hp
  set f := verdictOf b hooks confirmCycles w with hf
  have htop : p.top = need + 4 := rfl
  have hcount := (masks_run b hooks confirmCycles w ops).2
  have hposition := remaining_cycleRun b hooks confirmCycles w ops
  have haccounts := Policy.supported_run (p := p) ((dealings [] ops).map (dealingInput f))
  rw [← hposition, verdicts_dealings] at haccounts
  refine ⟨?_, ?_, ?_⟩
  · intro hs
    have hattempts := attempts_position hcount hs
    obtain ⟨vs, hsuffix, hlen, hsupported⟩ :=
      haccounts.moving ((recovering_iff_position hcount).1 hs).1
    obtain ⟨window, hwindow, rfl⟩ := List.suffix_map_iff.1 hsuffix
    refine ⟨window, hwindow, ?_, (supported_iff_evidence hpace hwindow.isInfix).1 hsupported⟩
    rw [List.length_map] at hlen
    change c.attempts.toNat + _ = 4 at hattempts
    omega
  · intro hs
    obtain ⟨vs, hinfix, hlen, hsupported⟩ := haccounts.stopped (remaining_safe hs)
    obtain ⟨window, hwindow, rfl⟩ := List.infix_map_iff.1 hinfix
    refine ⟨window, hwindow, ?_, (supported_iff_evidence hpace hwindow).1 hsupported⟩
    rwa [List.length_map] at hlen
  · intro hops window hwindow hlen hevidence
    have hsupported : p.Supported (window.map fun c => (f c).code) :=
      (supported_iff_evidence hpace hwindow).2 hevidence
    have hstop : p.run ((cyclesOf ops).map fun c => (f c).code) = 0 := by
      refine (Policy.run_eq_zero_iff _).2 ⟨_, hwindow.map _, ?_, hsupported⟩
      rw [List.length_map, hlen, htop]
    have hinputs : (dealings [] ops).map (dealingInput f) =
        ((cyclesOf ops).map fun c => (f c).code).map .verdict := by
      rw [dealings_noExit hops, List.map_map, List.map_map]
      rfl
    rw [hinputs, List.foldl_map] at hposition
    exact (remaining_eq_zero_iff hcount.bounded).1 (hposition.trans hstop)

/-- Five cycles with an undervoltage, and no reading needed to repeat. -/
theorem safe_iff_evidence_undervoltage :
    let low : SpacecraftState := ⟨0x40A00000, 80, 0x41C80000, 0x41A00000, .nominal⟩
    let ops : List CycleOp := List.replicate 5 (.cycle low)
    let w : Watchdog := ⟨#v[0, 0, 0], #v[0, 0, 0]⟩
    let b := obdhInit true true (fdirInit none)
    Paced (cycleEvents ops) ∧ (cycleRun b none 1 w ops).ctx.state = .safe := by
  intro low ops w b
  have hpace : Paced (cycleEvents ops) := paced_of_short (by decide)
  have hall : ∀ c ∈ cyclesOf ops, c.2 = low := by
    simp [ops, List.replicate, cyclesOf, dealings]
  have hevidence : Evidence (max 1 (1 : U8).toNat) (cyclesOf ops) := by
    refine ⟨fun c hc => .inl ?_, fun c hc => .inl ?_⟩
    · rw [hall c (List.mem_of_mem_take hc)]
      decide
    · rw [hall c hc]
      decide
  have hops : .exitSafe ∉ ops := by simp [ops]
  exact ⟨hpace, (safe_iff_evidence b none 1 w ops hpace).2.2 hops _ (List.infix_refl _) rfl
    hevidence⟩

end Fdir
end SpacecraftFsw
