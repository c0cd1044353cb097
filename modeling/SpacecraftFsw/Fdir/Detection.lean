import SpacecraftFsw.Fdir.Liveness
import SpacecraftFsw.Fdir.Masks

/-!
# No persistent fault is masked

Whatever the cause, and whether it is the same in every cycle: a fault that is there
in enough cycles in a row takes FDIR to SAFE.

* `AtFault` — some cause of a cycle is at FAULT, by its readings and by the kicks
  since the last check.
* `remaining` — the faulty cycles SAFE is away; `FdirTrans.remaining` is the argument
  for one of them.
* `no_fault_masked` — the result, from every reachable state.
-/

namespace SpacecraftFsw
namespace Fdir

open Tmtc Obdh

/-! ## Causes -/

/-- What an operation is to the watchdog. -/
def CycleOp.events : CycleOp → List WdEvent
  | .kick id => [.kick id]
  | .cycle _ => firstRounds (fun _ => []) nTasks
  | .exitSafe => []

/-- The watchdog's history in a run of cycles. -/
def cycleEvents (ops : List CycleOp) : List WdEvent := ops.flatMap CycleOp.events

/-- Some cause of a cycle on the readings `s` after the history `h` is at FAULT: a
reading, or a task that has not kicked since the last check. -/
def AtFault (h : List CycleOp) (s : SpacecraftState) : Prop :=
  Ieee.lt s.busVoltage vFault = true ∨ Ieee.lt obcTempFaultC s.tempObc = true ∨
    Ieee.lt battTempHighFaultC s.tempBatt = true ∨ Ieee.lt s.tempBatt battTempLowFaultC = true ∨
    s.batteryPct < battSocFaultPct ∨ ∃ i < 3, sinceRead i (cycleEvents h) = 0

/-- One monitor at FAULT is enough. -/
theorem evaluate_fault : ∀ p t b w : Health, p = .fault ∨ t = .fault ∨ b = .fault ∨ w = .fault →
    (evaluate [(p, fdirSrcPower), (t, fdirSrcThermal), (b, fdirSrcBattery),
      (w, fdirSrcWatchdog)]).1 = .fault := by
  decide

theorem monitorThermal_fault {s : SpacecraftState}
    (h : Ieee.lt obcTempFaultC s.tempObc = true ∨ Ieee.lt battTempHighFaultC s.tempBatt = true ∨
      Ieee.lt s.tempBatt battTempLowFaultC = true) : monitorThermal s = .fault := by
  have hworst : ∀ h : Health, healthWorst h .fault = .fault ∧
      healthWorst (healthWorst .ok .fault) h = .fault := by
    decide
  unfold monitorThermal
  dsimp only
  split
  · exact (hworst _).1
  · rename_i hbatt
    have hobc : Ieee.lt obcTempFaultC s.tempObc = true := by
      simpa [Bool.or_eq_true] using h.resolve_right (by simpa using hbatt)
    rw [if_pos hobc]
    split
    · exact (hworst _).2
    · rfl

/-- Reads of other counters do not matter. -/
theorem sinceRead_rounds (h : List WdEvent) {i k : ℕ} (hk : k ≤ i) :
    sinceRead i (h ++ firstRounds (fun _ => []) k) = sinceRead i h := by
  induction k with
  | zero => simp [firstRounds]
  | succ k ih =>
      have hne : k ≠ i := by omega
      rw [firstRounds_succ, sinceRead_read, if_neg hne, atRead]
      simpa using ih (Nat.le_of_succ_le hk)

/-- A task that has not kicked is found out. -/
theorem watchdogCheck_fault {h : List WdEvent} {w : Watchdog} (ht : Tracks h w) {i : ℕ}
    (hi : i < nTasks) (hnone : sinceRead i h = 0) : (watchdogCheck w).1 = .fault := by
  have hchecked := checked ht fun _ => []
  have hbit : (watchdogCheck w).2.1.getLsbD i = true := by
    refine (hchecked.mask i).2 ⟨hi, ?_⟩
    have hsince : sinceRead i (atRead h (fun _ => []) i) = 0 := by
      simpa [atRead, hnone] using sinceRead_rounds h (Nat.le_refl i)
    rw [hsince]
    rfl
  rcases hchecked.agree with ⟨_, hmask⟩ | ⟨hfault, _⟩
  · rw [watchdogCheckWith_none] at hmask
    rw [hmask] at hbit
    simp at hbit
  · exact hfault

/-- **A cycle with a cause at FAULT has a faulty verdict.** -/
theorem fdirEvaluate_fault {h : List CycleOp} {w : Watchdog} (ht : Tracks (cycleEvents h) w)
    {s : SpacecraftState} (hs : AtFault h s) :
    (fdirEvaluate s (watchdogCheck w).1).1 = .fault := by
  apply evaluate_fault
  rcases hs with hbus | hobc | hhigh | hlow | hcharge | ⟨i, hi, hnone⟩
  · exact .inl (if_pos hbus)
  · exact .inr (.inl (monitorThermal_fault (.inl hobc)))
  · exact .inr (.inl (monitorThermal_fault (.inr (.inl hhigh))))
  · exact .inr (.inl (monitorThermal_fault (.inr (.inr hlow))))
  · exact .inr (.inr (.inl (if_pos hcharge)))
  · exact .inr (.inr (.inr (watchdogCheck_fault ht hi hnone)))

theorem cycleEvents_append (ops : List CycleOp) (op : CycleOp) :
    cycleEvents (ops ++ [op]) = cycleEvents ops ++ op.events := by
  simp [cycleEvents]

/-- The watchdog's counters in a run of cycles. -/
theorem tracks_cycleRun (b : Bus FdirMem) (hooks : Option FdirHooks) (confirmCycles : U8)
    (w : Watchdog) (ops : List CycleOp) :
    Tracks (cycleEvents ops) (cycleRun b hooks confirmCycles w ops).watchdog := by
  induction ops using List.reverseRecOn with
  | nil => exact tracks_wdInit w
  | append_singleton ops op ih =>
      rw [cycleEvents_append, cycleRun_append]
      cases op with
      | kick id => exact ih.kick id
      | cycle s => exact (checked ih fun _ => []).tracks
      | exitSafe =>
          rw [CycleOp.events, List.append_nil]
          exact ih

/-! ## The way to SAFE -/

/-- The faulty cycles SAFE is away. -/
def remaining (c : FdirCtx) : ℕ :=
  match c.state with
  | .nominal => c.need.toNat - c.faultStreak.toNat + 4
  | .recovering => 4 - c.attempts.toNat
  | .safe => 0

/-- The number of `enter_safe` calls made so far. -/
def enterSafeCalls (m : FdirMem) : ℕ :=
  m.calls.countP fun call => match call with
    | .recover _ _ => false
    | .enterSafe _ => true

section Remaining

variable {c : FdirCtx}

theorem remaining_nominal (h : c.state = .nominal) :
    remaining c = c.need.toNat - c.faultStreak.toNat + 4 := by
  rw [remaining, h]

theorem remaining_recovering (h : c.state = .recovering) :
    remaining c = 4 - c.attempts.toNat := by
  rw [remaining, h]

theorem remaining_safe (h : c.state = .safe) : remaining c = 0 := by
  rw [remaining, h]

theorem remaining_eq_zero_iff (hb : Bounded c) : remaining c = 0 ↔ c.state = .safe := by
  have hlt := hb.lt_four
  cases hs : c.state with
  | nominal => simp [remaining_nominal hs]
  | recovering =>
      simp only [remaining_recovering hs, reduceCtorEq, iff_false]
      omega
  | safe => simp [remaining_safe hs]

theorem remaining_le (c : FdirCtx) : remaining c ≤ c.need.toNat + 4 := by
  unfold remaining
  split <;> omega

end Remaining

/-- **A faulty step comes one step closer to SAFE**, and calls `enter_safe` on the last. -/
theorem FdirTrans.remaining {m m' : FdirMem} {sources : U8} (hb : Bounded m.ctx)
    (hm : StreakInv m.ctx) (h : FdirTrans m .fault sources m') :
    remaining m'.ctx = remaining m.ctx - 1 ∧
      enterSafeCalls m' = enterSafeCalls m +
        if remaining m.ctx = 1 ∧ m.ctx.hooks.enterSafe = true then 1 else 0 := by
  cases h with
  | confirmed hs _ hneed =>
      have hlast := hm.need_le_iff.1 hneed
      have hfive : Fdir.remaining m.ctx = 5 := by
        rw [remaining_nominal hs]
        omega
      exact ⟨by rw [hfive]; rfl, by simp [enterSafeCalls, hfive]⟩
  | filtered hs _ hneed =>
      have hup := hm.streakUp
      have hlt : (streakUp m.ctx.faultStreak).toNat < m.ctx.need.toNat := hneed
      refine ⟨?_, ?_⟩
      · rw [remaining_nominal hs, remaining_nominal (by exact hs)]
        change m.ctx.need.toNat - (streakUp m.ctx.faultStreak).toNat + 4 = _
        omega
      · have hne : Fdir.remaining m.ctx ≠ 1 := by
          rw [remaining_nominal hs]
          omega
        simp [enterSafeCalls, hne]
  | warned _ hw _ => cases hw
  | calm _ hw _ => exact absurd rfl hw
  | recovered _ hw => cases hw
  | safeEntered hs _ ha =>
      have hone : Fdir.remaining m.ctx = 1 := by
        rw [remaining_recovering hs, hb.exhausted ha]
        rfl
      refine ⟨by rw [hone]; rfl, ?_⟩
      cases m.ctx.hooks.enterSafe <;> simp [enterSafeCalls, hone]
  | attempted hs _ ha =>
      obtain ⟨hsucc, hlt, _⟩ := attempts_succ ha
      refine ⟨?_, ?_⟩
      · rw [remaining_recovering hs, remaining_recovering (by exact hs)]
        change 4 - (m.ctx.attempts + 1).toNat = _
        omega
      · have hne : Fdir.remaining m.ctx ≠ 1 := by
          rw [remaining_recovering hs]
          omega
        cases m.ctx.hooks.recover <;> simp [enterSafeCalls, hne]
  | safe hs =>
      have hzero := remaining_safe hs
      refine ⟨?_, by simp [enterSafeCalls, hzero]⟩
      rw [hzero]
      exact hzero

/-! ## Windows -/

/-- The cycles in a sequence of operations. -/
def cyclesIn (ops : List CycleOp) : ℕ :=
  ops.countP fun op => match op with
    | .cycle _ => true
    | .kick _ | .exitSafe => false

/-- A window without a ground exit, each of whose cycles has a cause at FAULT. -/
structure FaultyWindow (ops window : List CycleOp) : Prop where
  noExit : .exitSafe ∉ window
  faulty : ∀ pre s, pre ++ [CycleOp.cycle s] <+: window → AtFault (ops ++ pre) s

theorem FaultyWindow.before {ops window : List CycleOp} {op : CycleOp}
    (h : FaultyWindow ops (window ++ [op])) : FaultyWindow ops window where
  noExit := fun hmem => h.noExit (List.mem_append_left _ hmem)
  faulty := fun pre s hpre => h.faulty pre s (hpre.trans (List.prefix_append _ _))

/-- The hooks are wired once and for all. -/
theorem FdirTrans.hooks {m m' : FdirMem} {worst : Health} {sources : U8}
    (h : FdirTrans m worst sources m') : m'.ctx.hooks = m.ctx.hooks := by
  cases h <;> rfl

theorem hooks_cycleRun (b : Bus FdirMem) (hooks : Option FdirHooks) (confirmCycles : U8)
    (w : Watchdog) (ops : List CycleOp) :
    (cycleRun b hooks confirmCycles w ops).ctx.hooks = hooks.getD ⟨false, false⟩ := by
  induction ops using List.reverseRecOn with
  | nil => rfl
  | append_singleton ops op ih =>
      rw [cycleRun_append, ← ih]
      set x := cycleRun b hooks confirmCycles w ops with hx
      cases op with
      | kick id => rfl
      | cycle s => exact (fdirCycle_trans tmIngest_fdirIngest x.bus s x.watchdog).hooks
      | exitSafe =>
          by_cases hs : x.bus.user.ctx.state = .safe
          · rw [CycleState.ctx, cycleOp, (fdirExitSafe_granted tmIngest_fdirIngest hs).2]
            rfl
          · rw [cycleOp, fdirExitSafe_refused fdirIngest hs]

/-- **A faulty window** comes as many steps closer to SAFE as it has cycles. -/
theorem remaining_window (b : Bus FdirMem) (hooks : Option FdirHooks) (confirmCycles : U8)
    (w : Watchdog) (ops : List CycleOp) {window : List CycleOp} (hw : FaultyWindow ops window) :
    let x := cycleRun b hooks confirmCycles w ops
    let y := cycleRun b hooks confirmCycles w (ops ++ window)
    remaining y.ctx = remaining x.ctx - cyclesIn window ∧
      enterSafeCalls y.bus.user = enterSafeCalls x.bus.user +
        if (1 ≤ remaining x.ctx ∧ remaining x.ctx ≤ cyclesIn window) ∧
          (hooks.getD ⟨false, false⟩).enterSafe = true then 1 else 0 := by
  intro x
  induction window using List.reverseRecOn with
  | nil =>
      have hnone : ¬((1 ≤ remaining x.ctx ∧ remaining x.ctx ≤ cyclesIn []) ∧
          (hooks.getD ⟨false, false⟩).enterSafe = true) := by
        simp only [cyclesIn, List.countP_nil]
        omega
      rw [List.append_nil, if_neg hnone]
      exact ⟨rfl, rfl⟩
  | append_singleton window op ih =>
      obtain ⟨hremaining, hcalls⟩ := ih hw.before
      rw [← List.append_assoc, cycleRun_append]
      have hwired := hooks_cycleRun b hooks confirmCycles w (ops ++ window)
      have hcount := (masks_run b hooks confirmCycles w (ops ++ window)).2
      have htracks := tracks_cycleRun b hooks confirmCycles w (ops ++ window)
      set y := cycleRun b hooks confirmCycles w (ops ++ window) with hy
      intro z
      cases op with
      | exitSafe => exact absurd (List.mem_append_right _ (List.mem_singleton_self _)) hw.noExit
      | kick id =>
          have hsame : cyclesIn (window ++ [.kick id]) = cyclesIn window := by
            simp [cyclesIn]
          rw [hsame]
          exact ⟨hremaining, hcalls⟩
      | cycle s =>
          have hone : cyclesIn (window ++ [CycleOp.cycle s]) = cyclesIn window + 1 := by
            simp [cyclesIn]
          have htrans := fdirCycle_trans tmIngest_fdirIngest y.bus s y.watchdog
          rw [fdirEvaluate_fault htracks (hw.faulty window s (List.prefix_refl _))] at htrans
          have hstall := hcount.stall (watchdogCheck y.watchdog).2.1
          obtain ⟨hstep, hcall⟩ := htrans.remaining hstall.bounded hstall.streak
          have hz : remaining z.ctx = remaining y.ctx - 1 := hstep
          have hzcalls : enterSafeCalls z.bus.user = enterSafeCalls y.bus.user +
              if remaining y.ctx = 1 ∧ y.ctx.hooks.enterSafe = true then 1 else 0 := hcall
          rw [hone, hz, hzcalls, hcalls, hremaining, hwired]
          refine ⟨Nat.sub_sub _ _ _, ?_⟩
          rw [Nat.add_assoc]
          congr 1
          cases (hooks.getD ⟨false, false⟩).enterSafe with
          | false => simp
          | true =>
              simp only [and_true]
              split_ifs <;> omega

/-- **No persistent fault is masked.**  From every state that kicks, cycles and ground
exits can reach, with `confirm_cycles` fixed at any value: once `need + 4` cycles in a
row have had some cause at FAULT, whichever it was each time and whatever else was
read or kicked, with no ground exit in between, the last of them leaves FDIR in SAFE
and the spacecraft in safe mode.  The `enter_safe` hook, where it is wired, has been
called once on the way if FDIR was not in SAFE before, and not at all otherwise. -/
theorem no_fault_masked (b : Bus FdirMem) (hooks : Option FdirHooks) (confirmCycles : U8)
    (w : Watchdog) (ops window : List CycleOp) (s : SpacecraftState)
    (hcount : cyclesIn (window ++ [CycleOp.cycle s]) = max 1 confirmCycles.toNat + 4)
    (hwindow : FaultyWindow ops (window ++ [CycleOp.cycle s])) :
    let x := cycleRun b hooks confirmCycles w ops
    let y := cycleRun b hooks confirmCycles w (ops ++ window)
    let r := fdirCycle fdirIngest y.bus s y.watchdog
    r.1 = .safe ∧ r.2.1.mode = .safe ∧ r.2.2.2.user.ctx.state = .safe ∧
      enterSafeCalls r.2.2.2.user = enterSafeCalls x.bus.user +
        if x.ctx.state ≠ .safe ∧ (hooks.getD ⟨false, false⟩).enterSafe = true then 1 else 0 := by
  intro x y r
  have hx := (masks_run b hooks confirmCycles w ops).2
  have hz := (masks_run b hooks confirmCycles w (ops ++ (window ++ [CycleOp.cycle s]))).2
  obtain ⟨hremaining, hcalls⟩ := remaining_window b hooks confirmCycles w ops hwindow
  have hlast : cycleRun b hooks confirmCycles w (ops ++ (window ++ [CycleOp.cycle s])) =
      cycleOp y (.cycle s) := by
    rw [← List.append_assoc, cycleRun_append]
  have hle : remaining x.ctx ≤ cyclesIn (window ++ [CycleOp.cycle s]) := by
    have hneed : x.ctx.need.toNat = max 1 confirmCycles.toNat := by
      rw [need_toNat, hx.confirm]
    rw [hcount, ← hneed]
    exact remaining_le x.ctx
  have hstate : r.2.2.2.user.ctx.state = .safe := by
    rw [Nat.sub_eq_zero_of_le hle, remaining_eq_zero_iff hz.bounded, hlast] at hremaining
    exact hremaining
  refine ⟨hstate, ?_, hstate, ?_⟩
  · have hmode := fdirCycle_mode fdirIngest y.bus s y.watchdog
    have hstate' : (cycleBus fdirIngest y.bus s y.watchdog).user.ctx.state = .safe := hstate
    rw [if_pos hstate'] at hmode
    exact congrArg SpacecraftState.mode hmode
  · rw [hlast] at hcalls
    have hnotsafe : (1 ≤ remaining x.ctx ∧
        remaining x.ctx ≤ cyclesIn (window ++ [CycleOp.cycle s])) ↔ x.ctx.state ≠ .safe := by
      rw [and_iff_left hle, Nat.one_le_iff_ne_zero, ne_eq, remaining_eq_zero_iff hx.bounded]
    refine hcalls.trans ?_
    congr 1
    exact if_congr (and_congr_left' hnotsafe) rfl rfl

/-- An undervoltage in five cycles in a row, each reading being enough by itself. -/
theorem no_fault_masked_undervoltage :
    let low : SpacecraftState := ⟨0x40A00000, 80, 0x41C80000, 0x41A00000, .nominal⟩
    let window : List CycleOp := List.replicate 4 (.cycle low)
    let w : Watchdog := ⟨#v[0, 0, 0], #v[0, 0, 0]⟩
    let b := obdhInit true true (fdirInit none)
    let y := cycleRun b none 1 w ([] ++ window)
    cyclesIn (window ++ [CycleOp.cycle low]) = max 1 (1 : U8).toNat + 4 ∧
      FaultyWindow [] (window ++ [CycleOp.cycle low]) ∧
      (fdirCycle fdirIngest y.bus low y.watchdog).2.1.mode = .safe := by
  intro low window w b y
  have hcount : cyclesIn (window ++ [CycleOp.cycle low]) = max 1 (1 : U8).toNat + 4 := by decide
  have hall : ∀ op ∈ window ++ [CycleOp.cycle low], op = .cycle low := by
    simp [window]
  have hwindow : FaultyWindow [] (window ++ [CycleOp.cycle low]) := by
    refine ⟨fun hmem => CycleOp.noConfusion (hall _ hmem), fun pre s hpre => .inl ?_⟩
    have hmem := hpre.subset
      (List.mem_append_right pre (List.mem_singleton_self (CycleOp.cycle s)))
    obtain rfl : s = low := CycleOp.cycle.inj (hall _ hmem)
    decide
  exact ⟨hcount, hwindow, (no_fault_masked b none 1 w [] window low hcount hwindow).2.1⟩

end Fdir
end SpacecraftFsw
