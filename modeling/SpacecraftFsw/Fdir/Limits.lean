import SpacecraftFsw.Fdir.Masks

/-!
# Healthy readings

What `fdir_evaluate` means by health.  The monitors look for a reading beyond a
limit and find none in a NaN, which is beyond no limit and within none.

* `evaluate_ok_iff` — the verdict is health exactly when no reading is out of limits.
* `within_iff` — the readings are within the limits exactly when, besides, none of
  them is a NaN.
* `healthy_iff` — when a verdict of health can be trusted, for one evaluation and for
  the end of a recovery in a run of cycles.
-/

namespace SpacecraftFsw
namespace Fdir

open Tmtc Obdh

/-! ## Readings and limits -/

/-- Every reading is within its limits, as a true comparison. -/
structure Within (s : SpacecraftState) (wd : Health) : Prop where
  bus : Ieee.le vWarn s.busVoltage = true
  obc : Ieee.le s.tempObc obcTempWarnC = true
  battLow : Ieee.le battTempLowWarnC s.tempBatt = true
  battHigh : Ieee.le s.tempBatt battTempHighWarnC = true
  charge : battSocWarnPct ≤ s.batteryPct
  watchdog : wd = .ok

/-- Some reading is out of its limits, as a true comparison. -/
def OutOfLimits (s : SpacecraftState) (wd : Health) : Prop :=
  Ieee.lt s.busVoltage vWarn = true ∨ Ieee.lt obcTempWarnC s.tempObc = true ∨
    Ieee.lt s.tempBatt battTempLowWarnC = true ∨ Ieee.lt battTempHighWarnC s.tempBatt = true ∨
    s.batteryPct < battSocWarnPct ∨ wd ≠ .ok

/-- Some reading is a NaN. -/
def HasNaN (s : SpacecraftState) : Prop :=
  Ieee.isNaN s.busVoltage = true ∨ Ieee.isNaN s.tempObc = true ∨ Ieee.isNaN s.tempBatt = true

/-! ## The monitors -/

theorem monitorPower_ok_iff (s : SpacecraftState) :
    monitorPower s = .ok ↔ Ieee.lt s.busVoltage vWarn = false := by
  have hnested := (fault_beyond_warning s.busVoltage).1
  unfold monitorPower
  cases hfault : Ieee.lt s.busVoltage vFault with
  | true => simp [hnested hfault]
  | false => cases hwarn : Ieee.lt s.busVoltage vWarn <;> simp

theorem monitorThermal_ok_iff (s : SpacecraftState) :
    monitorThermal s = .ok ↔ Ieee.lt obcTempWarnC s.tempObc = false ∧
      Ieee.lt s.tempBatt battTempLowWarnC = false ∧
      Ieee.lt battTempHighWarnC s.tempBatt = false := by
  have hobc := (fault_beyond_warning s.tempObc).2.1
  have hhigh := (fault_beyond_warning s.tempBatt).2.2.1
  have hlow := (fault_beyond_warning s.tempBatt).2.2.2
  have hworst : ∀ h : Health, healthWorst h .fault ≠ .ok ∧ healthWorst h .warn ≠ .ok := by
    decide
  unfold monitorThermal
  by_cases hfault :
      Ieee.lt battTempHighFaultC s.tempBatt || Ieee.lt s.tempBatt battTempLowFaultC
  · rw [if_pos hfault]
    refine iff_of_false (hworst _).1 ?_
    rintro ⟨_, hnotlow, hnothigh⟩
    rcases Bool.or_eq_true _ _ ▸ hfault with h | h
    · rw [hhigh h] at hnothigh
      cases hnothigh
    · rw [hlow h] at hnotlow
      cases hnotlow
  rw [if_neg hfault]
  by_cases hwarn : Ieee.lt battTempHighWarnC s.tempBatt || Ieee.lt s.tempBatt battTempLowWarnC
  · rw [if_pos hwarn]
    refine iff_of_false (hworst _).2 ?_
    rintro ⟨_, hnotlow, hnothigh⟩
    simp [hnotlow, hnothigh] at hwarn
  rw [if_neg hwarn]
  have hbatt : Ieee.lt s.tempBatt battTempLowWarnC = false ∧
      Ieee.lt battTempHighWarnC s.tempBatt = false := by
    simpa [and_comm] using hwarn
  rw [and_iff_left hbatt]
  cases hof : Ieee.lt obcTempFaultC s.tempObc with
  | true => simp [(hworst _).1, hobc hof]
  | false => cases how : Ieee.lt obcTempWarnC s.tempObc <;> simp [(hworst _).2]

theorem monitorBattery_ok_iff (s : SpacecraftState) :
    monitorBattery s = .ok ↔ battSocWarnPct ≤ s.batteryPct := by
  have hnested : s.batteryPct < battSocFaultPct → s.batteryPct < battSocWarnPct :=
    fun h => BitVec.lt_trans h (by decide)
  unfold monitorBattery
  rw [← BitVec.not_lt]
  by_cases hfault : s.batteryPct < battSocFaultPct
  · simp [hfault, hnested hfault]
  · by_cases hwarn : s.batteryPct < battSocWarnPct <;> simp [hfault, hwarn]

/-- The worst of four verdicts is health exactly when all four are. -/
theorem evaluate_ok : ∀ p t b w : Health,
    (evaluate [(p, fdirSrcPower), (t, fdirSrcThermal), (b, fdirSrcBattery),
      (w, fdirSrcWatchdog)]).1 = .ok ↔ p = .ok ∧ t = .ok ∧ b = .ok ∧ w = .ok := by
  decide

/-- **The verdict is health exactly when nothing is out of limits.** -/
theorem evaluate_ok_iff (s : SpacecraftState) (wd : Health) :
    (fdirEvaluate s wd).1 = .ok ↔ ¬OutOfLimits s wd := by
  rw [fdirEvaluate, evaluate_ok, monitorPower_ok_iff, monitorThermal_ok_iff, monitorBattery_ok_iff,
    OutOfLimits]
  push Not
  simp only [Bool.not_eq_true, BitVec.not_lt]
  tauto

/-- **The readings are within the limits exactly when nothing is out of them, nor a
NaN.** -/
theorem within_iff (s : SpacecraftState) (wd : Health) :
    Within s wd ↔ ¬HasNaN s ∧ ¬OutOfLimits s wd := by
  have hlimits : Ieee.isNaN vWarn = false ∧ Ieee.isNaN obcTempWarnC = false ∧
      Ieee.isNaN battTempLowWarnC = false ∧ Ieee.isNaN battTempHighWarnC = false := by decide
  obtain ⟨hbus, hobc, hlow, hhigh⟩ := hlimits
  unfold HasNaN OutOfLimits
  push Not
  constructor
  · rintro ⟨h₁, h₂, h₃, h₄, h₅, h₆⟩
    rw [Ieee.le_iff] at h₁ h₂ h₃ h₄
    simp [h₁, h₂, h₃, h₄, h₆, BitVec.not_lt.2 h₅]
  · rintro ⟨⟨n₁, n₂, n₃⟩, h₁, h₂, h₃, h₄, h₅, h₆⟩
    simp only [ne_eq, Bool.not_eq_true] at n₁ n₂ n₃ h₁ h₂ h₃ h₄
    refine ⟨Ieee.le_iff.2 ⟨hbus, n₁, h₁⟩, Ieee.le_iff.2 ⟨n₂, hobc, h₂⟩,
      Ieee.le_iff.2 ⟨hlow, n₃, h₃⟩, Ieee.le_iff.2 ⟨n₃, hhigh, h₄⟩, BitVec.not_lt.1 h₅, h₆⟩

/-! ## When health can be trusted -/

/-- A step from RECOVERING to NOMINAL is on a verdict of health, and reports it. -/
theorem FdirTrans.recovered_of {m m' : FdirMem} {worst : Health} {sources : U8}
    (h : FdirTrans m worst sources m') (hs : m.ctx.state = .recovering)
    (hs' : m'.ctx.state = .nominal) :
    worst = .ok ∧ ∃ e, m'.reports = m.reports ++ [e] ∧ e.id = evtRecovered := by
  cases h with
  | recovered _ hw =>
      refine ⟨hw, { m.ctx.merge sources with state := .nominal }.event evtRecovered .low worst,
        ?_, rfl⟩
      simp
  | safeEntered => cases hs'
  | attempted =>
      have hstill : m.ctx.state = .nominal := hs'
      rw [hs] at hstill
      cases hstill
  | confirmed hn | filtered hn | warned hn | calm hn | safe hn =>
      rw [hs] at hn
      cases hn

/-- **Health is what it says, except on a NaN.**

* For every state `s` and every watchdog result: a verdict of health comes with
  readings within the limits if and only if none of the readings is a NaN, or some
  other one is out of limits.
* In every run of cycles, kicks and ground exits: when the next cycle, on `s`, leaves
  RECOVERING for NOMINAL, it reports the recovery, and its readings are within the
  limits if and only if none of them is a NaN. -/
theorem healthy_iff (s : SpacecraftState) (b : Bus FdirMem) (hooks : Option FdirHooks)
    (confirmCycles : U8) (w : Watchdog) (ops : List CycleOp) :
    (∀ wd, ((fdirEvaluate s wd).1 = .ok → Within s wd) ↔ ¬HasNaN s ∨ OutOfLimits s wd) ∧
      let x := cycleRun b hooks confirmCycles w ops
      let y := cycleOp x (.cycle s)
      x.ctx.state = .recovering → y.ctx.state = .nominal →
        (∃ e, y.bus.user.reports = x.bus.user.reports ++ [e] ∧ e.id = evtRecovered) ∧
          (Within s (watchdogCheck x.watchdog).1 ↔ ¬HasNaN s) := by
  refine ⟨fun wd => ?_, ?_⟩
  · rw [evaluate_ok_iff, within_iff]
    by_cases hout : OutOfLimits s wd <;> simp [hout]
  · intro x y hx hy
    set wd := (watchdogCheck x.watchdog).1 with hwd
    have htrans := fdirCycle_trans tmIngest_fdirIngest x.bus s x.watchdog
    obtain ⟨hok, hreports⟩ := htrans.recovered_of hx hy
    refine ⟨hreports, ?_⟩
    rw [within_iff, and_iff_left ((evaluate_ok_iff s wd).1 hok)]

/-- A recovery on readings that are in order. -/
theorem healthy_iff_recovered :
    let low : SpacecraftState := ⟨0x40A00000, 80, 0x41C80000, 0x41A00000, .nominal⟩
    let good : SpacecraftState := ⟨0x41000000, 80, 0x41C80000, 0x41A00000, .nominal⟩
    let kicks : List CycleOp := [.kick 0, .kick 1, .kick 2]
    let w : Watchdog := ⟨#v[0, 0, 0], #v[0, 0, 0]⟩
    let b := obdhInit true true (fdirInit none)
    let x := cycleRun b none 1 w (kicks ++ .cycle low :: kicks)
    x.ctx.state = .recovering ∧ (cycleOp x (.cycle good)).ctx.state = .nominal ∧
      (Within good (watchdogCheck x.watchdog).1 ↔ ¬HasNaN good) := by
  intro low good kicks w b x
  have hbefore : x.ctx.state = .recovering := by decide +kernel
  have hafter : (cycleOp x (.cycle good)).ctx.state = .nominal := by decide +kernel
  exact ⟨hbefore, hafter, ((healthy_iff good b none 1 w _).2 hbefore hafter).2⟩

/-- A bus voltage that is a NaN, with everything else in order: the verdict is
health, and a recovery ends on it. -/
theorem nan_declared_healthy :
    let low : SpacecraftState := ⟨0x40A00000, 80, 0x41C80000, 0x41A00000, .nominal⟩
    let nan : SpacecraftState := ⟨0x7FC00000, 80, 0x41C80000, 0x41A00000, .nominal⟩
    let kicks : List CycleOp := [.kick 0, .kick 1, .kick 2]
    let w : Watchdog := ⟨#v[0, 0, 0], #v[0, 0, 0]⟩
    let x := cycleRun (obdhInit true true (fdirInit none)) none 1 w (kicks ++ .cycle low :: kicks)
    ((fdirEvaluate nan .ok).1 = .ok ∧ ¬Within nan .ok) ∧
      x.ctx.state = .recovering ∧ (cycleOp x (.cycle nan)).ctx.state = .nominal ∧
        ¬Within nan (watchdogCheck x.watchdog).1 := by
  intro low nan kicks w x
  have hnot : ∀ wd, ¬Within nan wd := by
    intro wd h
    exact absurd h.bus (by decide)
  exact ⟨⟨by decide, hnot _⟩, by decide +kernel, by decide +kernel, hnot _⟩

end Fdir
end SpacecraftFsw
