import SpacecraftFsw.Lib.Ieee
import SpacecraftFsw.Octets

/-!
# Health monitors

The monitors of `labs/05-fdir/fdir.c` and their evaluation.  Readings are
binary32 bit patterns, compared as the processor compares them.

* `fault_beyond_warning` — the limits are nested.
* `evaluate_sources` — what the source mask says about the result; the state
  machine's masks rest on it.
-/

namespace SpacecraftFsw
namespace Fdir

/-! ## Readings and thresholds -/

/-- `sc_mode_t`. -/
inductive ScMode
  | boot
  | nominal
  | safe
  deriving DecidableEq, Repr

/-- `spacecraft_state`. -/
structure SpacecraftState where
  busVoltage : Ieee.Binary32
  batteryPct : U8
  tempObc : Ieee.Binary32
  tempBatt : Ieee.Binary32
  mode : ScMode
  deriving DecidableEq, Repr

/-- `V_FAULT`, 6.0. -/
def vFault : Ieee.Binary32 := 0x40C00000#32
/-- `V_WARN`, 7.0. -/
def vWarn : Ieee.Binary32 := 0x40E00000#32
/-- `OBC_TEMP_WARN_C`, 60.0. -/
def obcTempWarnC : Ieee.Binary32 := 0x42700000#32
/-- `OBC_TEMP_FAULT_C`, 75.0. -/
def obcTempFaultC : Ieee.Binary32 := 0x42960000#32
/-- `BATT_TEMP_HIGH_WARN_C`, 40.0. -/
def battTempHighWarnC : Ieee.Binary32 := 0x42200000#32
/-- `BATT_TEMP_HIGH_FAULT_C`, 50.0. -/
def battTempHighFaultC : Ieee.Binary32 := 0x42480000#32
/-- `BATT_TEMP_LOW_WARN_C`, 0.0. -/
def battTempLowWarnC : Ieee.Binary32 := 0x00000000#32
/-- `BATT_TEMP_LOW_FAULT_C`, -10.0. -/
def battTempLowFaultC : Ieee.Binary32 := 0xC1200000#32
/-- `BATT_SOC_WARN_PCT`. -/
def battSocWarnPct : U8 := 30
/-- `BATT_SOC_FAULT_PCT`. -/
def battSocFaultPct : U8 := 15

/-- `health_t`. -/
inductive Health
  | ok
  | warn
  | fault
  deriving DecidableEq, Repr

instance : Fintype Health where
  elems := {.ok, .warn, .fault}
  complete h := by cases h <;> decide

/-- The value of the enumerator. -/
def Health.code : Health → ℕ
  | .ok => 0
  | .warn => 1
  | .fault => 2

/-- `health_worst`. -/
def healthWorst (a b : Health) : Health := if a.code > b.code then a else b

/-- Every fault limit lies beyond its warning limit. -/
theorem fault_beyond_warning (x : Ieee.Binary32) :
    (Ieee.lt x vFault → Ieee.lt x vWarn) ∧ (Ieee.lt obcTempFaultC x → Ieee.lt obcTempWarnC x) ∧
      (Ieee.lt battTempHighFaultC x → Ieee.lt battTempHighWarnC x) ∧
      (Ieee.lt x battTempLowFaultC → Ieee.lt x battTempLowWarnC) := by
  refine ⟨fun h => Ieee.lt_trans h ?_, fun h => Ieee.lt_trans ?_ h,
    fun h => Ieee.lt_trans ?_ h, fun h => Ieee.lt_trans h ?_⟩ <;> decide

/-! ## The monitors -/

/-- `monitor_power`. -/
def monitorPower (s : SpacecraftState) : Health :=
  if Ieee.lt s.busVoltage vFault then .fault
  else if Ieee.lt s.busVoltage vWarn then .warn
  else .ok

/-- `monitor_thermal`. -/
def monitorThermal (s : SpacecraftState) : Health :=
  let h := Health.ok
  let h := if Ieee.lt obcTempFaultC s.tempObc then healthWorst h .fault
    else if Ieee.lt obcTempWarnC s.tempObc then healthWorst h .warn else h
  if Ieee.lt battTempHighFaultC s.tempBatt || Ieee.lt s.tempBatt battTempLowFaultC then
    healthWorst h .fault
  else if Ieee.lt battTempHighWarnC s.tempBatt || Ieee.lt s.tempBatt battTempLowWarnC then
    healthWorst h .warn
  else h

/-- `monitor_battery`. -/
def monitorBattery (s : SpacecraftState) : Health :=
  if s.batteryPct < battSocFaultPct then .fault
  else if s.batteryPct < battSocWarnPct then .warn
  else .ok

/-! ## Evaluation -/

/-- `FDIR_SRC_POWER`, `FDIR_SRC_THERMAL`, `FDIR_SRC_BATTERY`, `FDIR_SRC_WATCHDOG`. -/
def fdirSrcPower : U8 := 0x01
def fdirSrcThermal : U8 := 0x02
def fdirSrcBattery : U8 := 0x04
def fdirSrcWatchdog : U8 := 0x08

/-- The two loops of `fdir_evaluate`, over `per` and `bit` together: the worst
severity, and the mask of the entries at that severity. -/
def evaluate (per : List (Health × U8)) : Health × U8 :=
  let worst := per.foldl (fun w h => healthWorst w h.1) .ok
  let mask := if worst ≠ .ok then
    per.foldl (fun m h => if h.1 = worst then m ||| h.2 else m) 0 else 0
  (worst, mask)

/-- `fdir_evaluate`: the worst severity, and `*sources`. -/
def fdirEvaluate (s : SpacecraftState) (watchdogResult : Health) : Health × U8 :=
  evaluate [(monitorPower s, fdirSrcPower), (monitorThermal s, fdirSrcThermal),
    (monitorBattery s, fdirSrcBattery), (watchdogResult, fdirSrcWatchdog)]

/-- What the source mask says: it is empty exactly in health, and it names the
watchdog exactly when the watchdog is at the worst level. -/
theorem evaluate_sources : ∀ p t b w : Health,
    let r := evaluate [(p, fdirSrcPower), (t, fdirSrcThermal), (b, fdirSrcBattery),
      (w, fdirSrcWatchdog)]
    (r.2 = 0 ↔ r.1 = .ok) ∧ (r.2 &&& fdirSrcWatchdog ≠ 0 ↔ w = r.1 ∧ w ≠ .ok) ∧
      (w = .fault → r.1 = .fault) := by
  decide

end Fdir
end SpacecraftFsw
