import SpacecraftFsw.Lib.Ieee
import SpacecraftFsw.Octets

/-!
# The standalone housekeeping program

`labs/01-foundation/hk_telemetry.c`: sampling, the limit check and the loop of
`main`.  The RTOS programs reuse the two functions, so the state record is modelled
as the memory it is, with a mode word that nothing need have written.

* `sampleState`, `applyLimits` — the two functions; `applyLimits_mode` is what the
  second does to the mode.
* `hkMain` — the frames of the program, for any profile of readings.
* `hkMain_mode` — a frame is in safe mode exactly from the first undervoltage on.
-/

namespace SpacecraftFsw
namespace Foundation

/-! ## The state record -/

/-- The enumerators of `sc_mode_t`, as they are stored. -/
def modeBoot : U32 := 0
def modeNominal : U32 := 1
def modeSafe : U32 := 2

/-- `spacecraft_state`, the mode as the word it is stored in. -/
structure SpacecraftState where
  busVoltage : Ieee.Binary32
  batteryPct : U8
  tempObc : Ieee.Binary32
  tempBatt : Ieee.Binary32
  mode : U32
  deriving DecidableEq, Repr

/-- `BUS_VOLTAGE_MIN`, 6.0. -/
def busVoltageMin : Ieee.Binary32 := 0x40C00000#32

/-- `HK_NUM_CYCLES`. -/
def hkNumCycles : ℕ := 10

/-- `HK_CYCLE_MS`. -/
def hkCycleMs : BitVec 64 := 200

/-- What the sensors give at one call of `sample_state`. -/
structure Reading where
  busVoltage : Ieee.Binary32
  batteryPct : U8
  tempObc : Ieee.Binary32
  tempBatt : Ieee.Binary32
  deriving DecidableEq, Repr

/-- `sample_state`, at a call that finds `r` in the profile.  The mode is not written. -/
def sampleState (r : Reading) (s : SpacecraftState) : SpacecraftState :=
  { s with
    busVoltage := r.busVoltage
    batteryPct := r.batteryPct
    tempObc := r.tempObc
    tempBatt := r.tempBatt }

/-- `apply_limits`. -/
def applyLimits (s : SpacecraftState) : SpacecraftState :=
  if Ieee.lt s.busVoltage busVoltageMin then { s with mode := modeSafe }
  else if s.mode ≠ modeSafe then { s with mode := modeNominal }
  else s

/-- A reading below the limit. -/
def Reading.under (r : Reading) : Prop := Ieee.lt r.busVoltage busVoltageMin = true

instance (r : Reading) : Decidable r.under := inferInstanceAs (Decidable (_ = _))

/-- **The mode after a sample and its limit check**: safe on an undervoltage, and
where the record said so already. -/
theorem applyLimits_mode (r : Reading) (s : SpacecraftState) :
    (applyLimits (sampleState r s)).mode =
      if r.under ∨ s.mode = modeSafe then modeSafe else modeNominal := by
  unfold applyLimits sampleState Reading.under
  by_cases hunder : Ieee.lt r.busVoltage busVoltageMin = true
  · simp [hunder]
  · by_cases hsafe : s.mode = modeSafe <;> simp [hunder, hsafe]

/-! ## The program -/

/-- A frame of `emit_hk_frame`: its number, the simulated time and the state. -/
structure HkFrame where
  frame : ℕ
  tMs : BitVec 64
  state : SpacecraftState
  deriving DecidableEq, Repr

/-- The loop of `main`, for `left` more frames. -/
def hkLoop (profile : ℕ → Reading) : ℕ → ℕ → BitVec 64 → SpacecraftState → List HkFrame
  | 0, _, _, _ => []
  | left + 1, frame, tick, s =>
    let s := applyLimits (sampleState (profile frame) s)
    ⟨frame, tick, s⟩ :: hkLoop profile left (frame + 1) (tick + hkCycleMs) s

/-- The record `main` begins with. -/
def hkStart : SpacecraftState := ⟨0, 0, 0, 0, modeBoot⟩

/-- The frames of `main`, for a profile of `n` readings. -/
def hkMain (profile : ℕ → Reading) (n : ℕ) : List HkFrame := hkLoop profile n 0 0 hkStart

/-- The mode of the program's frame `k`: safe once there has been an undervoltage. -/
def latched (profile : ℕ → Reading) (k : ℕ) : U32 :=
  if ∃ j ≤ k, (profile j).under then modeSafe else modeNominal

/-- An undervoltage so far is one now or one before. -/
theorem under_upTo_iff (profile : ℕ → Reading) (k : ℕ) :
    (∃ j ≤ k, (profile j).under) ↔ (profile k).under ∨ ∃ j < k, (profile j).under := by
  simp only [Nat.le_iff_lt_or_eq, or_and_right, exists_or, exists_eq_left]
  exact or_comm

theorem latched_eq_safe (profile : ℕ → Reading) (k : ℕ) :
    latched profile k = modeSafe ↔ ∃ j ≤ k, (profile j).under := by
  unfold latched
  split
  · rename_i hunder
    simp [hunder]
  · rename_i hnone
    simp only [hnone, iff_false]
    decide

/-- The loop from a record that knows of the undervoltages so far. -/
theorem hkLoop_mode (profile : ℕ → Reading) (left frame : ℕ) (tick : BitVec 64)
    (s : SpacecraftState) (hs : s.mode = modeSafe ↔ ∃ j < frame, (profile j).under) :
    ∀ f ∈ hkLoop profile left frame tick s, f.state.mode = latched profile f.frame := by
  induction left generalizing frame tick s with
  | zero => simp [hkLoop]
  | succ left ih =>
      have hmode : (applyLimits (sampleState (profile frame) s)).mode = latched profile frame := by
        rw [applyLimits_mode, latched]
        simp only [hs, under_upTo_iff]
      have hsafe : (applyLimits (sampleState (profile frame) s)).mode = modeSafe ↔
          ∃ j < frame + 1, (profile j).under := by
        rw [hmode, latched_eq_safe]
        simp only [Nat.lt_succ_iff]
      intro f hf
      rw [hkLoop, List.mem_cons] at hf
      rcases hf with rfl | hf
      · exact hmode
      · exact ih (frame + 1) (tick + hkCycleMs) _ hsafe f hf

/-- The loop numbers its frames from `frame` on. -/
theorem hkLoop_frames (profile : ℕ → Reading) (left frame : ℕ) (tick : BitVec 64)
    (s : SpacecraftState) :
    (hkLoop profile left frame tick s).map HkFrame.frame = List.range' frame left := by
  induction left generalizing frame tick s with
  | zero => rfl
  | succ left ih => simp [hkLoop, List.range'_succ, ih]

/-- **The standalone program**: frame `k` is in safe mode if there was an undervoltage
in it or before it, and nominal otherwise. -/
theorem hkMain_mode (profile : ℕ → Reading) (n : ℕ) :
    (hkMain profile n).map HkFrame.frame = List.range n ∧
      ∀ f ∈ hkMain profile n, f.state.mode = latched profile f.frame := by
  constructor
  · rw [hkMain, hkLoop_frames, List.range_eq_range']
  · exact hkLoop_mode profile n 0 0 hkStart (by simp [hkStart, modeBoot, modeSafe])

end Foundation
end SpacecraftFsw
