import Mathlib

/-!
# Ordering binary32 values by their bit patterns

A single-precision value is its 32-bit pattern.  The quiet comparisons of the
standard see a pattern as a sign and a magnitude: the two zeros are equal, and a
NaN is not ordered against anything, itself included.

* `key` — the integer that orders the patterns that are not NaN.
* `lt_iff`, `lt_trans`, `le_iff`, `lt_of_le_of_lt` — what a verification of threshold
  checks uses of the order.
* `eq_self_iff` — the one value that is not equal to itself.
-/

namespace Ieee

/-- A binary32 value. -/
abbrev Binary32 := BitVec 32

/-- Exponent and fraction, without the sign. -/
def magnitude (x : Binary32) : BitVec 32 := x &&& 0x7FFFFFFF#32

/-- An all-ones exponent with a non-zero fraction. -/
def isNaN (x : Binary32) : Bool := magnitude x > 0x7F800000#32

/-- The signed magnitude. -/
def key (x : Binary32) : ℤ := if x.msb then -(magnitude x).toNat else (magnitude x).toNat

/-- `x < y`. -/
def lt (x y : Binary32) : Bool := !isNaN x && !isNaN y && decide (key x < key y)

theorem lt_iff {x y : Binary32} :
    lt x y = true ↔ isNaN x = false ∧ isNaN y = false ∧ key x < key y := by
  simp [lt, and_assoc]

theorem lt_trans {x y z : Binary32} (hxy : lt x y = true) (hyz : lt y z = true) :
    lt x z = true := by
  rw [lt_iff] at hxy hyz ⊢
  exact ⟨hxy.1, hyz.2.1, hxy.2.2.trans hyz.2.2⟩

/-- `x <= y`. -/
def le (x y : Binary32) : Bool := !isNaN x && !isNaN y && decide (key x ≤ key y)

/-- Not being beyond a limit is being within it, but for a NaN. -/
theorem le_iff {x y : Binary32} :
    le x y = true ↔ isNaN x = false ∧ isNaN y = false ∧ lt y x = false := by
  cases hx : isNaN x <;> cases hy : isNaN y <;> simp [le, lt, hx, hy]

theorem le_iff_key {x y : Binary32} :
    le x y = true ↔ isNaN x = false ∧ isNaN y = false ∧ key x ≤ key y := by
  simp [le, and_assoc]

theorem lt_of_le_of_lt {x y z : Binary32} (hxy : le x y = true) (hyz : lt y z = true) :
    lt x z = true := by
  rw [le_iff_key] at hxy
  rw [lt_iff] at hyz ⊢
  exact ⟨hxy.1, hyz.2.1, hxy.2.2.trans_lt hyz.2.2⟩

theorem lt_of_lt_of_le {x y z : Binary32} (hxy : lt x y = true) (hyz : le y z = true) :
    lt x z = true := by
  rw [le_iff_key] at hyz
  rw [lt_iff] at hxy ⊢
  exact ⟨hxy.1, hyz.2.1, hxy.2.2.trans_le hyz.2.2⟩

/-- `x == y`. -/
def eq (x y : Binary32) : Bool := !isNaN x && !isNaN y && decide (key x = key y)

/-- A value equals itself, but for a NaN. -/
theorem eq_self_iff {x : Binary32} : eq x x = true ↔ isNaN x = false := by
  simp [eq]

/-- A NaN is not below anything, nor above. -/
theorem not_isNaN_of_lt {x y : Binary32} (h : lt x y = true) :
    isNaN x = false ∧ isNaN y = false :=
  ⟨(lt_iff.1 h).1, (lt_iff.1 h).2.1⟩

end Ieee
