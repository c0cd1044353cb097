import SpacecraftFsw.Lib.Crc

/-!
# The shift register divides polynomials

A register of `w` bits is a polynomial over GF(2) of degree below `w`, and a message
is one too, its first bit with the highest power.  One round of the register then
multiplies by `X` and subtracts the divisor when the degree reaches `w`.

* `toPoly`, `toPoly_injective` — registers as polynomials.
* `messagePoly` — messages as polynomials.
* `feed_congr`, `run_congr` — one round, and a whole message, modulo the divisor.
* `toPoly_run` — the register ends with the remainder.
-/

namespace Crc

open Polynomial

variable {w : ℕ}

/-! ## Registers and messages as polynomials -/

/-- A bit as a coefficient. -/
def coeffOf (b : Bool) : ZMod 2 := if b then 1 else 0

@[simp] theorem coeffOf_false : coeffOf false = 0 := rfl

@[simp] theorem coeffOf_true : coeffOf true = 1 := rfl

theorem coeffOf_xor (a b : Bool) : coeffOf (a ^^ b) = coeffOf a + coeffOf b := by
  cases a <;> cases b <;> decide

theorem coeffOf_injective : Function.Injective coeffOf := by decide

/-- The polynomial of a register: bit `i` is the coefficient of `X ^ i`. -/
noncomputable def toPoly (r : BitVec w) : (ZMod 2)[X] :=
  Polynomial.ofFn w fun i => coeffOf (r.getLsbD i)

/-- The polynomial of a message: the first bit has the highest power. -/
noncomputable def messagePoly : List Bool → (ZMod 2)[X]
  | [] => 0
  | b :: bits => C (coeffOf b) * X ^ bits.length + messagePoly bits

/-- The divisor a generator stands for: its leading term is not stored. -/
noncomputable def divisor (g : BitVec w) : (ZMod 2)[X] := X ^ w + toPoly g

theorem coeff_toPoly (r : BitVec w) (i : ℕ) : (toPoly r).coeff i = coeffOf (r.getLsbD i) := by
  rcases Nat.lt_or_ge i w with hi | hi
  · rw [toPoly, ofFn_coeff_eq_val_of_lt _ hi]
  · rw [toPoly, ofFn_coeff_eq_zero_of_ge _ hi, BitVec.getLsbD_of_ge r i hi, coeffOf_false]

theorem degree_toPoly_lt (r : BitVec w) : (toPoly r).degree < w := ofFn_degree_lt _

/-- A register is known by its polynomial. -/
theorem toPoly_injective : Function.Injective (toPoly : BitVec w → (ZMod 2)[X]) := by
  intro r s h
  apply BitVec.eq_of_getLsbD_eq
  intro i _
  apply coeffOf_injective
  rw [← coeff_toPoly, ← coeff_toPoly, h]

theorem toPoly_xor (r s : BitVec w) : toPoly (r ^^^ s) = toPoly r + toPoly s := by
  ext i
  rw [coeff_add, coeff_toPoly, coeff_toPoly, coeff_toPoly, BitVec.getLsbD_xor, coeffOf_xor]

theorem divisor_monic (g : BitVec w) : (divisor g).Monic := monic_X_pow_add (degree_toPoly_lt g)

theorem degree_divisor (g : BitVec w) : (divisor g).degree = w := by
  rw [divisor, degree_add_eq_left_of_degree_lt, degree_X_pow]
  rw [degree_X_pow]
  exact degree_toPoly_lt g

/-! ## Rounds -/

/-- A left shift multiplies by `X` and loses the top bit. -/
theorem toPoly_shiftLeft (r : BitVec w) :
    toPoly (r <<< 1) = X * toPoly r + C (coeffOf r.msb) * X ^ w := by
  ext i
  rw [coeff_add, coeff_C_mul, coeff_X_pow, coeff_toPoly, BitVec.getLsbD_shiftLeft]
  cases i with
  | zero =>
      rw [mul_coeff_zero, coeff_X_zero, zero_mul, zero_add]
      cases w with
      | zero =>
          rw [BitVec.eq_nil r]
          simp
      | succ n => simp
  | succ i =>
      rw [coeff_X_mul, coeff_toPoly]
      rcases Nat.lt_trichotomy (i + 1) w with hlt | rfl | hgt
      · simp [hlt, hlt.ne]
      · -- the bit that leaves the register cancels against the top term
        rw [BitVec.msb_eq_getLsbD_last]
        simp [CharTwo.add_self_eq_zero]
      · have hout : r.getLsbD i = false := BitVec.getLsbD_of_ge r i (by omega)
        simp [hout, hgt.ne', Nat.not_lt.2 hgt.le]

variable (g : BitVec w)

/-- One shift multiplies by `X` modulo the divisor. -/
theorem toPoly_shift (r : BitVec w) :
    toPoly (shift g r) = X * toPoly r + C (coeffOf r.msb) * divisor g := by
  rw [shift, divisor, mul_add, ← add_assoc, ← toPoly_shiftLeft]
  cases r.msb with
  | false => simp
  | true => simp [toPoly_xor]

/-- A message bit enters one place above the register. -/
theorem toPoly_inject (b : Bool) (hw : 0 < w) :
    X * toPoly (inject w b) = C (coeffOf b) * X ^ w := by
  obtain ⟨n, rfl⟩ : ∃ n, w = n + 1 := ⟨w - 1, by omega⟩
  have htop : toPoly (inject (n + 1) b) = C (coeffOf b) * X ^ n := by
    ext i
    rw [coeff_toPoly, getLsbD_inject, coeff_C_mul, coeff_X_pow]
    by_cases hi : i = n
    · simp [hi]
    · simp [hi]
  rw [htop, pow_succ]
  ring

/-- One bit. -/
theorem feed_congr (hw : 0 < w) (r : BitVec w) (b : Bool) :
    divisor g ∣ toPoly (feed g r b) - (X * toPoly r + C (coeffOf b) * X ^ w) := by
  rw [feed, toPoly_shift, toPoly_xor, mul_add, toPoly_inject b hw, add_sub_cancel_left]
  exact dvd_mul_left _ _

/-- A whole message. -/
theorem run_congr (hw : 0 < w) (r : BitVec w) (bits : List Bool) :
    divisor g ∣ toPoly (run g r bits) -
      (toPoly r * X ^ bits.length + messagePoly bits * X ^ w) := by
  induction bits generalizing r with
  | nil => simp [messagePoly]
  | cons b bits ih =>
      have hfirst := (feed_congr g hw r b).mul_right (X ^ bits.length)
      have hsum := dvd_add (ih (feed g r b)) hfirst
      have hsplit : toPoly (run g r (b :: bits)) -
          (toPoly r * X ^ (b :: bits).length + messagePoly (b :: bits) * X ^ w) =
          toPoly (run g (feed g r b) bits) -
            (toPoly (feed g r b) * X ^ bits.length + messagePoly bits * X ^ w) +
          (toPoly (feed g r b) - (X * toPoly r + C (coeffOf b) * X ^ w)) * X ^ bits.length := by
        rw [run_cons, messagePoly, List.length_cons, pow_succ]
        ring
      rwa [hsplit]

/-- **The register ends with the remainder** of its content, moved up by the length of
the message, plus the message moved up by the width. -/
theorem toPoly_run (hw : 0 < w) (r : BitVec w) (bits : List Bool) :
    toPoly (run g r bits) =
      (toPoly r * X ^ bits.length + messagePoly bits * X ^ w) %ₘ divisor g := by
  rw [← modByMonic_eq_of_dvd_sub (divisor_monic g) (run_congr g hw r bits),
    (modByMonic_eq_self_iff (divisor_monic g)).2]
  rw [degree_divisor]
  exact degree_toPoly_lt _

end Crc
