import SpacecraftFsw.Lib.CrcDivision
import SpacecraftFsw.Tmtc.Tc

/-!
# The checksum as a remainder

`tc_crc16` of `labs/03-tmtc/tc.c` computes polynomial division: its bit loop is the
shift register of `Crc`, whose end is the remainder.

* `divisor_ccitt` — the divisor is `X ^ 16 + X ^ 12 + X ^ 5 + 1`.
* `toPoly_initial` — the initial value is the polynomial with every coefficient 1.
* `tcCrc16_division` — the checksum of every message, and what follows from it.
-/

namespace SpacecraftFsw
namespace Tmtc

open Polynomial

/-- The polynomial of a message: the most significant bit of the first octet has the
highest power. -/
noncomputable def octetPoly (buf : Bytes) : (ZMod 2)[X] := Crc.messagePoly (octetBits buf)

theorem toPoly_ccitt : Crc.toPoly ccitt = X ^ 12 + X ^ 5 + 1 := by
  ext i
  rw [Crc.coeff_toPoly, coeff_add, coeff_add, coeff_X_pow, coeff_X_pow, coeff_one]
  rcases Nat.lt_or_ge i 16 with hi | hi
  · interval_cases i <;> rfl
  · rw [BitVec.getLsbD_of_ge _ i hi, if_neg (by omega), if_neg (by omega), if_neg (by omega)]
    rfl

theorem divisor_ccitt : Crc.divisor ccitt = X ^ 16 + X ^ 12 + X ^ 5 + 1 := by
  rw [Crc.divisor, toPoly_ccitt]
  ring

theorem toPoly_initial : Crc.toPoly 0xFFFF#16 = ∑ i ∈ Finset.range 16, X ^ i := by
  ext i
  have hones : (0xFFFF#16).getLsbD i = decide (i < 16) := BitVec.getLsbD_allOnes
  rw [Crc.coeff_toPoly, finsetSum_coeff, hones]
  simp only [coeff_X_pow, Finset.sum_ite_eq, Finset.mem_range, Crc.coeffOf, decide_eq_true_eq]

/-- The checksum of a message is a remainder. -/
theorem toPoly_tcCrc16 (buf : Bytes) :
    Crc.toPoly (tcCrc16 buf) =
      (octetPoly buf * X ^ 16 + (∑ i ∈ Finset.range 16, X ^ i) * X ^ (8 * buf.length)) %ₘ
        (X ^ 16 + X ^ 12 + X ^ 5 + 1) := by
  rw [tcCrc16_eq_run, Crc.toPoly_run ccitt (by decide), toPoly_initial, divisor_ccitt,
    length_octetBits, octetPoly, add_comm]

/-- The checksums of two messages of one length differ by the run of their
difference, from an empty register. -/
theorem tcCrc16_xor {a b : Bytes} (h : a.length = b.length) :
    tcCrc16 a ^^^ tcCrc16 b =
      Crc.run ccitt 0#16 (octetBits (List.zipWith (· ^^^ ·) a b)) := by
  have hbits : (octetBits a).length = (octetBits b).length := by
    rw [length_octetBits, length_octetBits, h]
  rw [octetBits_xor h, tcCrc16_eq_run, tcCrc16_eq_run, ← Crc.run_xor ccitt _ _ hbits,
    BitVec.xor_self]

/-- **The checksum is polynomial division.**  For every message:

* `r` is the checksum exactly if its polynomial is the remainder of
  `m(x) * x ^ 16 + (x ^ 15 + ⋯ + 1) * x ^ (8 * |m|)` modulo `x ^ 16 + x ^ 12 + x ^ 5 + 1`;
* the checksums of two messages of one length differ by a function of the
  difference of the messages;
* a message followed by its checksum, high octet first, has the checksum 0. -/
theorem tcCrc16_division :
    (∀ (m : Bytes) (r : U16), tcCrc16 m = r ↔
      Crc.toPoly r =
        (octetPoly m * X ^ 16 + (∑ i ∈ Finset.range 16, X ^ i) * X ^ (8 * m.length)) %ₘ
          (X ^ 16 + X ^ 12 + X ^ 5 + 1)) ∧
    (∃ f : Bytes → U16, ∀ a b : Bytes, a.length = b.length →
      tcCrc16 a ^^^ tcCrc16 b = f (List.zipWith (· ^^^ ·) a b)) ∧
    ∀ m : Bytes, tcCrc16 (m ++ [hi8 (tcCrc16 m), lo8 (tcCrc16 m)]) = 0#16 := by
  refine ⟨?_, ?_, ?_⟩
  · intro m r
    rw [← toPoly_tcCrc16, Crc.toPoly_injective.eq_iff, eq_comm]
  · exact ⟨fun d => Crc.run ccitt 0#16 (octetBits d), fun a b h => tcCrc16_xor h⟩
  · intro m
    rw [tcCrc16_append, be16_hi8_lo8]

end Tmtc
end SpacecraftFsw
