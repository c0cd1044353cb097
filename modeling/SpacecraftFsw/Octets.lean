import Mathlib

/-!
# Octets and big-endian words

The fixed-width integers of the C sources (`uint8_t`, `uint16_t`, `uint32_t`,
`size_t`) are bit vectors here, so that wrap-around is the wrap-around of the
code, and a buffer passed with its length is a list of octets.

* `be16`, `hi8`, `lo8` — the shift-and-mask idiom every packer and parser of the
  repository uses, with its two round trips (`be16_hi8_lo8`, `hi8_be16`,
  `lo8_be16`).
* `bits` — an octet as it is transmitted, most significant bit first; `octetBits`
  does the same for a whole buffer.
-/

namespace SpacecraftFsw

/-- `uint8_t`. -/
abbrev U8 := BitVec 8

/-- `uint16_t`. -/
abbrev U16 := BitVec 16

/-- `uint32_t`. -/
abbrev U32 := BitVec 32

/-- `size_t` on the 64-bit host. -/
abbrev Size := BitVec 64

/-- A buffer passed together with its true length. -/
abbrev Bytes := List U8

/-- `buf[i]`. -/
def octet (buf : Bytes) (i : ℕ) : U8 := buf.getD i 0

/-! ## Sixteen-bit words -/

/-- `((uint16_t) p[0] << 8) | p[1]`. -/
def be16 (hi lo : U8) : U16 := (hi.setWidth 16 <<< 8) ||| lo.setWidth 16

/-- `(uint8_t) (w >> 8)`. -/
def hi8 (w : U16) : U8 := (w >>> 8).setWidth 8

/-- `(uint8_t) (w & 0xFFu)`. -/
def lo8 (w : U16) : U8 := (w &&& 0xFF#16).setWidth 8

@[simp] theorem be16_hi8_lo8 (w : U16) : be16 (hi8 w) (lo8 w) = w := by
  unfold be16 hi8 lo8
  ext i hi
  simp only [BitVec.getElem_or, BitVec.getElem_shiftLeft, BitVec.getElem_setWidth]
  interval_cases i <;> simp

@[simp] theorem hi8_be16 (a b : U8) : hi8 (be16 a b) = a := by
  unfold be16 hi8
  ext i hi
  simp only [BitVec.getElem_setWidth, BitVec.getLsbD_ushiftRight, BitVec.getLsbD_or,
    BitVec.getLsbD_shiftLeft, BitVec.getLsbD_setWidth]
  interval_cases i <;> simp

@[simp] theorem lo8_be16 (a b : U8) : lo8 (be16 a b) = b := by
  unfold be16 lo8
  ext i hi
  simp only [BitVec.getElem_setWidth, BitVec.getLsbD_and, BitVec.getLsbD_or,
    BitVec.getLsbD_shiftLeft, BitVec.getLsbD_setWidth]
  interval_cases i <;> simp

/-- Masking the low bits is a remainder. -/
theorem and_lowMask {w : ℕ} (x : BitVec w) {k : ℕ} (hk : k < w) :
    x &&& BitVec.ofNat w (2 ^ k - 1) = x % BitVec.ofNat w (2 ^ k) := by
  have hpow : 2 ^ k < 2 ^ w := Nat.pow_lt_pow_right Nat.one_lt_two hk
  have hmask : 2 ^ k - 1 < 2 ^ w := (Nat.sub_le _ _).trans_lt hpow
  apply BitVec.eq_of_toNat_eq
  rw [BitVec.toNat_and, BitVec.toNat_umod, BitVec.toNat_ofNat, BitVec.toNat_ofNat,
    Nat.mod_eq_of_lt hpow, Nat.mod_eq_of_lt hmask, Nat.and_two_pow_sub_one_eq_mod]

/-- A union of masks is empty exactly if both are. -/
theorem or_ne_zero_iff {a b : U8} : a ||| b ≠ 0 ↔ a ≠ 0 ∨ b ≠ 0 := by
  rw [ne_eq, show (a ||| b = 0 ↔ _) from BitVec.or_eq_zero_iff, not_and_or]
  rfl

/-! ## Transmission order -/

/-- The bits of an octet in the order they are sent. -/
def bits (b : U8) : List Bool := (List.range 8).map b.getMsbD

/-- The bits of a buffer in the order they are sent. -/
def octetBits (buf : Bytes) : List Bool := buf.flatMap bits

@[simp] theorem length_bits (b : U8) : (bits b).length = 8 := by simp [bits]

@[simp] theorem octetBits_nil : octetBits [] = [] := rfl

@[simp] theorem octetBits_cons (b : U8) (buf : Bytes) :
    octetBits (b :: buf) = bits b ++ octetBits buf := rfl

@[simp] theorem length_octetBits (buf : Bytes) : (octetBits buf).length = 8 * buf.length := by
  induction buf with
  | nil => rfl
  | cons b buf ih => simp [ih]; omega

theorem bits_xor (a b : U8) : bits (a ^^^ b) = List.zipWith xor (bits a) (bits b) := by
  simp [bits, List.range_succ, BitVec.getMsbD_xor]

/-- Flipping bits of the octets is flipping bits of the transmission. -/
theorem octetBits_xor {x y : Bytes} (h : x.length = y.length) :
    octetBits (List.zipWith (· ^^^ ·) x y) = List.zipWith xor (octetBits x) (octetBits y) := by
  induction x generalizing y with
  | nil => rfl
  | cons a x ih =>
      cases y with
      | nil => simp at h
      | cons b y =>
          rw [List.zipWith_cons_cons, octetBits_cons, octetBits_cons, octetBits_cons,
            List.zipWith_append (by simp), ← bits_xor, ih (by simpa using h)]

/-! ## Buffers -/

/-- A buffer is its first `n` octets followed by the rest, read octet by octet. -/
theorem cons_octet_drop {buf : Bytes} {n : ℕ} (h : n < buf.length) :
    octet buf n :: buf.drop (n + 1) = buf.drop n := by
  rw [octet, List.getD_eq_getElem _ _ h, ← List.drop_eq_getElem_cons h]

@[simp] theorem octet_cons_zero (b : U8) (buf : Bytes) : octet (b :: buf) 0 = b := rfl

@[simp] theorem octet_cons_succ (b : U8) (buf : Bytes) (i : ℕ) :
    octet (b :: buf) (i + 1) = octet buf i := by simp [octet]

theorem octet_append_right {x y : Bytes} (i : ℕ) :
    octet (x ++ y) (x.length + i) = octet y i := by
  simp [octet, List.getElem?_append_right]

end SpacecraftFsw
