import Mathlib

/-!
# Cyclic redundancy checks as a shift register

A cyclic redundancy check of width `w` is a register of `w` bits that is shifted
once per message bit, the generator `g` being folded in whenever a one leaves
the register.  This file proves, for an arbitrary width and generator, which
error patterns such a register cannot miss.

* `run_xor` — the register is linear: two messages run side by side differ by
  the run of their difference.
* `shift_injective` — with the lowest bit of `g` set a shift loses nothing, so
  whatever is in the register after the last flipped bit survives to the end.
* `run_eq_iterate` — feeding at most `w` bits one by one is the same as adding
  them in at the top all at once; this is what lets an implementation take a
  whole octet per round.
* `run_ne_zero_of_odd`, `run_ne_zero_of_burst`, `run_ne_zero_of_two` — odd error
  patterns (when `g` has an odd number of ones), bursts no longer than the
  register, and double errors closer than the order of `x` modulo `g`.
-/

namespace Crc

variable {w : ℕ} (g : BitVec w)

/-! ## The register -/

/-- One shift: multiplication by `x` modulo `x ^ w + g`. -/
def shift (r : BitVec w) : BitVec w :=
  if r.msb then (r <<< 1) ^^^ g else r <<< 1

/-- A message bit, placed at the top of the register. -/
def inject (w : ℕ) (b : Bool) : BitVec w := if b then BitVec.intMin w else 0#w

/-- Feed one message bit. -/
def feed (r : BitVec w) (b : Bool) : BitVec w := shift g (r ^^^ inject w b)

/-- Feed a whole message, first bit first. -/
def run (r : BitVec w) (bits : List Bool) : BitVec w := bits.foldl (feed g) r

@[simp] theorem run_nil (r : BitVec w) : run g r [] = r := rfl

@[simp] theorem run_cons (r : BitVec w) (b : Bool) (bits : List Bool) :
    run g r (b :: bits) = run g (feed g r b) bits := rfl

theorem run_append (r : BitVec w) (x y : List Bool) :
    run g r (x ++ y) = run g (run g r x) y := by
  simp [run, List.foldl_append]

@[simp] theorem inject_false : inject w false = 0#w := rfl

@[simp] theorem inject_true : inject w true = BitVec.intMin w := rfl

theorem feed_false (r : BitVec w) : feed g r false = shift g r := by
  simp [feed]

/-! ## Linearity -/

@[simp] theorem shift_zero : shift g 0#w = 0#w := by
  simp [shift]

theorem shift_xor (a b : BitVec w) : shift g (a ^^^ b) = shift g a ^^^ shift g b := by
  unfold shift
  rw [BitVec.msb_xor, BitVec.shiftLeft_xor_distrib]
  cases a.msb <;> cases b.msb
  · rfl
  · simp [BitVec.xor_assoc]
  · simp only [Bool.xor_false, if_true, Bool.false_eq_true, if_false]
    rw [BitVec.xor_assoc, BitVec.xor_assoc, BitVec.xor_comm g]
  · simp only [Bool.xor_self, Bool.false_eq_true, if_false, if_true]
    rw [BitVec.xor_assoc, BitVec.xor_comm (b <<< 1) g, ← BitVec.xor_assoc g, BitVec.xor_self,
      BitVec.zero_xor]

@[simp] theorem iterate_shift_zero (n : ℕ) : (shift g)^[n] 0#w = 0#w := by
  induction n with
  | zero => rfl
  | succ n ih => rw [Function.iterate_succ_apply, shift_zero, ih]

theorem inject_xor (a b : Bool) : inject w (a ^^ b) = inject w a ^^^ inject w b := by
  cases a <;> cases b <;> simp

theorem feed_xor (r s : BitVec w) (a b : Bool) :
    feed g (r ^^^ s) (a ^^ b) = feed g r a ^^^ feed g s b := by
  unfold feed
  rw [inject_xor, ← shift_xor]
  congr 1
  rw [BitVec.xor_assoc, BitVec.xor_assoc, ← BitVec.xor_assoc s, BitVec.xor_comm s,
    BitVec.xor_assoc (inject w a)]

/-- **The register is linear.**  Running the difference of two messages of equal
length gives the difference of the two registers. -/
theorem run_xor (r s : BitVec w) {x y : List Bool} (h : x.length = y.length) :
    run g (r ^^^ s) (List.zipWith xor x y) = run g r x ^^^ run g s y := by
  induction x generalizing r s y with
  | nil =>
      obtain rfl : y = [] := List.length_eq_zero_iff.1 h.symm
      rfl
  | cons a x ih =>
      cases y with
      | nil => simp at h
      | cons b y =>
          simp only [List.zipWith_cons_cons, run_cons, feed_xor]
          exact ih _ _ (by simpa using h)

/-! ## Runs of zeros -/

theorem run_replicate_false (r : BitVec w) (n : ℕ) :
    run g r (List.replicate n false) = (shift g)^[n] r := by
  induction n generalizing r with
  | zero => rfl
  | succ n ih => rw [List.replicate_succ, run_cons, feed_false, ih, Function.iterate_succ_apply]

theorem eq_replicate_of_all_false {e : List Bool} (h : true ∉ e) :
    e = List.replicate e.length false := by
  refine List.eq_replicate_of_mem fun b hb => ?_
  cases b with
  | false => rfl
  | true => exact absurd hb h

/-- The flipped bits of a pattern start somewhere. -/
theorem exists_first_true {e : List Bool} (h : true ∈ e) :
    ∃ a e', e = List.replicate a false ++ true :: e' := by
  induction e with
  | nil => simp at h
  | cons b e ih =>
      cases b with
      | true => exact ⟨0, e, rfl⟩
      | false =>
          obtain ⟨a, e', rfl⟩ := ih (by simpa using h)
          exact ⟨a + 1, e', by simp [List.replicate_succ]⟩

/-! ## Shifting loses nothing -/

theorem shift_eq_zero_iff (hg : g.getLsbD 0 = true) (r : BitVec w) : shift g r = 0#w ↔ r = 0#w := by
  refine ⟨fun h => ?_, fun h => by rw [h, shift_zero]⟩
  unfold shift at h
  split at h
  · -- the bit shifted in at the bottom is zero, so the generator's lowest bit shows
    have h0 := congrArg (fun x => x.getLsbD 0) h
    simp [hg] at h0
  · rename_i hmsb
    refine BitVec.eq_of_getLsbD_eq fun i hi => ?_
    by_cases hlast : i + 1 = w
    · have hm : r.msb = r.getLsbD i := by
        rw [BitVec.msb_eq_getLsbD_last, show w - 1 = i by omega]
      rw [← hm]; simpa using hmsb
    · have h1 := congrArg (fun x => x.getLsbD (i + 1)) h
      have hi1 : i + 1 < w := by omega
      rw [BitVec.getLsbD_shiftLeft] at h1
      simpa only [hi1, decide_true, Nat.add_sub_cancel, Nat.le_add_left, Nat.not_lt.2,
        decide_false, Bool.not_false, Bool.true_and, BitVec.getLsbD_zero] using h1

theorem shift_injective (hg : g.getLsbD 0 = true) : Function.Injective (shift g) := by
  intro a b h
  have h0 : shift g (a ^^^ b) = 0#w := by rw [shift_xor, h, BitVec.xor_self]
  exact BitVec.xor_eq_zero_iff.1 ((shift_eq_zero_iff g hg _).1 h0)

theorem iterate_shift_ne_zero (hg : g.getLsbD 0 = true) (n : ℕ) {r : BitVec w} (hr : r ≠ 0#w) :
    (shift g)^[n] r ≠ 0#w := by
  intro h
  refine hr ((shift_injective g hg).iterate n ?_)
  rw [h, iterate_shift_zero]

/-! ## Feeding a word at once -/

/-- A string of at most `w` bits as a register value, first bit at the top. -/
def pack (w : ℕ) : List Bool → BitVec w
  | [] => 0#w
  | b :: bs => inject w b ^^^ (pack w bs >>> 1)

theorem getLsbD_inject (b : Bool) (i : ℕ) :
    (inject w b).getLsbD i = (b && decide (i + 1 = w)) := by
  cases b with
  | false => simp
  | true =>
      simp only [inject_true, BitVec.getLsbD_intMin, Bool.true_and]

theorem getLsbD_pack_of_short {bs : List Bool} {i : ℕ} (h : i + bs.length < w) :
    (pack w bs).getLsbD i = false := by
  induction bs generalizing i with
  | nil => simp [pack]
  | cons b bs ih =>
      simp only [List.length_cons] at h
      simp only [pack, BitVec.getLsbD_xor, getLsbD_inject, BitVec.getLsbD_ushiftRight]
      rw [show 1 + i = i + 1 by omega, ih (by omega)]
      simp
      omega

/-- A value whose lowest bit is clear can be moved down and shifted back up. -/
theorem shift_ushiftRight {r : BitVec w} (h : r.getLsbD 0 = false) : shift g (r >>> 1) = r := by
  have hmsb : (r >>> 1).msb = false := by
    rw [BitVec.msb_eq_getLsbD_last, BitVec.getLsbD_ushiftRight]
    exact BitVec.getLsbD_of_ge _ _ (by omega)
  rw [shift, hmsb, if_neg (by simp)]
  refine BitVec.eq_of_getLsbD_eq fun i hi => ?_
  rw [BitVec.getLsbD_shiftLeft, BitVec.getLsbD_ushiftRight]
  cases i with
  | zero => simp [h]
  | succ i => simp [hi, Nat.add_comm 1 i]

/-- **A word at a time.**  Feeding at most `w` bits one after the other is adding
them in at the top of the register and then shifting once per bit. -/
theorem run_eq_iterate (r : BitVec w) {bs : List Bool} (h : bs.length ≤ w) :
    run g r bs = (shift g)^[bs.length] (r ^^^ pack w bs) := by
  induction bs generalizing r with
  | nil => simp [pack]
  | cons b bs ih =>
      simp only [List.length_cons] at h
      have hlow : (pack w bs).getLsbD 0 = false := getLsbD_pack_of_short (by omega)
      rw [run_cons, ih _ (by omega), feed, List.length_cons, Function.iterate_succ_apply, pack,
        ← BitVec.xor_assoc, shift_xor g (r ^^^ inject w b), shift_ushiftRight g hlow]

theorem pack_append (x y : List Bool) :
    pack w (x ++ y) = pack w x ^^^ (pack w y >>> x.length) := by
  induction x with
  | nil => simp [pack]
  | cons b x ih =>
      rw [List.cons_append, pack, ih, pack, BitVec.ushiftRight_xor_distrib, ← BitVec.xor_assoc,
        ← BitVec.shiftRight_add, List.length_cons]

theorem pack_ne_zero {bs : List Bool} (h : bs.length ≤ w) (hb : true ∈ bs) : pack w bs ≠ 0#w := by
  induction bs with
  | nil => simp at hb
  | cons b bs ih =>
      simp only [List.length_cons] at h
      intro h0
      cases b with
      | true =>
          have htop := congrArg (fun x => x.getLsbD (w - 1)) h0
          have hlast : w - 1 + 1 = w := by omega
          simp only [pack, BitVec.getLsbD_xor, getLsbD_inject, BitVec.getLsbD_ushiftRight,
            hlast] at htop
          rw [BitVec.getLsbD_of_ge _ (1 + (w - 1)) (by omega)] at htop
          simp at htop
      | false =>
          refine ih (by omega) (by simpa using hb) (BitVec.eq_of_getLsbD_eq fun i hi => ?_)
          cases i with
          | zero => rw [getLsbD_pack_of_short (by omega)]; simp
          | succ i =>
              have hi := congrArg (fun x => x.getLsbD i) h0
              simpa [pack, Nat.add_comm 1 i] using hi

/-! ## Odd patterns -/

/-- The number of ones in a register, modulo two. -/
def parity (r : BitVec w) : ZMod 2 := ∑ i : Fin w, if r.getLsbD i then 1 else 0

theorem parity_xor (a b : BitVec w) : parity (a ^^^ b) = parity a + parity b := by
  unfold parity
  rw [← Finset.sum_add_distrib]
  refine Finset.sum_congr rfl fun i _ => ?_
  rw [BitVec.getLsbD_xor]
  cases a.getLsbD i <;> cases b.getLsbD i <;> decide

theorem parity_inject (b : Bool) (hw : 0 < w) :
    parity (inject w b) = if b then 1 else 0 := by
  obtain ⟨n, rfl⟩ : ∃ n, w = n + 1 := ⟨w - 1, by omega⟩
  unfold parity
  rw [Fin.sum_univ_castSucc]
  have hlow : ∀ i : Fin n, ((inject (n + 1) b).getLsbD i.castSucc) = false := by
    intro i
    have := i.isLt
    rw [getLsbD_inject]
    simp
    omega
  have htop : (inject (n + 1) b).getLsbD (Fin.last n) = b := by
    rw [getLsbD_inject]; simp
  simp only [hlow, htop, Bool.false_eq_true, if_false, Finset.sum_const_zero, zero_add]

/-- A one that leaves the register takes its parity with it. -/
theorem parity_shiftLeft (r : BitVec w) :
    parity (r <<< 1) + (if r.msb then 1 else 0) = parity r := by
  cases w with
  | zero => simp [parity, BitVec.msb_eq_getLsbD_last]
  | succ n =>
      unfold parity
      rw [Fin.sum_univ_succ, Fin.sum_univ_castSucc (fun i : Fin (n + 1) => if r.getLsbD i then
        (1 : ZMod 2) else 0), BitVec.msb_eq_getLsbD_last]
      simp

theorem parity_shift (hg : parity g = 1) (r : BitVec w) : parity (shift g r) = parity r := by
  have h := parity_shiftLeft r
  unfold shift
  cases hmsb : r.msb with
  | false => simpa [hmsb] using h
  | true =>
      rw [if_pos rfl, parity_xor, hg]
      simpa [hmsb] using h

theorem parity_run (hg : parity g = 1) (hw : 0 < w) (r : BitVec w) (e : List Bool) :
    parity (run g r e) = parity r + (e.count true : ZMod 2) := by
  induction e generalizing r with
  | nil => simp
  | cons b e ih =>
      rw [run_cons, ih, feed, parity_shift g hg, parity_xor, parity_inject b hw]
      cases b with
      | false => simp
      | true => simp; ring

/-- **Odd patterns are detected** by a generator with an odd number of ones. -/
theorem run_ne_zero_of_odd (hg : parity g = 1) (hw : 0 < w) {e : List Bool}
    (he : Odd (e.count true)) : run g 0#w e ≠ 0#w := by
  intro h
  have hp := parity_run g hg hw 0#w e
  rw [h, (ZMod.natCast_eq_one_iff_odd).2 he] at hp
  simp [parity] at hp

/-! ## Bursts -/

/-- **Bursts are detected.**  A pattern whose flipped bits lie within `w`
consecutive positions leaves a non-zero register. -/
theorem run_ne_zero_of_burst (hg : g.getLsbD 0 = true) {e : List Bool} (he : true ∈ e) {s : ℕ}
    (hs : ∀ i, e[i]? = some true → s ≤ i ∧ i < s + w) : run g 0#w e ≠ 0#w := by
  have hhead : true ∉ e.take s := by
    intro h
    obtain ⟨i, hi⟩ := List.mem_iff_getElem?.1 h
    rw [List.getElem?_take] at hi
    split at hi
    · have := hs i hi; omega
    · simp at hi
  have htail : true ∉ (e.drop s).drop w := by
    intro h
    obtain ⟨i, hi⟩ := List.mem_iff_getElem?.1 h
    rw [List.drop_drop, List.getElem?_drop] at hi
    have := hs _ hi
    omega
  have hsplit : e = e.take s ++ ((e.drop s).take w ++ (e.drop s).drop w) := by
    rw [List.take_append_drop, List.take_append_drop]
  have hmid : true ∈ (e.drop s).take w := by
    rw [hsplit] at he
    simp only [List.mem_append] at he
    tauto
  have hshort : ((e.drop s).take w).length ≤ w := List.length_take_le w _
  rw [hsplit, run_append, run_append, eq_replicate_of_all_false hhead,
    eq_replicate_of_all_false htail, run_replicate_false, run_replicate_false, iterate_shift_zero,
    run_eq_iterate g 0#w hshort, BitVec.zero_xor]
  exact iterate_shift_ne_zero g hg _ (iterate_shift_ne_zero g hg _ (pack_ne_zero hshort hmid))

/-! ## Double errors -/

theorem run_ne_zero_of_two (hg : g.getLsbD 0 = true) {n : ℕ}
    (hord : ∀ d, 0 < d → d < n → (shift g)^[d] (BitVec.intMin w) ≠ BitVec.intMin w)
    {e : List Bool} (hlen : e.length ≤ n) (he : e.count true = 2) : run g 0#w e ≠ 0#w := by
  obtain ⟨a, e₁, rfl⟩ := exists_first_true (List.count_pos_iff.1 (by omega : 0 < e.count true))
  have he₁ : e₁.count true = 1 := by simpa [List.count_append, List.count_replicate] using he
  obtain ⟨b, e₂, rfl⟩ := exists_first_true (List.count_pos_iff.1 (by omega : 0 < e₁.count true))
  have he₂ : true ∉ e₂ := by
    rw [← List.count_eq_zero]
    simpa [List.count_append, List.count_replicate] using he₁
  simp only [List.length_append, List.length_replicate, List.length_cons] at hlen
  rw [run_append, run_replicate_false, iterate_shift_zero, run_cons, run_append,
    run_replicate_false, run_cons, eq_replicate_of_all_false he₂, run_replicate_false]
  refine iterate_shift_ne_zero g hg _ fun h => ?_
  -- the two flipped bits would have to be a whole order of `x` apart
  rw [feed, shift_eq_zero_iff g hg, BitVec.xor_eq_zero_iff, feed, inject_true, BitVec.zero_xor,
    ← Function.iterate_succ_apply] at h
  exact hord (b + 1) (by omega) (by omega) h

end Crc
