import Mathlib

/-!
# Bounded queues that drop their oldest element

A queue of at most `cap` elements that makes room for a new one by discarding
the front.  Three things are proved about it, for elements of any type.

* A push adds its element behind the others (`mem_push`, `pairwise_push`), and leaves the
  last `cap` of all that were ever pushed (`push_rtake`).
* A ring of `cap` slots realises it: `walk` reads the slots in queue order, and
  `walk_snoc` and `walk_cons` say what writing at the head and reading at the
  tail do to that order.
* `Accounted` — what left the queue, followed by what is still in it, is a
  subsequence of what was offered to it, with nothing missing but the counted
  losses.  Each operation has its own rule.
-/

namespace DropOldest

variable {α : Type}

/-- Append `x`, discarding the front of a full queue. -/
def push (cap : ℕ) (items : List α) (x : α) : List α :=
  if items.length = cap then items.tail ++ [x] else items ++ [x]

theorem push_of_full {cap : ℕ} {items : List α} (h : items.length = cap) (x : α) :
    push cap items x = items.tail ++ [x] := if_pos h

theorem push_of_room {cap : ℕ} {items : List α} (h : items.length < cap) (x : α) :
    push cap items x = items ++ [x] := if_neg h.ne

/-- What a push leaves in the queue was there, or is the new element. -/
theorem mem_push {cap : ℕ} {items : List α} {x y : α} (h : y ∈ push cap items x) :
    y ∈ items ∨ y = x := by
  unfold push at h
  split at h
  · rcases List.mem_append.1 h with h | h
    · exact .inl (List.mem_of_mem_tail h)
    · exact .inr (List.mem_singleton.1 h)
  · rcases List.mem_append.1 h with h | h
    · exact .inl h
    · exact .inr (List.mem_singleton.1 h)

/-- A queue ordered by `r` stays so when the new element comes after the others. -/
theorem pairwise_push {r : α → α → Prop} {cap : ℕ} {items : List α} {x : α}
    (h : items.Pairwise r) (hx : ∀ y ∈ items, r y x) : (push cap items x).Pairwise r := by
  have hsnoc : ∀ {l : List α}, List.Sublist l items → (l ++ [x]).Pairwise r := by
    intro l hl
    rw [List.pairwise_append]
    refine ⟨h.sublist hl, List.pairwise_singleton r x, ?_⟩
    intro y hy z hz
    rw [List.mem_singleton.1 hz]
    exact hx y (hl.subset hy)
  unfold push
  split
  · exact hsnoc (List.tail_sublist items)
  · exact hsnoc (List.Sublist.refl items)

/-- A queue of the last `cap` elements goes on being that. -/
theorem push_rtake {cap : ℕ} (hcap : 0 < cap) (all : List α) (x : α) :
    push cap (all.rtake cap) x = (all ++ [x]).rtake cap := by
  have hlast : (all ++ [x]).rtake cap = all.rtake (cap - 1) ++ [x] := by
    obtain ⟨n, rfl⟩ := Nat.exists_eq_add_one.2 hcap
    rw [List.rtake_concat_succ, Nat.add_sub_cancel]
  rw [hlast]
  by_cases hfull : (all.rtake cap).length = cap
  · -- one more falls out at the front
    have hlen : cap ≤ all.length := by
      rw [List.rtake, List.length_drop] at hfull
      omega
    rw [push_of_full hfull, List.rtake, List.tail_drop, List.rtake]
    congr 2
    omega
  · have hlen : all.length < cap := by
      rw [List.rtake, List.length_drop] at hfull
      omega
    rw [push, if_neg hfull, List.rtake, List.rtake, Nat.sub_eq_zero_of_le hlen.le,
      Nat.sub_eq_zero_of_le (Nat.le_sub_one_of_lt hlen)]

/-! ## Rings -/

/-- The `count` slots from `tail` on, around a ring of `cap` slots. -/
def walk (cap : ℕ) (slot : ℕ → α) (tail count : ℕ) : List α :=
  (List.range count).map fun i => slot ((tail + i) % cap)

@[simp] theorem length_walk (cap : ℕ) (slot : ℕ → α) (tail count : ℕ) :
    (walk cap slot tail count).length = count := by
  simp [walk]

@[simp] theorem walk_zero (cap : ℕ) (slot : ℕ → α) (tail : ℕ) : walk cap slot tail 0 = [] := rfl

/-- Reading at the tail takes the front off. -/
theorem walk_cons (cap : ℕ) (slot : ℕ → α) (tail count : ℕ) :
    walk cap slot tail (count + 1) =
      slot (tail % cap) :: walk cap slot ((tail + 1) % cap) count := by
  have hstep : ∀ i, (tail + (i + 1)) % cap = ((tail + 1) % cap + i) % cap := by
    intro i
    rw [Nat.mod_add_mod]
    congr 1
    omega
  rw [walk, List.range_succ_eq_map, List.map_cons, List.map_map, Nat.add_zero, walk]
  congr 1
  exact List.map_congr_left fun i _ => congrArg slot (hstep i)

/-- Two positions of one walk are different slots. -/
theorem walk_index_ne {cap tail count i : ℕ} (hc : count < cap) (hi : i < count) :
    (tail + i) % cap ≠ (tail + count) % cap := by
  intro h
  have hmod : i ≡ count [MOD cap] := Nat.ModEq.add_left_cancel' tail h
  have heq := hmod.eq_of_lt_of_lt (hi.trans hc) hc
  omega

/-- Writing at the head puts the element behind the others. -/
theorem walk_snoc {cap : ℕ} {slot slot' : ℕ → α} {tail count : ℕ} {x : α} (hc : count < cap)
    (hsame : ∀ i, i ≠ (tail + count) % cap → slot' i = slot i)
    (hnew : slot' ((tail + count) % cap) = x) :
    walk cap slot' tail (count + 1) = walk cap slot tail count ++ [x] := by
  have hkeep : ∀ i ∈ List.range count,
      slot' ((tail + i) % cap) = slot ((tail + i) % cap) := by
    intro i hi
    exact hsame _ (walk_index_ne hc (List.mem_range.1 hi))
  rw [walk, List.range_succ, List.map_append, List.map_singleton, hnew, List.map_congr_left hkeep]
  rfl

/-! ## Accounting -/

/-- Everything offered to a queue is out again, still inside, or counted as lost,
and what is not lost is in order. -/
structure Accounted (offered out items : List α) (lost : ℕ) : Prop where
  sublist : List.Sublist (out ++ items) offered
  missing : offered.length = out.length + items.length + lost

namespace Accounted

theorem empty : Accounted ([] : List α) [] [] 0 := ⟨List.Sublist.refl _, rfl⟩

variable {offered out items : List α} {lost : ℕ}

/-- Appended with room to spare. -/
theorem append (h : Accounted offered out items lost) (x : α) :
    Accounted (offered ++ [x]) out (items ++ [x]) lost := by
  constructor
  · rw [← List.append_assoc]
    exact h.sublist.append (List.Sublist.refl _)
  · have := h.missing
    simp only [List.length_append, List.length_singleton]
    omega

/-- Turned away. -/
theorem reject (h : Accounted offered out items lost) (x : α) :
    Accounted (offered ++ [x]) out items (lost + 1) := by
  constructor
  · exact h.sublist.trans (List.sublist_append_left _ _)
  · have := h.missing
    simp only [List.length_append, List.length_singleton]
    omega

/-- The front discarded. -/
theorem discard {y : α} (h : Accounted offered out (y :: items) lost) :
    Accounted offered out items (lost + 1) := by
  constructor
  · exact ((List.Sublist.refl out).append (List.sublist_cons_self y items)).trans h.sublist
  · have := h.missing
    rw [List.length_cons] at this
    omega

/-- A push loses the front of a full queue and nothing else. -/
theorem push {cap : ℕ} (h : Accounted offered out items lost) (hcap : 0 < cap) (x : α) :
    Accounted (offered ++ [x]) out (push cap items x)
      (lost + if items.length = cap then 1 else 0) := by
  by_cases hfull : items.length = cap
  · rw [push_of_full hfull, if_pos hfull]
    cases items with
    | nil =>
        rw [List.length_nil] at hfull
        omega
    | cons y items => exact h.discard.append x
  · rw [DropOldest.push, if_neg hfull, if_neg hfull]
    exact h.append x

/-- Taken out at the front. -/
theorem pop {y : α} (h : Accounted offered out (y :: items) lost) :
    Accounted offered (out ++ [y]) items lost := by
  constructor
  · rw [List.append_assoc, List.singleton_append]
    exact h.sublist
  · have := h.missing
    simp only [List.length_append, List.length_cons, List.length_nil] at this ⊢
    omega

/-- Taken out to the last element. -/
theorem drain (h : Accounted offered out items lost) :
    Accounted offered (out ++ items) [] lost := by
  induction items generalizing out with
  | nil => simpa using h
  | cons y items ih =>
      have := ih h.pop
      rwa [List.append_assoc, List.singleton_append] at this

/-- Handed straight past an empty queue. -/
theorem pass (h : Accounted offered out [] lost) (x : α) :
    Accounted (offered ++ [x]) (out ++ [x]) [] lost := (h.append x).pop

end Accounted

end DropOldest
