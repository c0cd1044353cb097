import Mathlib

/-!
# Running extrema

A loop that keeps the best value seen so far replaces it by each value that is better.
The order need not be total: a value that is not comparable is passed over.

* `keep` — one comparison of the loop.
* `Best` — what the value kept is among those seen.
* `best_nil`, `Best.keep` — it is so at the start, and each comparison keeps it so.
-/

namespace Extremum

variable {α : Type} {better : α → α → Bool}

/-- The better one of the value kept and a new one. -/
def keep (better : α → α → Bool) (m x : α) : α := if better x m then x else m

/-- **The best of those seen**: the start or one of them, no worse than the start, and
none of them is better. -/
structure Best (better : α → α → Bool) (start : α) (seen : List α) (m : α) : Prop where
  attained : m = start ∨ m ∈ seen ∧ better m start = true
  unbeaten : ∀ x ∈ seen, better x m = false

theorem best_nil (start : α) : Best better start [] start := ⟨.inl rfl, by simp⟩

/-- **One comparison.** -/
theorem Best.keep {start m : α} {seen : List α} (h : Best better start seen m)
    (htrans : ∀ x y z, better x y = true → better y z = true → better x z = true)
    (hirrefl : ∀ x, better x x = false) (x : α) :
    Best better start (seen ++ [x]) (Extremum.keep better m x) := by
  unfold Extremum.keep
  split
  · rename_i hx
    constructor
    · refine .inr ⟨by simp, ?_⟩
      rcases h.attained with rfl | ⟨-, hm⟩
      · exact hx
      · exact htrans _ _ _ hx hm
    · intro y hy
      rcases List.mem_append.1 hy with hy | hy
      · -- a value better than the new one was better than the old one
        by_contra hbetter
        have hold := h.unbeaten y hy
        rw [Bool.not_eq_false] at hbetter
        rw [htrans _ _ _ hbetter hx] at hold
        exact absurd hold (by decide)
      · rw [List.mem_singleton.1 hy]
        exact hirrefl x
  · rename_i hx
    constructor
    · rcases h.attained with hm | ⟨hm, hstart⟩
      · exact .inl hm
      · exact .inr ⟨List.mem_append_left _ hm, hstart⟩
    · intro y hy
      rcases List.mem_append.1 hy with hy | hy
      · exact h.unbeaten y hy
      · rw [List.mem_singleton.1 hy]
        exact Bool.eq_false_iff.2 hx

end Extremum
