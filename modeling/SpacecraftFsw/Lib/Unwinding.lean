import Mathlib

/-!
# Unwinding two runs

Two runs of one machine that differ in operations an observer should not notice.
The runs are compared step by step through a relation on states; a hidden
operation may be made on one side alone.

* `Unwinds` — what one operation has to keep, hidden or visible.
* `related_of_hidden`, `Unwinds.related` — runs whose visible operations are the
  same end in related states, wherever the hidden ones stand.
-/

namespace Unwinding

variable {σ ο : Type}

/-- A relation that a visible operation keeps when both sides make it, and a
hidden one when one side does. -/
structure Unwinds (step : σ → ο → σ) (visible : ο → Bool) (R : σ → σ → Prop) : Prop where
  symm : ∀ {s t}, R s t → R t s
  hidden : ∀ {s t} op, visible op = false → R s t → R (step s op) t
  visible : ∀ {s t} op, visible op = true → R s t → R (step s op) (step t op)

variable {step : σ → ο → σ} {visible : ο → Bool} {R : σ → σ → Prop}

/-- Hidden operations on one side are not noticed. -/
theorem related_of_hidden (h : Unwinds step visible R) {s t : σ} (hst : R s t) {ops : List ο}
    (hops : ∀ op ∈ ops, visible op = false) : R (ops.foldl step s) t := by
  induction ops generalizing s with
  | nil => exact hst
  | cons op ops ih =>
      have hhead : R (step s op) t := h.hidden op (hops op List.mem_cons_self) hst
      exact ih hhead fun op' hop' => hops op' (List.mem_cons_of_mem _ hop')

/-- **Unwinding.**  Two runs with the same visible operations stay related. -/
theorem Unwinds.related (h : Unwinds step visible R) {s t : σ} (hst : R s t) {xs ys : List ο}
    (heq : xs.filter visible = ys.filter visible) : R (xs.foldl step s) (ys.foldl step t) := by
  induction xs generalizing s t ys with
  | nil =>
      refine h.symm (related_of_hidden h (h.symm hst) ?_)
      intro op hop
      simpa using List.filter_eq_nil_iff.1 heq.symm op hop
  | cons x xs ih =>
      cases hx : visible x with
      | false =>
          rw [List.filter_cons_of_neg (by simp [hx])] at heq
          exact ih (h.hidden x hx hst) heq
      | true =>
          -- what stands before `x` on the other side is hidden
          rw [List.filter_cons_of_pos hx] at heq
          obtain ⟨before, after, rfl, hbefore, _, hafter⟩ := List.filter_eq_cons_iff.1 heq.symm
          have hreach : R s (before.foldl step t) := by
            refine h.symm (related_of_hidden h (h.symm hst) ?_)
            intro op hop
            simpa using hbefore op hop
          rw [List.foldl_append]
          exact ih (h.visible x hx hreach) hafter.symm

end Unwinding
