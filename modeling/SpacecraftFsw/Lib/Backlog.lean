import Mathlib

/-!
# A level with a floor

What a queue holds when each turn brings or takes something and an empty queue stays
empty: a sum of weights that is held up at zero.  It is the greatest net weight of a
last stretch of the schedule.

* `net`, `level` — the sum of a stretch, and the sum with the floor.
* `level_le_iff` — the level, by the last stretches.
* `never_above_iff` — the level throughout, by all stretches.
* `bounded_run` — a system that a level bounds.
-/

namespace Backlog

variable {τ G : Type} [AddCommGroup G]

/-- The weights of a stretch together. -/
def net (w : τ → G) (x : List τ) : G := (x.map w).sum

@[simp] theorem net_nil (w : τ → G) : net w [] = 0 := rfl

@[simp] theorem net_concat (w : τ → G) (x : List τ) (t : τ) :
    net w (x ++ [t]) = net w x + w t := by
  simp [net]

variable [LinearOrder G]

/-- The level after a schedule, from zero. -/
def level (w : τ → G) (plan : List τ) : G := plan.foldl (fun l t => max 0 (l + w t)) 0

variable (w : τ → G)

@[simp] theorem level_nil : level w [] = 0 := rfl

@[simp] theorem level_concat (plan : List τ) (t : τ) :
    level w (plan ++ [t]) = max 0 (level w plan + w t) := by
  simp [level]

theorem level_nonneg (plan : List τ) : 0 ≤ level w plan := by
  induction plan using List.reverseRecOn with
  | nil => exact le_refl 0
  | append_singleton plan t ih =>
      rw [level_concat]
      exact le_max_left _ _

/-! ## Stretches -/

/-- Some last stretch makes the level up. -/
theorem exists_suffix (plan : List τ) : ∃ x, x <:+ plan ∧ level w plan = net w x := by
  induction plan using List.reverseRecOn with
  | nil => exact ⟨[], List.suffix_rfl, rfl⟩
  | append_singleton plan t ih =>
      obtain ⟨x, hx, hlevel⟩ := ih
      rw [level_concat]
      rcases le_total (level w plan + w t) 0 with hlow | hhigh
      · exact ⟨[], List.nil_suffix, max_eq_left hlow⟩
      · refine ⟨x ++ [t], List.suffix_concat_iff.2 (.inr ⟨x, rfl, hx⟩), ?_⟩
        rw [max_eq_right hhigh, hlevel, net_concat]

variable [IsOrderedAddMonoid G]

/-- And none outweighs it. -/
theorem net_le_level {x plan : List τ} (h : x <:+ plan) : net w x ≤ level w plan := by
  induction plan using List.reverseRecOn generalizing x with
  | nil => rw [List.suffix_nil.1 h, net_nil, level_nil]
  | append_singleton plan t ih =>
      rw [level_concat]
      rcases List.suffix_concat_iff.1 h with rfl | ⟨y, rfl, hy⟩
      · exact le_max_left _ _
      · rw [net_concat]
        exact le_max_of_le_right (add_le_add_left (ih hy) (w t))

/-- **The level is told by the last stretches.** -/
theorem level_le_iff (plan : List τ) (c : G) :
    level w plan ≤ c ↔ ∀ x, x <:+ plan → net w x ≤ c := by
  constructor
  · intro h x hx
    exact (net_le_level w hx).trans h
  · intro h
    obtain ⟨x, hx, hlevel⟩ := exists_suffix w plan
    rw [hlevel]
    exact h x hx

/-- **A level that never exceeds a bound is told by all stretches.** -/
theorem never_above_iff (plan : List τ) (c : G) :
    (∀ p, p <+: plan → level w p ≤ c) ↔ ∀ x, x <:+: plan → net w x ≤ c := by
  constructor
  · intro h x hx
    obtain ⟨p, hsuffix, hprefix⟩ := List.infix_iff_suffix_prefix.1 hx
    exact (level_le_iff w p c).1 (h p hprefix) x hsuffix
  · intro h p hp
    refine (level_le_iff w p c).2 fun x hx => h x ?_
    exact List.infix_iff_suffix_prefix.2 ⟨p, hx, hp⟩

/-! ## Bounded systems -/

/-- **A system under a level.**  Where each step raises a measure by no more than its
weight, or leaves it no higher than a base, the level bounds the measure above the base. -/
theorem bounded_run {σ : Type} {step : σ → τ → σ} {Inv : σ → Prop} (f : σ → G) (base : G)
    (hinv : ∀ s t, Inv s → Inv (step s t))
    (hstep : ∀ s t, Inv s → f (step s t) ≤ base ∨ f (step s t) ≤ f s + w t)
    {s : σ} (hs : Inv s) (hlow : f s ≤ base) (plan : List τ) :
    f (plan.foldl step s) ≤ base + level w plan := by
  have hreached : ∀ plan : List τ, Inv (plan.foldl step s) ∧
      f (plan.foldl step s) ≤ base + level w plan := by
    intro plan
    induction plan using List.reverseRecOn with
    | nil => exact ⟨hs, by simpa using hlow⟩
    | append_singleton plan t ih =>
        obtain ⟨hkeep, hbound⟩ := ih
        rw [List.foldl_concat, level_concat]
        refine ⟨hinv _ t hkeep, ?_⟩
        rcases hstep _ t hkeep with hbase | hrise
        · exact hbase.trans (le_add_of_nonneg_right (le_max_left _ _))
        · calc f (step (plan.foldl step s) t)
              ≤ f (plan.foldl step s) + w t := hrise
            _ ≤ base + level w plan + w t := add_le_add_left hbound (w t)
            _ = base + (level w plan + w t) := add_assoc _ _ _
            _ ≤ base + max 0 (level w plan + w t) := add_le_add_right (le_max_right _ _) base
  exact (hreached plan).2

end Backlog
