import Mathlib

/-!
# Systems under a schedule

A system of several tasks takes one task's step at a time; a schedule is the list
of the tasks that take them.

* `Throughout` — every step of the run is taken where it may be.
* `invariant_run` — what each step keeps holds along the run.
* `throughout_iff` — a property that is lost at a forbidden step, and only there,
  says whether there was one.
* `refines_run` — a run seen through a map that turns steps into steps or into
  nothing is a run of the other system.
* `covers_run` — the other way round, where each step of the other system is one of some
  runs here.
* `reaches_of_measure` — a goal that some task can always be brought closer to can be
  reached.
-/

namespace Schedule

variable {σ σ' τ τ' : Type} {step : σ → τ → σ} {step' : σ' → τ' → σ'}

/-- Each step of the schedule `plan` from `s` is taken in a state that allows it. -/
def Throughout (step : σ → τ → σ) (ok : σ → τ → Prop) : σ → List τ → Prop
  | _, [] => True
  | s, t :: plan => ok s t ∧ Throughout step ok (step s t) plan

/-- What each step keeps holds along the run. -/
theorem invariant_run {P : σ → Prop} (hstep : ∀ s t, P s → P (step s t)) {s : σ} (hs : P s)
    (plan : List τ) : P (plan.foldl step s) := by
  induction plan generalizing s with
  | nil => exact hs
  | cons t plan ih => exact ih (hstep s t hs)

/-- A property that is lost exactly at a forbidden step. -/
theorem throughout_iff {ok : σ → τ → Prop} (clean : σ → Prop)
    (hstep : ∀ s t, clean (step s t) ↔ clean s ∧ ok s t) (s : σ) (plan : List τ) :
    clean (plan.foldl step s) ↔ clean s ∧ Throughout step ok s plan := by
  induction plan generalizing s with
  | nil => simp [Throughout]
  | cons t plan ih => simp [Throughout, ih, hstep, and_assoc]

/-- **Refinement.**  Steps that do nothing to `abs`, or what one step of the other
system does, make a run of that system. -/
theorem refines_run {Inv : σ → Prop} (abs : σ → σ') (hinv : ∀ s t, Inv s → Inv (step s t))
    (hstep : ∀ s t, Inv s → abs (step s t) = abs s ∨ ∃ t', abs (step s t) = step' (abs s) t')
    {s : σ} (hs : Inv s) (plan : List τ) :
    ∃ plan' : List τ', abs (plan.foldl step s) = plan'.foldl step' (abs s) := by
  induction plan generalizing s with
  | nil => exact ⟨[], rfl⟩
  | cons t plan ih =>
      obtain ⟨rest, hrest⟩ := ih (hinv s t hs)
      rcases hstep s t hs with hquiet | ⟨t', htake⟩
      · exact ⟨rest, by rw [List.foldl_cons, hrest, hquiet]⟩
      · exact ⟨t' :: rest, by rw [List.foldl_cons, hrest, htake, List.foldl_cons]⟩

/-- **Cover.**  Where each step of the other system is what some run here does to `abs`, so
is each of its runs. -/
theorem covers_run {Inv : σ → Prop} (abs : σ → σ')
    (hstep : ∀ s t', Inv s → ∃ plan : List τ,
      Inv (plan.foldl step s) ∧ abs (plan.foldl step s) = step' (abs s) t')
    {s : σ} (hs : Inv s) (plan' : List τ') :
    ∃ plan : List τ, Inv (plan.foldl step s) ∧
      abs (plan.foldl step s) = plan'.foldl step' (abs s) := by
  induction plan' generalizing s with
  | nil => exact ⟨[], hs, rfl⟩
  | cons t' plan' ih =>
      obtain ⟨first, hkeep, hmatch⟩ := hstep s t' hs
      obtain ⟨rest, hinv, hrest⟩ := ih hkeep
      refine ⟨first ++ rest, ?_⟩
      rw [List.foldl_append]
      exact ⟨hinv, by rw [hrest, hmatch, List.foldl_cons]⟩

/-- **Reachability.**  Where some step always keeps the invariant and lowers the measure
short of the goal, a schedule no longer than the measure leads there. -/
theorem reaches_of_measure {Inv Goal : σ → Prop} (measure : σ → ℕ)
    (hmove : ∀ s, Inv s → ¬ Goal s → ∃ t, Inv (step s t) ∧ measure (step s t) < measure s)
    {s : σ} (hs : Inv s) : ∃ plan : List τ, plan.length ≤ measure s ∧ Goal (plan.foldl step s) := by
  induction hn : measure s using Nat.strong_induction_on generalizing s with
  | _ n ih =>
      by_cases hgoal : Goal s
      · exact ⟨[], Nat.zero_le n, hgoal⟩
      · obtain ⟨t, hkeep, hless⟩ := hmove s hs hgoal
        obtain ⟨plan, hlen, hreach⟩ := ih _ (hn ▸ hless) hkeep rfl
        refine ⟨t :: plan, ?_, hreach⟩
        rw [List.length_cons]
        omega

end Schedule
