import Mathlib

/-!
# Graduated escalation as a countdown

A supervisor that answers verdicts in two stages: some alarms in a row before it
acts at all, then a ladder of further verdicts that are not clear, then a stop that
only a release from outside ends.  Its position is the number of verdicts the stop
is away.

* `Policy.verdict`, `Policy.step` — one verdict, and one input.
* `Policy.verdict_mono` — a severer verdict never leaves the supervisor further away.
* `Policy.supported_run` — what the position says about the verdicts so far.
* `Policy.run_eq_zero_iff` — when the supervisor has stopped.
-/

namespace Escalation

/-- Up to `clear` a verdict ends an episode, from `alarm` on it counts towards one;
`need` alarms begin it, and `rungs` verdicts that are not clear use it up. -/
structure Policy (α : Type) [LinearOrder α] where
  clear : α
  alarm : α
  separate : clear < alarm
  need : ℕ
  rungs : ℕ

/-- What a supervisor is told. -/
inductive Input (α : Type)
  | verdict (v : α)
  | release

variable {α : Type} [LinearOrder α]

namespace Policy

variable (p : Policy α)

/-- The position in which nothing counts against the supervised. -/
def top : ℕ := p.need + p.rungs

/-- The position after one verdict. -/
def verdict (r : ℕ) (v : α) : ℕ :=
  if r = 0 then 0
  else if r ≤ p.rungs then if v ≤ p.clear then p.top else r - 1
  else if p.alarm ≤ v then r - 1
  else p.top

/-- The position after one input; a release undoes the stop and nothing else. -/
def step (r : ℕ) : Input α → ℕ
  | .verdict v => p.verdict r v
  | .release => if r = 0 then p.top else r

/-- The position after a sequence of verdicts. -/
def run (vs : List α) : ℕ := vs.foldl p.verdict p.top

@[simp] theorem verdict_zero (v : α) : p.verdict 0 v = 0 := rfl

variable {p} {r : ℕ} {v : α}

theorem verdict_ladder_clear (hr : 0 < r) (hle : r ≤ p.rungs) (hv : v ≤ p.clear) :
    p.verdict r v = p.top := by
  simp [verdict, hr.ne', hle, hv]

theorem verdict_ladder (hr : 0 < r) (hle : r ≤ p.rungs) (hv : p.clear < v) :
    p.verdict r v = r - 1 := by
  simp [verdict, hr.ne', hle, not_le.2 hv]

theorem verdict_above (hr : p.rungs < r) (hv : p.alarm ≤ v) : p.verdict r v = r - 1 := by
  have hpos : r ≠ 0 := by omega
  simp [verdict, hpos, not_le.2 hr, hv]

theorem verdict_above_calm (hr : p.rungs < r) (hv : v < p.alarm) : p.verdict r v = p.top := by
  have hpos : r ≠ 0 := by omega
  simp [verdict, hpos, not_le.2 hr, not_le.2 hv]

/-- An alarm brings the stop closer, wherever the supervisor is. -/
theorem verdict_alarm (hv : p.alarm ≤ v) : p.verdict r v = r - 1 := by
  rcases Nat.eq_zero_or_pos r with rfl | hr
  · rfl
  by_cases hle : r ≤ p.rungs
  · exact verdict_ladder hr hle (p.separate.trans_le hv)
  · exact verdict_above (not_le.1 hle) hv

theorem verdict_le_top (hr : r ≤ p.top) : p.verdict r v ≤ p.top := by
  unfold verdict
  split_ifs <;> omega

/-! ## Severity -/

/-- **One verdict is monotone**, in the position and in the severity. -/
theorem verdict_mono {r' : ℕ} {v' : α} (hr : r' ≤ r) (htop : r ≤ p.top) (hv : v ≤ v') :
    p.verdict r' v' ≤ p.verdict r v := by
  rcases Nat.eq_zero_or_pos r' with rfl | hpos'
  · exact Nat.zero_le _
  have hpos : 0 < r := hpos'.trans_le hr
  have hbound : p.verdict r' v' ≤ p.top := verdict_le_top (hr.trans htop)
  by_cases hle : r ≤ p.rungs
  · -- both on the ladder
    have hle' : r' ≤ p.rungs := hr.trans hle
    by_cases hclear : v ≤ p.clear
    · rwa [verdict_ladder_clear hpos hle hclear]
    · have hclear' : p.clear < v' := (not_le.1 hclear).trans_le hv
      rw [verdict_ladder hpos hle (not_le.1 hclear), verdict_ladder hpos' hle' hclear']
      omega
  · by_cases halarm : p.alarm ≤ v
    · rw [verdict_above (not_le.1 hle) halarm, verdict_alarm (halarm.trans hv)]
      omega
    · rwa [verdict_above_calm (not_le.1 hle) (not_le.1 halarm)]

theorem foldl_verdict_le (vs : List α) (hr : r ≤ p.top) : vs.foldl p.verdict r ≤ p.top := by
  induction vs generalizing r with
  | nil => exact hr
  | cons v vs ih => exact ih (verdict_le_top hr)

/-! ## Evidence -/

/-- Verdicts that take a supervisor from the top to a position: the first `need` of
them alarms, and none of them clear. -/
structure Supported (p : Policy α) (window : List α) : Prop where
  alarms : ∀ v ∈ window.take p.need, p.alarm ≤ v
  bad : ∀ v ∈ window, p.clear < v

theorem supported_nil : p.Supported [] := ⟨by simp, by simp⟩

/-- One more alarm, before there are `need`. -/
theorem Supported.alarm {window : List α} (h : p.Supported window) (hlen : window.length < p.need)
    (hv : p.alarm ≤ v) : p.Supported (window ++ [v]) := by
  constructor
  · intro u hu
    have hall : (window ++ [v]).take p.need = window ++ [v] := by
      rw [List.take_of_length_le]
      simpa using hlen
    rw [hall] at hu
    rcases List.mem_append.1 hu with hu | hu
    · refine h.alarms u ?_
      rwa [List.take_of_length_le hlen.le]
    · rwa [List.mem_singleton.1 hu]
  · intro u hu
    rcases List.mem_append.1 hu with hu | hu
    · exact h.bad u hu
    · rw [List.mem_singleton.1 hu]
      exact p.separate.trans_le hv

/-- One more rung. -/
theorem Supported.rung {window : List α} (h : p.Supported window) (hlen : p.need ≤ window.length)
    (hv : p.clear < v) : p.Supported (window ++ [v]) := by
  constructor
  · rw [List.take_append_of_le_length hlen]
    exact h.alarms
  · intro u hu
    rcases List.mem_append.1 hu with hu | hu
    · exact h.bad u hu
    · rwa [List.mem_singleton.1 hu]

/-- Some verdicts account for the position: the last ones, or, once the supervisor has
stopped, some that took it there. -/
structure Accounts (p : Policy α) (vs : List α) (r : ℕ) : Prop where
  le_top : r ≤ p.top
  moving : 0 < r → ∃ window, window <:+ vs ∧ window.length + r = p.top ∧ p.Supported window
  stopped : r = 0 → ∃ window, window <:+: vs ∧ window.length = p.top ∧ p.Supported window

theorem accounts_top (vs : List α) : p.Accounts vs p.top where
  le_top := Nat.le_refl _
  moving := fun _ => ⟨[], List.nil_suffix, Nat.zero_add _, supported_nil⟩
  stopped := fun h => ⟨[], List.nil_infix, h.symm, supported_nil⟩

/-- A verdict that brings the stop closer extends the window. -/
theorem Accounts.closer {vs : List α} (h : p.Accounts vs r) (hr : 0 < r)
    (hwindow : ∀ window, window.length + r = p.top → p.Supported window →
      p.Supported (window ++ [v])) : p.Accounts (vs ++ [v]) (r - 1) := by
  obtain ⟨window, ⟨before, hbefore⟩, hlen, hsupported⟩ := h.moving hr
  have hlonger : (window ++ [v]).length + (r - 1) = p.top := by
    rw [List.length_append, List.length_singleton]
    omega
  have hsuffix : window ++ [v] <:+ vs ++ [v] := by
    refine ⟨before, ?_⟩
    rw [← List.append_assoc, hbefore]
  have hnext := hwindow window hlen hsupported
  refine ⟨(Nat.sub_le r 1).trans h.le_top, fun _ => ⟨_, hsuffix, hlonger, hnext⟩, ?_⟩
  intro hzero
  refine ⟨_, hsuffix.isInfix, ?_, hnext⟩
  rw [← hlonger, hzero, Nat.add_zero]

/-- **One verdict.** -/
theorem Accounts.verdict {vs : List α} (h : p.Accounts vs r) (v : α) :
    p.Accounts (vs ++ [v]) (p.verdict r v) := by
  rcases Nat.eq_zero_or_pos r with rfl | hr
  · obtain ⟨window, hinfix, hlen, hsupported⟩ := h.stopped rfl
    refine ⟨Nat.zero_le _, fun h => absurd h (Nat.lt_irrefl 0), fun _ => ?_⟩
    exact ⟨window, hinfix.trans (List.infix_append [] vs [v]), hlen, hsupported⟩
  have htop : p.top = p.need + p.rungs := rfl
  by_cases hle : r ≤ p.rungs
  · by_cases hv : v ≤ p.clear
    · rw [verdict_ladder_clear hr hle hv]
      exact accounts_top _
    · rw [verdict_ladder hr hle (not_le.1 hv)]
      refine h.closer hr fun window hlen hsupported => hsupported.rung ?_ (not_le.1 hv)
      omega
  · by_cases hv : p.alarm ≤ v
    · rw [verdict_above (not_le.1 hle) hv]
      refine h.closer hr fun window hlen hsupported => hsupported.alarm ?_ hv
      omega
    · rw [verdict_above_calm (not_le.1 hle) (not_le.1 hv)]
      exact accounts_top _

theorem Accounts.release {vs : List α} (h : p.Accounts vs r) :
    p.Accounts vs (p.step r .release) := by
  rw [step]
  split
  · exact accounts_top vs
  · exact h

/-- The verdicts among some inputs. -/
def verdicts (xs : List (Input α)) : List α :=
  xs.filterMap fun x => match x with
    | .verdict v => some v
    | .release => none

/-- **The position is accounted for**, after any verdicts and releases. -/
theorem supported_run (xs : List (Input α)) :
    p.Accounts (verdicts xs) (xs.foldl p.step p.top) := by
  induction xs using List.reverseRecOn with
  | nil => exact accounts_top []
  | append_singleton xs x ih =>
      rw [List.foldl_append, verdicts, List.filterMap_append]
      cases x with
      | verdict v => exact ih.verdict v
      | release =>
          have hnone : verdicts xs ++ [] = verdicts xs := List.append_nil _
          exact hnone ▸ ih.release

/-! ## The stop -/

theorem foldl_zero (vs : List α) : vs.foldl p.verdict 0 = 0 := by
  induction vs with
  | nil => rfl
  | cons v vs ih => exact ih

/-- Alarms take the supervisor down step by step. -/
theorem foldl_alarms {vs : List α} (h : ∀ v ∈ vs, p.alarm ≤ v) (r : ℕ) :
    vs.foldl p.verdict r = r - vs.length := by
  induction vs generalizing r with
  | nil => rfl
  | cons v vs ih =>
      rw [List.foldl_cons, verdict_alarm (h v List.mem_cons_self),
        ih (fun u hu => h u (List.mem_cons_of_mem v hu)), List.length_cons]
      omega

/-- So does the ladder, with verdicts that are not clear. -/
theorem foldl_ladder {vs : List α} (h : ∀ v ∈ vs, p.clear < v) (hr : r ≤ p.rungs) :
    vs.foldl p.verdict r = r - vs.length := by
  induction vs generalizing r with
  | nil => rfl
  | cons v vs ih =>
      have hstep : p.verdict r v = r - 1 := by
        rcases Nat.eq_zero_or_pos r with rfl | hpos
        · rfl
        · exact verdict_ladder hpos hr (h v List.mem_cons_self)
      rw [List.foldl_cons, hstep, ih (fun u hu => h u (List.mem_cons_of_mem v hu)) (by omega),
        List.length_cons]
      omega

/-- A window long enough stops the supervisor from every position. -/
theorem Supported.stops {window : List α} (h : p.Supported window) (hlen : window.length = p.top)
    (hr : r ≤ p.top) : window.foldl p.verdict r = 0 := by
  have htop : p.top = p.need + p.rungs := rfl
  have hneed : (window.take p.need).length = p.need := by
    rw [List.length_take]
    omega
  have hrest : (window.drop p.need).length = p.rungs := by
    rw [List.length_drop]
    omega
  have hbad : ∀ v ∈ window.drop p.need, p.clear < v := fun v hv =>
    h.bad v (List.mem_of_mem_drop hv)
  rw [← List.take_append_drop p.need window, List.foldl_append, foldl_alarms h.alarms,
    foldl_ladder hbad (by omega)]
  omega

/-- **The supervisor has stopped** exactly if there have been `need` alarms in a row and
then `rungs` more verdicts that were not clear. -/
theorem run_eq_zero_iff (vs : List α) :
    p.run vs = 0 ↔ ∃ window, window <:+: vs ∧ window.length = p.top ∧ p.Supported window := by
  constructor
  · intro hzero
    have hinputs : ∀ us : List α, verdicts (us.map .verdict) = us ∧
        (us.map .verdict).foldl p.step p.top = p.run us := by
      intro us
      refine ⟨?_, List.foldl_map⟩
      induction us with
      | nil => rfl
      | cons u us ih => exact congrArg (u :: ·) ih
    have haccounts := supported_run (p := p) (vs.map .verdict)
    rw [(hinputs vs).1, (hinputs vs).2] at haccounts
    exact haccounts.stopped hzero
  · rintro ⟨window, ⟨before, after, rfl⟩, hlen, hsupported⟩
    have hr : before.foldl p.verdict p.top ≤ p.top := foldl_verdict_le before (Nat.le_refl _)
    rw [run, List.foldl_append, List.foldl_append, hsupported.stops hlen hr, foldl_zero]

end Policy

end Escalation
