import SpacecraftFsw.Lib.Fifo

/-!
# Links with gaps

A link that is in contact some of the time.  What is offered in contact goes through; what
is offered out of contact waits, and when contact comes the last `cap` of it go through.
Elements that do not fit never wait.

* `Link`, `Link.step` — the link, without a bound on what may wait: a queue that keeps the
  last `cap` elements, and discards the others as they come, does the same
  (`DropOldest.push_rtake`).
* `Link.Newest` — what a link loses is old: if everything fits, the end of what it has is
  the end of what was offered.
* `Link.delivered_offers` — out of contact nothing goes through.
-/

namespace Gaps

variable {α : Type}

/-- An element is offered, or the contact changes. -/
inductive Event (α : Type)
  | offer (x : α)
  | contact (inContact : Bool)
  deriving DecidableEq, Repr

/-- A link, with everything that has come since contact was lost. -/
structure Link {α : Type} (cap : ℕ) (fits : α → Prop) where
  inContact : Bool
  waiting : List α
  delivered : List α
  deriving DecidableEq, Repr

namespace Link

variable {cap : ℕ} {fits : α → Prop}

/-- What goes through when contact comes. -/
def latest (l : Link cap fits) : List α := l.waiting.rtake cap

def step [DecidablePred fits] (l : Link cap fits) : Event α → Link cap fits
  | .offer x =>
    if l.inContact then { l with delivered := l.delivered ++ [x] }
    else if fits x then { l with waiting := l.waiting ++ [x] }
    else l
  | .contact false => { l with inContact := false }
  | .contact true => if l.inContact then l else ⟨true, [], l.delivered ++ l.latest⟩

/-! ## The newest element -/

/-- The link waits out of contact only, and the end of what it has is the end of what was
offered: `all`. -/
structure Newest (l : Link cap fits) (all : List α) : Prop where
  idle : l.inContact = true → l.waiting = []
  last : (l.delivered ++ l.latest).getLast? = all.getLast?

namespace Newest

variable {l : Link cap fits} {all : List α}

theorem offer [DecidablePred fits] (h : l.Newest all) (hcap : 0 < cap) {x : α} (hfits : fits x) :
    (l.step (.offer x)).Newest (all ++ [x]) := by
  rw [step]
  split
  · rename_i hin
    refine ⟨h.idle, ?_⟩
    simp only [latest, h.idle hin, List.rtake_nil, List.append_nil, List.getLast?_concat]
  · rename_i hout
    refine ⟨fun hin => absurd hin hout, ?_⟩
    have hlast : (l.waiting ++ [x]).rtake cap = l.waiting.rtake (cap - 1) ++ [x] := by
      obtain ⟨n, rfl⟩ := Nat.exists_eq_add_one.2 hcap
      exact List.rtake_concat_succ _ n x
    simp only [latest, hlast, ← List.append_assoc, List.getLast?_concat]

theorem offers [DecidablePred fits] (h : l.Newest all) (hcap : 0 < cap) {xs : List α}
    (hfits : ∀ x ∈ xs, fits x) : ((xs.map .offer).foldl step l).Newest (all ++ xs) := by
  induction xs generalizing l all with
  | nil =>
      rw [List.append_nil]
      exact h
  | cons x xs ih =>
      rw [List.map_cons, List.foldl_cons, ← List.singleton_append, ← List.append_assoc]
      exact ih (h.offer hcap (hfits x List.mem_cons_self)) fun y hy =>
        hfits y (List.mem_cons_of_mem _ hy)

/-- A change of contact moves elements from one place to the other. -/
theorem contact [DecidablePred fits] (h : l.Newest all) (inContact : Bool) :
    (l.step (.contact inContact)).Newest all := by
  cases inContact with
  | false =>
      refine ⟨?_, h.last⟩
      rintro ⟨⟩
  | true =>
      rw [step]
      split
      · exact h
      · refine ⟨fun _ => rfl, ?_⟩
        simp only [latest, List.rtake_nil, List.append_nil]
        exact h.last

/-- In contact the newest element has gone through. -/
theorem delivered (h : l.Newest all) (hin : l.inContact = true) :
    l.delivered.getLast? = all.getLast? := by
  have hlast := h.last
  rwa [latest, h.idle hin, List.rtake_nil, List.append_nil] at hlast

end Newest

/-- Out of contact nothing goes through. -/
theorem delivered_offers [DecidablePred fits] {l : Link cap fits} (hout : l.inContact = false)
    (xs : List α) : ((xs.map .offer).foldl step l).delivered = l.delivered := by
  induction xs generalizing l with
  | nil => rfl
  | cons x xs ih =>
      have hstep : (l.step (.offer x)).inContact = false ∧
          (l.step (.offer x)).delivered = l.delivered := by
        simp only [step, hout, Bool.false_eq_true, if_false]
        split
        · exact ⟨rfl, rfl⟩
        · exact ⟨hout, rfl⟩
      rw [List.map_cons, List.foldl_cons, ih hstep.1, hstep.2]

end Link
end Gaps
