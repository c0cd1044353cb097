import Mathlib

/-!
# Replies told apart

Requests are answered one after the other into a single stream, in which every reply names
the request that it answers.

* `naming` — the replies of a stream that carry a given name.
* `Addressed` — every reply carries the name of its request.
* `Addressed.told_apart` — if the requests are named differently, those that carry a
  request's name are exactly its own, in their order.
* `Addressed.unasked` — a name that nobody uses is carried by none.
-/

namespace Replies

variable {α β κ : Type*} [DecidableEq κ] {key : α → κ} {answer : α → List β} {name : β → κ}

/-- The replies that carry a given name. -/
def naming (name : β → κ) (k : κ) (replies : List β) : List β :=
  replies.filter fun r => name r = k

theorem naming_append (k : κ) (rs rs' : List β) :
    naming name k (rs ++ rs') = naming name k rs ++ naming name k rs' := List.filter_append ..

theorem naming_eq_self {k : κ} {rs : List β} (h : ∀ r ∈ rs, name r = k) :
    naming name k rs = rs :=
  List.filter_eq_self.2 fun r hr => decide_eq_true (h r hr)

theorem naming_eq_nil {k : κ} {rs : List β} (h : ∀ r ∈ rs, name r ≠ k) :
    naming name k rs = [] :=
  List.filter_eq_nil_iff.2 fun r hr => by
    rw [decide_eq_true_iff]
    exact h r hr

/-- Every reply carries the name of the request that it answers. -/
def Addressed (key : α → κ) (answer : α → List β) (name : β → κ) : Prop :=
  ∀ a, ∀ r ∈ answer a, name r = key a

namespace Addressed

/-- **Nobody asked.** -/
theorem unasked (h : Addressed key answer name) {log : List α} {k : κ} (hk : k ∉ log.map key) :
    naming name k (log.flatMap answer) = [] := by
  refine naming_eq_nil fun r hr hname => ?_
  obtain ⟨a, ha, hra⟩ := List.mem_flatMap.1 hr
  refine hk (List.mem_map.2 ⟨a, ha, ?_⟩)
  rw [← h a r hra, hname]

/-- **Told apart.** -/
theorem told_apart (h : Addressed key answer name) {log : List α} (hlog : (log.map key).Nodup)
    {a : α} (ha : a ∈ log) : naming name (key a) (log.flatMap answer) = answer a := by
  induction log with
  | nil => exact absurd ha List.not_mem_nil
  | cons c log ih =>
      obtain ⟨hfresh, hrest⟩ := List.nodup_cons.1 hlog
      rw [List.flatMap_cons, naming_append]
      rcases List.mem_cons.1 ha with rfl | hmem
      · rw [naming_eq_self (h a), h.unasked hfresh, List.append_nil]
      · have hother : naming name (key a) (answer c) = [] := by
          refine naming_eq_nil fun r hr hname => hfresh ?_
          rw [← h c r hr, hname]
          exact List.mem_map_of_mem hmem
        rw [hother, List.nil_append, ih hrest hmem]

end Addressed

end Replies
