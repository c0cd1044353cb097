import Mathlib

/-!
# Checked accesses

Buffers read with a check at every access: a computation in `Option` that fails at
the first access out of range.

* `load`, `slice`, `loadLoop` — one element, a stretch, and a loop that reads one
  element a round.
* `load_eq`, `slice_eq`, `loadLoop_eq` — within range they are the accesses without
  the check.
* `foldlM_eq` — a loop whose rounds do not fail does not fail.
-/

namespace Access

variable {α β : Type}

/-- The element at `i`. -/
def load (buf : List α) (i : ℕ) : Option α := buf[i]?

/-- The `n` elements from `i` on. -/
def slice (buf : List α) (i n : ℕ) : Option (List α) :=
  if i + n ≤ buf.length then some ((buf.drop i).take n) else none

/-- `left` rounds of a loop that reads the element at `i` and goes on to the next. -/
def loadLoop (f : β → α → β) (buf : List α) : ℕ → ℕ → β → Option β
  | 0, _, acc => some acc
  | left + 1, i, acc => do
    let x ← load buf i
    loadLoop f buf left (i + 1) (f acc x)

theorem load_eq {buf : List α} {i : ℕ} (h : i < buf.length) (d : α) :
    load buf i = some (buf.getD i d) := by
  rw [load, List.getElem?_eq_getElem h, List.getD_eq_getElem _ _ h]

theorem slice_eq {buf : List α} {i n : ℕ} (h : i + n ≤ buf.length) :
    slice buf i n = some ((buf.drop i).take n) := if_pos h

theorem slice_zero {buf : List α} {n : ℕ} (h : n ≤ buf.length) :
    slice buf 0 n = some (buf.take n) := slice_eq (by rwa [Nat.zero_add])

/-- A loop within range is a fold over the stretch it reads. -/
theorem loadLoop_eq (f : β → α → β) {buf : List α} {left i : ℕ} (h : i + left ≤ buf.length)
    (acc : β) : loadLoop f buf left i acc = some (((buf.drop i).take left).foldl f acc) := by
  induction left generalizing i acc with
  | zero => simp [loadLoop]
  | succ left ih =>
      have hi : i < buf.length := by omega
      have hrest : i + 1 + left ≤ buf.length := by omega
      rw [loadLoop, load, List.getElem?_eq_getElem hi, List.drop_eq_getElem_cons hi]
      exact ih hrest (f acc buf[i])

/-- A loop none of whose rounds fails. -/
theorem foldlM_eq {l : List α} {f : β → α → Option β} {g : β → α → β}
    (h : ∀ x ∈ l, ∀ b, f b x = some (g b x)) (b : β) : l.foldlM f b = some (l.foldl g b) := by
  induction l generalizing b with
  | nil => rfl
  | cons x l ih =>
      rw [List.foldlM_cons, h x List.mem_cons_self]
      exact ih (fun y hy => h y (List.mem_cons_of_mem _ hy)) _

end Access
