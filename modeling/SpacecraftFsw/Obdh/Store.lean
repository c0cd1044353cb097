import SpacecraftFsw.Lib.Fifo
import SpacecraftFsw.Octets

/-!
# The packet store

`labs/04-obdh/store.c`: a ring of sixteen slots with an overwrite-oldest policy.
The full and the empty ring both have `head = tail`; only `count` tells them
apart, which is why the invariant ties all three together.

* `PacketStore.Inv` — what holds of every reachable store, and `Store`, the
  stores that satisfy it.
* `PacketStore.items` — the entries in queue order; `storePutAt_spec` and
  `storeGetAt_spec` are the two operations seen from there.
* `store_refines_fifo` — over any sequence of calls the ring answers exactly as
  the bounded queue does.
-/

namespace SpacecraftFsw
namespace Obdh

/-! ## The ring -/

/-- `STORE_CAP`. -/
def storeCap : ℕ := 16

/-- `MAX_PKT`. -/
def maxPkt : ℕ := 64

/-- `packet_store`. -/
structure PacketStore where
  slot : Vector Bytes storeCap
  len : Vector ℕ storeCap
  stamp : Vector U32 storeCap
  /-- Next slot to write. -/
  head : ℕ
  /-- Oldest stored packet. -/
  tail : ℕ
  count : ℕ
  dropped : U32
  deriving DecidableEq, Repr

/-- The results of `store_put`. -/
inductive StoreResult
  | rejected
  | ok
  | overwrote
  deriving DecidableEq, Repr

/-- `store_init`. -/
def storeInit : PacketStore where
  slot := Vector.replicate storeCap (List.replicate maxPkt 0)
  len := Vector.replicate storeCap 0
  stamp := Vector.replicate storeCap 0
  head := 0
  tail := 0
  count := 0
  dropped := 0

/-- `memcpy(dst, src, n)` with `n` the length of `src`: what follows is kept. -/
def memcpy (dst src : Bytes) : Bytes := src ++ dst.drop src.length

/-- The last four assignments of `store_put_at`: the packet goes to `head`. -/
def PacketStore.writeHead (s : PacketStore) (b : Bytes) (stamp : U32) : PacketStore :=
  { s with
    slot := s.slot.setIfInBounds s.head (memcpy (s.slot[s.head]?.getD []) b)
    len := s.len.setIfInBounds s.head b.length
    stamp := s.stamp.setIfInBounds s.head stamp
    head := (s.head + 1) % storeCap
    count := s.count + 1 }

/-- The two assignments that give up the oldest packet, in `store_put_at` and
`store_get_at` alike. -/
def PacketStore.dropFront (s : PacketStore) : PacketStore :=
  { s with tail := (s.tail + 1) % storeCap, count := s.count - 1 }

/-- `store_put_at`; `none` is a null `pkt`. -/
def storePutAt (s : PacketStore) (pkt : Option Bytes) (stamp : U32) : StoreResult × PacketStore :=
  match pkt with
  | none => (.rejected, s)
  | some b =>
    if b.length = 0 then (.rejected, s)
    else if b.length > maxPkt then (.rejected, { s with dropped := s.dropped + 1 })
    else
      let (result, s) :=
        if s.count = storeCap then
          -- full: `head = tail` here, so the slot about to be written is the oldest one
          (.overwrote, { s.dropFront with dropped := s.dropped + 1 })
        else (.ok, s)
      (result, s.writeHead b stamp)

/-- `store_put`. -/
def storePut (s : PacketStore) (pkt : Option Bytes) : StoreResult × PacketStore :=
  storePutAt s pkt 0

/-- The caller's `out`, `*n` and, where the pointer is not null, `*stamp`. -/
structure GetArgs where
  out : Bytes
  n : ℕ
  stamp : Option U32
  deriving DecidableEq, Repr

/-- `store_get_at`: whether a packet was copied out, and the arguments and the
store afterwards. -/
def storeGetAt (s : PacketStore) (a : GetArgs) : Bool × GetArgs × PacketStore :=
  if s.count = 0 then (false, a, s)
  else
    let n := s.len[s.tail]?.getD 0
    (true,
      { out := memcpy a.out ((s.slot[s.tail]?.getD []).take n)
        n := n
        stamp := a.stamp.map fun _ => s.stamp[s.tail]?.getD 0 },
      s.dropFront)

/-- `store_get`. -/
def storeGet (s : PacketStore) (out : Bytes) (n : ℕ) : Bool × GetArgs × PacketStore :=
  storeGetAt s ⟨out, n, none⟩

/-! ## The invariant -/

/-- A stored packet with its storage time. -/
abbrev Entry := Bytes × U32

/-- The entry in slot `i`. -/
def PacketStore.entry (s : PacketStore) (i : ℕ) : Entry :=
  ((s.slot[i]?.getD []).take (s.len[i]?.getD 0), s.stamp[i]?.getD 0)

/-- The entries in queue order, oldest first. -/
def PacketStore.items (s : PacketStore) : List Entry :=
  DropOldest.walk storeCap s.entry s.tail s.count

/-- Slot `i` holds as many octets as `len` says, and a storable number. -/
structure PacketStore.SlotOk (s : PacketStore) (i : ℕ) : Prop where
  len_le : s.len[i]?.getD 0 ≤ (s.slot[i]?.getD []).length
  len_pos : 1 ≤ s.len[i]?.getD 0
  len_le_max : s.len[i]?.getD 0 ≤ maxPkt

/-- The entry of an occupied slot has the length the slot says. -/
theorem PacketStore.SlotOk.length_entry {s : PacketStore} {i : ℕ} (h : s.SlotOk i) :
    (s.entry i).1.length = s.len[i]?.getD 0 := by
  rw [PacketStore.entry, List.length_take, min_eq_left h.len_le]

/-- What holds of every reachable store. -/
structure PacketStore.Inv (s : PacketStore) : Prop where
  count_le : s.count ≤ storeCap
  tail_lt : s.tail < storeCap
  head_eq : s.head = (s.tail + s.count) % storeCap
  occupied : ∀ i < s.count, s.SlotOk ((s.tail + i) % storeCap)

theorem PacketStore.Inv.head_lt {s : PacketStore} (h : s.Inv) : s.head < storeCap := by
  rw [h.head_eq]
  exact Nat.mod_lt _ (by decide)

theorem storeInit_inv : storeInit.Inv :=
  ⟨by decide, by decide, by decide, fun i hi => absurd hi (Nat.not_lt_zero i)⟩

/-- The loss counter is not part of the ring. -/
theorem PacketStore.Inv.setDropped {s : PacketStore} (h : s.Inv) (d : U32) :
    PacketStore.Inv { s with dropped := d } :=
  ⟨h.count_le, h.tail_lt, h.head_eq, fun i hi =>
    ⟨(h.occupied i hi).len_le, (h.occupied i hi).len_pos, (h.occupied i hi).len_le_max⟩⟩

@[simp] theorem PacketStore.length_items (s : PacketStore) : s.items.length = s.count :=
  DropOldest.length_walk _ _ _ _

/-! ## Writing at the head, giving up the front -/

theorem PacketStore.slotOk_writeHead_ne {s : PacketStore} {b : Bytes} {t : U32} {i : ℕ}
    (hi : i ≠ s.head) : (s.writeHead b t).SlotOk i ↔ s.SlotOk i := by
  have hslot : (s.writeHead b t).slot[i]? = s.slot[i]? := Vector.getElem?_setIfInBounds_ne hi.symm
  have hlen : (s.writeHead b t).len[i]? = s.len[i]? := Vector.getElem?_setIfInBounds_ne hi.symm
  constructor
  · rintro ⟨h₁, h₂, h₃⟩
    rw [hslot, hlen] at h₁
    rw [hlen] at h₂ h₃
    exact ⟨h₁, h₂, h₃⟩
  · rintro ⟨h₁, h₂, h₃⟩
    exact ⟨by rwa [hslot, hlen], by rwa [hlen], by rwa [hlen]⟩

theorem PacketStore.entry_writeHead_ne {s : PacketStore} {b : Bytes} {t : U32} {i : ℕ}
    (hi : i ≠ s.head) : (s.writeHead b t).entry i = s.entry i := by
  simp only [PacketStore.entry, PacketStore.writeHead, Vector.getElem?_setIfInBounds_ne hi.symm]

section writeHead

variable {s : PacketStore} (h : s.Inv) {b : Bytes} (t : U32)

include h

theorem PacketStore.entry_writeHead : (s.writeHead b t).entry s.head = (b, t) := by
  simp only [PacketStore.entry, PacketStore.writeHead,
    Vector.getElem?_setIfInBounds_self_of_lt h.head_lt, Option.getD_some, memcpy, List.take_left]

theorem PacketStore.items_writeHead (hc : s.count < storeCap) :
    (s.writeHead b t).items = s.items ++ [(b, t)] := by
  have hhead : s.head = ((s.writeHead b t).tail + s.count) % storeCap := h.head_eq
  refine DropOldest.walk_snoc hc ?_ ?_
  · intro i hi
    rw [← hhead] at hi
    exact PacketStore.entry_writeHead_ne hi
  · rw [← hhead]
    exact PacketStore.entry_writeHead h t

theorem PacketStore.Inv.writeHead (hc : s.count < storeCap) (hpos : 1 ≤ b.length)
    (hmax : b.length ≤ maxPkt) : (s.writeHead b t).Inv := by
  constructor
  · exact hc
  · exact h.tail_lt
  · change (s.head + 1) % storeCap = (s.tail + (s.count + 1)) % storeCap
    rw [h.head_eq, Nat.mod_add_mod, Nat.add_assoc]
  · intro i hi
    change (s.writeHead b t).SlotOk ((s.tail + i) % storeCap)
    rcases Nat.lt_succ_iff_lt_or_eq.1 hi with hlt | rfl
    · have hne : (s.tail + i) % storeCap ≠ s.head := by
        rw [h.head_eq]
        exact DropOldest.walk_index_ne hc hlt
      exact (PacketStore.slotOk_writeHead_ne hne).2 (h.occupied i hlt)
    · rw [← h.head_eq]
      have hlen : (s.writeHead b t).len[s.head]? = some b.length :=
        Vector.getElem?_setIfInBounds_self_of_lt h.head_lt
      have hslot : (s.writeHead b t).slot[s.head]? = some (memcpy (s.slot[s.head]?.getD []) b) :=
        Vector.getElem?_setIfInBounds_self_of_lt h.head_lt
      constructor
      · rw [hlen, hslot, Option.getD_some, Option.getD_some, memcpy, List.length_append]
        omega
      · rwa [hlen]
      · rwa [hlen]

end writeHead

section dropFront

variable {s : PacketStore} (h : s.Inv) (hc : 0 < s.count)

include h hc

/-- The front of the queue is the entry at the tail. -/
theorem PacketStore.items_eq_cons : s.items = s.entry s.tail :: s.dropFront.items := by
  obtain ⟨n, hn⟩ : ∃ n, s.count = n + 1 := ⟨s.count - 1, by omega⟩
  rw [PacketStore.items, hn, DropOldest.walk_cons, Nat.mod_eq_of_lt h.tail_lt]
  simp only [PacketStore.items, PacketStore.dropFront, hn, Nat.add_sub_cancel]
  rfl

theorem PacketStore.Inv.dropFront : s.dropFront.Inv := by
  constructor
  · exact (Nat.sub_le _ _).trans h.count_le
  · exact Nat.mod_lt _ (by decide)
  · change s.head = ((s.tail + 1) % storeCap + (s.count - 1)) % storeCap
    rw [h.head_eq, Nat.mod_add_mod]
    congr 1
    omega
  · intro i hi
    have hi : i + 1 < s.count := by
      simp only [PacketStore.dropFront] at hi
      omega
    have hindex : ((s.tail + 1) % storeCap + i) % storeCap = (s.tail + (i + 1)) % storeCap := by
      rw [Nat.mod_add_mod]
      congr 1
      omega
    obtain ⟨h₁, h₂, h₃⟩ := h.occupied (i + 1) hi
    rw [← hindex] at h₁ h₂ h₃
    exact ⟨h₁, h₂, h₃⟩

end dropFront

/-! ## The two operations -/

/-- A packet a slot can hold. -/
def Storable (b : Bytes) : Prop := 1 ≤ b.length ∧ b.length ≤ maxPkt

theorem storePutAt_of_oversize (s : PacketStore) {b : Bytes} (hb : maxPkt < b.length) (t : U32) :
    storePutAt s (some b) t = (.rejected, { s with dropped := s.dropped + 1 }) := by
  have hne : b.length ≠ 0 := by omega
  simp only [storePutAt, hne, if_false]
  exact if_pos hb

/-- **What a put does**, seen from the queue. -/
theorem storePutAt_spec {s : PacketStore} (h : s.Inv) {b : Bytes} (hb : Storable b) (t : U32) :
    let r := storePutAt s (some b) t
    r.1 = (if s.count = storeCap then .overwrote else .ok) ∧ r.2.Inv ∧
      r.2.items = DropOldest.push storeCap s.items (b, t) ∧
      r.2.dropped = s.dropped + if s.count = storeCap then 1 else 0 := by
  obtain ⟨hpos, hmax⟩ := hb
  have hne : b.length ≠ 0 := by omega
  have hfit : ¬b.length > maxPkt := by omega
  by_cases hfull : s.count = storeCap
  · have hcount : 0 < s.count := by rw [hfull]; decide
    have hroom : s.dropFront.count < storeCap := by
      simp only [PacketStore.dropFront]
      omega
    have hinv := (h.dropFront hcount).setDropped (s.dropped + 1)
    simp only [storePutAt, hne, hfit, hfull, if_true, if_false]
    refine ⟨trivial, hinv.writeHead t hroom hpos hmax, ?_, rfl⟩
    rw [DropOldest.push_of_full (by rw [PacketStore.length_items, hfull]),
      PacketStore.items_eq_cons h hcount, List.tail_cons]
    exact PacketStore.items_writeHead hinv t hroom
  · have hroom : s.count < storeCap := lt_of_le_of_ne h.count_le hfull
    simp only [storePutAt, hne, hfit, hfull, if_false]
    refine ⟨trivial, h.writeHead t hroom hpos hmax, ?_, (BitVec.add_zero _).symm⟩
    rw [DropOldest.push_of_room (by rwa [PacketStore.length_items])]
    exact PacketStore.items_writeHead h t hroom

theorem storeGetAt_of_empty {s : PacketStore} (hc : s.count = 0) (a : GetArgs) :
    storeGetAt s a = (false, a, s) := if_pos hc

/-- **What a get does**, seen from the queue. -/
theorem storeGetAt_spec {s : PacketStore} (h : s.Inv) {e : Entry} {rest : List Entry}
    (hs : s.items = e :: rest) (a : GetArgs) :
    let r := storeGetAt s a
    r.1 = true ∧ r.2.1 = ⟨memcpy a.out e.1, e.1.length, a.stamp.map fun _ => e.2⟩ ∧ r.2.2.Inv ∧
      r.2.2.items = rest ∧ r.2.2.dropped = s.dropped ∧ Storable e.1 := by
  have hcount : 0 < s.count := by
    rw [← PacketStore.length_items, hs]
    exact Nat.succ_pos _
  have hcons := PacketStore.items_eq_cons h hcount
  obtain ⟨rfl, rfl⟩ := List.cons.inj (hs.symm.trans hcons)
  have hslot := h.occupied 0 hcount
  rw [Nat.add_zero, Nat.mod_eq_of_lt h.tail_lt] at hslot
  have hentry := hslot.length_entry
  have hr : storeGetAt s a = _ := if_neg hcount.ne'
  simp only [hr]
  refine ⟨trivial, ?_, h.dropFront hcount, trivial, rfl, ?_⟩
  · rw [hentry]
    rfl
  · rw [Storable, hentry]
    exact ⟨hslot.len_pos, hslot.len_le_max⟩

/-! ## Refinement -/

/-- A call on the store. -/
inductive StoreCall
  | put (pkt : Option Bytes)
  | putAt (pkt : Option Bytes) (stamp : U32)
  | get (out : Bytes) (n : ℕ)
  | getAt (args : GetArgs)

/-- What a call gives back. -/
inductive StoreReply
  | put (result : StoreResult)
  | get (ok : Bool) (args : GetArgs)
  deriving DecidableEq, Repr

/-- The code's answer to a call. -/
def PacketStore.call (s : PacketStore) : StoreCall → StoreReply × PacketStore
  | .put pkt => let r := storePut s pkt; (.put r.1, r.2)
  | .putAt pkt stamp => let r := storePutAt s pkt stamp; (.put r.1, r.2)
  | .get out n => let r := storeGet s out n; (.get r.1 r.2.1, r.2.2)
  | .getAt a => let r := storeGetAt s a; (.get r.1 r.2.1, r.2.2)

/-- What the store is for: a queue of entries and a count of losses. -/
structure Fifo where
  items : List Entry
  dropped : U32
  deriving DecidableEq, Repr

/-- A put on the queue. -/
def Fifo.put (q : Fifo) (pkt : Option Bytes) (stamp : U32) : StoreResult × Fifo :=
  match pkt with
  | none => (.rejected, q)
  | some [] => (.rejected, q)
  | some b =>
    if b.length > 64 then (.rejected, { q with dropped := q.dropped + 1 })
    else if q.items.length = 16 then
      (.overwrote, ⟨q.items.tail ++ [(b, stamp)], q.dropped + 1⟩)
    else (.ok, { q with items := q.items ++ [(b, stamp)] })

/-- A get on the queue. -/
def Fifo.get (q : Fifo) (a : GetArgs) : Bool × GetArgs × Fifo :=
  match q.items with
  | [] => (false, a, q)
  | (b, stamp) :: rest =>
    (true, ⟨memcpy a.out b, b.length, a.stamp.map fun _ => stamp⟩, { q with items := rest })

/-- The queue's answer to a call. -/
def Fifo.call (q : Fifo) : StoreCall → StoreReply × Fifo
  | .put pkt => let r := q.put pkt 0; (.put r.1, r.2)
  | .putAt pkt stamp => let r := q.put pkt stamp; (.put r.1, r.2)
  | .get out n => let r := q.get ⟨out, n, none⟩; (.get r.1 r.2.1, r.2.2)
  | .getAt a => let r := q.get a; (.get r.1 r.2.1, r.2.2)

/-- A sequence of calls, with its answers. -/
def runCalls {σ : Type} (call : σ → StoreCall → StoreReply × σ) (s : σ) :
    List StoreCall → List StoreReply × σ
  | [] => ([], s)
  | c :: cs =>
    let r := call s c
    let rest := runCalls call r.2 cs
    (r.1 :: rest.1, rest.2)

/-- The queue a store stands for. -/
def PacketStore.toFifo (s : PacketStore) : Fifo := ⟨s.items, s.dropped⟩

theorem putAt_refines {s : PacketStore} (h : s.Inv) (pkt : Option Bytes) (t : U32) :
    (storePutAt s pkt t).1 = (s.toFifo.put pkt t).1 ∧
      (storePutAt s pkt t).2.toFifo = (s.toFifo.put pkt t).2 ∧ (storePutAt s pkt t).2.Inv := by
  match pkt with
  | none => exact ⟨rfl, rfl, h⟩
  | some [] => exact ⟨rfl, rfl, h⟩
  | some (o :: b) =>
      by_cases hmax : (o :: b).length > 64
      · rw [storePutAt_of_oversize s hmax]
        simp only [Fifo.put, hmax, if_true]
        exact ⟨trivial, rfl, h.setDropped _⟩
      · obtain ⟨hres, hinv, hitems, hdrop⟩ :=
          storePutAt_spec h (b := o :: b) ⟨Nat.succ_pos _, not_lt.1 hmax⟩ t
        rw [DropOldest.push, PacketStore.length_items] at hitems
        refine ⟨hres.trans ?_, ?_, hinv⟩
        · simp only [Fifo.put, hmax, if_false, PacketStore.toFifo, PacketStore.length_items]
          rw [apply_ite Prod.fst]
          rfl
        · rw [PacketStore.toFifo, hitems, hdrop]
          simp only [Fifo.put, hmax, if_false, PacketStore.toFifo, PacketStore.length_items]
          by_cases hfull : s.count = storeCap
          · rw [if_pos hfull, if_pos hfull, if_pos (show s.count = 16 from hfull)]
          · rw [if_neg hfull, if_neg hfull, if_neg (show ¬s.count = 16 from hfull), add_zero]

theorem getAt_refines {s : PacketStore} (h : s.Inv) (a : GetArgs) :
    (storeGetAt s a).1 = (s.toFifo.get a).1 ∧ (storeGetAt s a).2.1 = (s.toFifo.get a).2.1 ∧
      (storeGetAt s a).2.2.toFifo = (s.toFifo.get a).2.2 ∧ (storeGetAt s a).2.2.Inv := by
  cases hs : s.items with
  | nil =>
      have hc : s.count = 0 := by rw [← PacketStore.length_items, hs, List.length_nil]
      rw [storeGetAt_of_empty hc]
      simp only [Fifo.get, PacketStore.toFifo, hs]
      exact ⟨trivial, trivial, trivial, h⟩
  | cons e rest =>
      obtain ⟨hok, hargs, hinv, hitems, hdrop, -⟩ := storeGetAt_spec h hs a
      simp only [Fifo.get, PacketStore.toFifo, hs]
      exact ⟨hok, hargs, by rw [hitems, hdrop], hinv⟩

/-- One call: the code and the queue answer alike and stay together. -/
theorem call_refines {s : PacketStore} (h : s.Inv) (c : StoreCall) :
    (s.call c).1 = (s.toFifo.call c).1 ∧ (s.call c).2.toFifo = (s.toFifo.call c).2 ∧
      (s.call c).2.Inv := by
  cases c with
  | put pkt =>
      obtain ⟨hres, hq, hinv⟩ := putAt_refines h pkt 0
      exact ⟨congrArg StoreReply.put hres, hq, hinv⟩
  | putAt pkt t =>
      obtain ⟨hres, hq, hinv⟩ := putAt_refines h pkt t
      exact ⟨congrArg StoreReply.put hres, hq, hinv⟩
  | get out n =>
      obtain ⟨hok, hargs, hq, hinv⟩ := getAt_refines h ⟨out, n, none⟩
      exact ⟨congrArg₂ StoreReply.get hok hargs, hq, hinv⟩
  | getAt a =>
      obtain ⟨hok, hargs, hq, hinv⟩ := getAt_refines h a
      exact ⟨congrArg₂ StoreReply.get hok hargs, hq, hinv⟩

theorem runCalls_refines {s : PacketStore} (h : s.Inv) (cs : List StoreCall) :
    (runCalls PacketStore.call s cs).1 = (runCalls Fifo.call s.toFifo cs).1 ∧
      (runCalls PacketStore.call s cs).2.toFifo = (runCalls Fifo.call s.toFifo cs).2 ∧
      (runCalls PacketStore.call s cs).2.Inv := by
  induction cs generalizing s with
  | nil => exact ⟨rfl, rfl, h⟩
  | cons c cs ih =>
      obtain ⟨hreply, hq, hinv⟩ := call_refines h c
      obtain ⟨hreplies, hq', hinv'⟩ := ih hinv
      rw [hq] at hreplies hq'
      exact ⟨congrArg₂ List.cons hreply hreplies, hq', hinv'⟩

/-- **The store is a bounded drop-oldest queue.**  Over any sequence of calls from
`store_init` the ring gives the answers of the queue and holds its entries and its
loss count; its indices stay in range and every occupied slot holds a packet of 1
to 64 octets. -/
theorem store_refines_fifo (cs : List StoreCall) :
    let s := runCalls PacketStore.call storeInit cs
    let q := runCalls Fifo.call ⟨[], 0⟩ cs
    s.1 = q.1 ∧ s.2.items = q.2.items ∧ s.2.dropped = q.2.dropped ∧
      s.2.count ≤ 16 ∧ s.2.head < 16 ∧ s.2.tail < 16 ∧ s.2.head = (s.2.tail + s.2.count) % 16 ∧
      ∀ i < s.2.count, ∃ n, s.2.len[(s.2.tail + i) % 16]? = some n ∧ 1 ≤ n ∧ n ≤ 64 := by
  obtain ⟨hreplies, hq, hinv⟩ := runCalls_refines storeInit_inv cs
  refine ⟨hreplies, congrArg Fifo.items hq, congrArg Fifo.dropped hq, hinv.count_le, hinv.head_lt,
    hinv.tail_lt, hinv.head_eq, ?_⟩
  intro i hi
  obtain ⟨-, hpos, hmax⟩ := hinv.occupied i hi
  have hin : ((runCalls PacketStore.call storeInit cs).2.tail + i) % storeCap < storeCap :=
    Nat.mod_lt _ (by decide)
  rw [Vector.getElem?_eq_getElem hin, Option.getD_some] at hpos hmax
  exact ⟨_, Vector.getElem?_eq_getElem hin, hpos, hmax⟩

/-! ## Stores that cannot be malformed -/

/-- A store that satisfies its invariant. -/
abbrev Store := { s : PacketStore // s.Inv }

namespace Store

/-- `store_init`. -/
def init : Store := ⟨storeInit, storeInit_inv⟩

/-- `store_put_at`, for its effect. -/
def putAt (s : Store) (b : Bytes) (t : U32) : Store :=
  ⟨(storePutAt s.1 (some b) t).2, (putAt_refines s.2 (some b) t).2.2⟩

/-- `store_get` into a fresh buffer: the packet, unless the store is empty. -/
def get (s : Store) : Option Bytes × Store :=
  let r := storeGet s.1 [] 0
  (if r.1 then some r.2.1.out else none, ⟨r.2.2, (getAt_refines s.2 _).2.2.2⟩)

/-- The packets in queue order. -/
def packets (s : Store) : List Bytes := s.1.items.map Prod.fst

@[simp] theorem length_packets (s : Store) : s.packets.length = s.1.count := by
  simp [packets]

@[simp] theorem packets_init : init.packets = [] := rfl

/-- An oversized packet is counted and not stored. -/
theorem putAt_oversize (s : Store) {b : Bytes} (hb : maxPkt < b.length) (t : U32) :
    (s.putAt b t).packets = s.packets ∧ (s.putAt b t).1.dropped = s.1.dropped + 1 := by
  have h : (s.putAt b t).1 = { s.1 with dropped := s.1.dropped + 1 } :=
    congrArg Prod.snd (storePutAt_of_oversize s.1 hb t)
  exact ⟨congrArg (fun s => s.items.map Prod.fst) h, congrArg PacketStore.dropped h⟩

theorem putAt_storable (s : Store) {b : Bytes} (hb : Storable b) (t : U32) :
    (s.putAt b t).packets = DropOldest.push storeCap s.packets b ∧
      (s.putAt b t).1.dropped = s.1.dropped + if s.packets.length = storeCap then 1 else 0 := by
  obtain ⟨-, -, hitems, hdrop⟩ := storePutAt_spec s.2 hb t
  rw [length_packets]
  refine ⟨?_, hdrop⟩
  rw [packets, putAt, hitems, DropOldest.push, DropOldest.push, length_packets,
    PacketStore.length_items]
  split
  · simp [packets, List.map_tail]
  · simp [packets]

/-- A put brings in nothing but its own packet. -/
theorem mem_putAt {s : Store} {b q : Bytes} {t : U32} (h : q ∈ (s.putAt b t).packets) :
    q ∈ s.packets ∨ q = b := by
  rcases Nat.eq_zero_or_pos b.length with hzero | hpos
  · have hsame : s.putAt b t = s := by
      rw [List.eq_nil_of_length_eq_zero hzero]
      rfl
    rw [hsame] at h
    exact .inl h
  · by_cases hmax : b.length ≤ maxPkt
    · rw [(s.putAt_storable ⟨hpos, hmax⟩ t).1] at h
      exact DropOldest.mem_push h
    · rw [(s.putAt_oversize (not_le.1 hmax) t).1] at h
      exact .inl h

theorem get_of_nil {s : Store} (h : s.packets = []) : s.get = (none, s) := by
  have hc : s.1.count = 0 := by rw [← length_packets, h, List.length_nil]
  simp only [get, storeGet, storeGetAt_of_empty hc]
  rfl

theorem get_of_cons {s : Store} {b : Bytes} {rest : List Bytes} (h : s.packets = b :: rest) :
    s.get.1 = some b ∧ s.get.2.packets = rest ∧ s.get.2.1.dropped = s.1.dropped := by
  obtain ⟨e, es, hs, rfl, rfl⟩ := List.map_eq_cons_iff.1 h
  obtain ⟨hok, hargs, -, hitems, hdrop, -⟩ := storeGetAt_spec s.2 hs ⟨[], 0, none⟩
  refine ⟨?_, ?_, hdrop⟩
  · simp only [get, storeGet, hok, hargs, if_true, memcpy, List.drop_nil, List.append_nil]
  · exact congrArg (List.map Prod.fst) hitems

end Store

end Obdh
end SpacecraftFsw
