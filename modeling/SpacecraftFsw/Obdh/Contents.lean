import SpacecraftFsw.Obdh.Ledger

/-!
# What the stores hold

Contents and time stamps of the two packet stores of the OBDH, over whole runs.

* `Kept` — a queue of stored packets of one class, each short enough for its slot,
  stamped in drain order and not in the future.
* `Contents` — both stores; `Contents.quiet`, `Contents.contact` and
  `Contents.tick` are the arguments for one step.
* `contents_run` — the invariant after every run in which the clock does not wrap,
  and what a drain hands down because of it.
-/

namespace SpacecraftFsw
namespace Obdh

open Tmtc
open Relation (ReflTransGen)

variable {υ : Type}

/-! ## Queues of stored packets -/

/-- Stored packets of class `i`, in drain order, at time `now`. -/
structure Kept (i : StoreId) (now : U32) (items : List Entry) : Prop where
  class_eq : ∀ e ∈ items, tmClass e.1 = some i
  fits : ∀ e ∈ items, e.1.length ≤ maxPkt
  ordered : items.Pairwise fun e e' => e.2 ≤ e'.2
  past : ∀ e ∈ items, e.2 ≤ now

theorem kept_nil (i : StoreId) (now : U32) : Kept i now [] where
  class_eq := fun e he => by cases he
  fits := fun e he => by cases he
  ordered := .nil
  past := fun e he => by cases he

variable {i : StoreId} {now : U32} {items : List Entry}

/-- Time passes. -/
theorem Kept.later (h : Kept i now items) {now' : U32} (hle : now ≤ now') : Kept i now' items where
  class_eq := h.class_eq
  fits := h.fits
  ordered := h.ordered
  past := fun e he => BitVec.le_trans (h.past e he) hle

/-- A packet stamped with the present time goes behind the others. -/
theorem Kept.push (h : Kept i now items) {p : Bytes} (hclass : tmClass p = some i)
    (hmax : p.length ≤ maxPkt) : Kept i now (DropOldest.push storeCap items (p, now)) where
  class_eq := by
    intro e he
    rcases DropOldest.mem_push he with he | rfl
    · exact h.class_eq e he
    · exact hclass
  fits := by
    intro e he
    rcases DropOldest.mem_push he with he | rfl
    · exact h.fits e he
    · exact hmax
  ordered := DropOldest.pairwise_push h.ordered h.past
  past := by
    intro e he
    rcases DropOldest.mem_push he with he | rfl
    · exact h.past e he
    · exact BitVec.le_refl now

theorem Kept.putAt {s : Store} (h : Kept i now s.1.items) {p : Bytes}
    (hclass : tmClass p = some i) : Kept i now (s.putAt p now).1.items := by
  by_cases hmax : p.length ≤ maxPkt
  · have hpos : 1 ≤ p.length := by
      have hlen := (consistent_of_class hclass).1
      rw [ccsdsPriHdrLen] at hlen
      omega
    have hitems := (storePutAt_spec s.2 ⟨hpos, hmax⟩ now).2.2.1
    rw [show (s.putAt p now).1.items = _ from hitems]
    exact h.push hclass hmax
  · have hsame : (s.putAt p now).1.items = s.1.items :=
      congrArg (fun r => PacketStore.items r.2) (storePutAt_of_oversize s.1 (not_le.1 hmax) now)
    rw [hsame]
    exact h

/-- A store without packets has no entries. -/
theorem Store.items_eq_nil {s : Store} (h : s.packets = []) : s.1.items = [] :=
  List.map_eq_nil_iff.1 h

/-! ## The invariant -/

/-- What the two stores of the router hold. -/
def Contents (b : Bus υ) : Prop := ∀ i, Kept i b.obdh.onboardTime (b.obdh.store i).1.items

theorem contents_init (downlink inContact : Bool) (user : υ) :
    Contents (obdhInit downlink inContact user) := by
  intro i
  have hnil : ((obdhInit downlink inContact user).obdh.store i).1.items = [] := by
    cases i <;> rfl
  rw [hnil]
  exact kept_nil i _

/-- The clock and the stores are all that matters. -/
theorem Contents.congr {b b' : Bus υ} (h : Contents b)
    (htime : b'.obdh.onboardTime = b.obdh.onboardTime)
    (hstore : ∀ i, b'.obdh.store i = b.obdh.store i) : Contents b' := by
  intro i
  rw [htime, hstore i]
  exact h i

theorem Contents.telemetry {b : Bus υ} (h : Contents b) {pkt : Option Bytes}
    {r : ObdhDest × Bus υ} (hr : TmOutcome b pkt r) : Contents r.2 := by
  cases hr with
  | malformed | unknown | response | downlink => exact h.congr rfl fun _ => rfl
  | store p i hp hc hclass hcontact =>
      have htime : ((b.record pkt).storeTm i p).obdh.onboardTime = b.obdh.onboardTime := by
        cases i <;> rfl
      intro j
      rw [htime]
      by_cases hij : j = i
      · subst hij
        have hstore : ((b.record pkt).storeTm j p).obdh.store j =
            (b.obdh.store j).putAt p b.obdh.onboardTime := by
          cases j <;> rfl
        rw [hstore]
        exact (h j).putAt hclass
      · have hstore : ((b.record pkt).storeTm i p).obdh.store j = b.obdh.store j :=
          store_setStore_ne b.obdh hij _
        rw [hstore]
        exact h j

/-- **A quiet step** keeps the contents. -/
theorem Contents.quiet {b b' : Bus υ} (h : Contents b) (hs : QuietStep b b') : Contents b' := by
  cases hs with
  | user u => exact h.congr rfl fun _ => rfl
  | telemetry pkt hpkt => exact h.telemetry (obdhIngestTm_outcome b hpkt)
  | dispatch p hp => exact h.congr rfl fun i => by cases i <;> rfl
  | uplink c => exact h.congr rfl fun i => by cases i <;> rfl
  | hkSeq n => exact h.congr rfl fun i => by cases i <;> rfl

theorem Contents.quiets {b b' : Bus υ} (h : Contents b) (hs : ReflTransGen QuietStep b b') :
    Contents b' := by
  induction hs with
  | refl => exact h
  | tail _ hstep ih => exact ih.quiet hstep

/-- Entering contact leaves both stores empty; leaving it touches neither. -/
theorem Contents.contact {b : Bus υ} (h : Contents b) (inContact : Bool) :
    Contents (obdhSetContact b inContact) ∧
      (obdhSetContact b inContact).obdh.onboardTime = b.obdh.onboardTime := by
  cases inContact with
  | false =>
      rw [obdhSetContact_leave]
      exact ⟨h.congr rfl fun i => by cases i <;> rfl, rfl⟩
  | true =>
      cases hwas : b.obdh.inContact with
      | true =>
          rw [← hwas, obdhSetContact_same]
          exact ⟨h, rfl⟩
      | false =>
          have hframe := obdhSetContact_frame b true
          refine ⟨fun i => ?_, hframe.time⟩
          have hnil := Store.items_eq_nil (s := (obdhSetContact b true).obdh.store i)
            (by simpa [hwas] using hframe.packets i)
          rw [hnil]
          exact kept_nil i _

theorem toNat_obdhTick {b : Bus υ} (htime : b.obdh.onboardTime.toNat + 1 < 2 ^ 32) :
    (obdhTick b).obdh.onboardTime.toNat = b.obdh.onboardTime.toNat + 1 := by
  rw [obdhTick, BitVec.toNat_add]
  exact Nat.mod_eq_of_lt htime

/-- A tick that does not wrap the clock. -/
theorem Contents.tick {b : Bus υ} (h : Contents b)
    (htime : b.obdh.onboardTime.toNat + 1 < 2 ^ 32) : Contents (obdhTick b) := by
  intro i
  refine (h i).later ?_
  rw [BitVec.le_def, toNat_obdhTick htime]
  exact Nat.le_succ _

/-! ## Every run -/

/-- The ticks of a run. -/
def ticks (ops : List ObdhOp) : ℕ := ops.countP ObdhOp.isTick

theorem ticks_append (ops : List ObdhOp) (op : ObdhOp) :
    ticks (ops ++ [op]) = ticks ops + if op.isTick then 1 else 0 := by
  rw [ticks, List.countP_append, List.countP_singleton, ticks]

theorem contents_after (H : ExitSafeHook υ) (downlink inContact : Bool) (user : υ)
    (ops : List ObdhOp) (hticks : ticks ops < 2 ^ 32) :
    let b := obdhRun H (obdhInit downlink inContact user) ops
    Contents b ∧ b.obdh.onboardTime.toNat = ticks ops := by
  induction ops using List.reverseRecOn with
  | nil => exact ⟨contents_init downlink inContact user, rfl⟩
  | append_singleton ops op ih =>
      rw [ticks_append] at hticks ⊢
      obtain ⟨hcontents, htime⟩ := ih (by omega)
      rw [obdhRun, List.foldl_append]
      change Contents (obdhOp H (obdhRun H _ ops) op) ∧ _
      rcases obdhOp_cases H (obdhRun H (obdhInit downlink inContact user) ops) op with
        ⟨c, rfl⟩ | rfl | ⟨hop, hquiet⟩
      · obtain ⟨hkept, hsame⟩ := hcontents.contact c
        exact ⟨hkept, (congrArg BitVec.toNat hsame).trans htime⟩
      · change _ + 1 < _ at hticks
        rw [← htime] at hticks
        refine ⟨hcontents.tick hticks, (toNat_obdhTick hticks).trans ?_⟩
        rw [htime]
        rfl
      · have hsame := (sameLink_of_quiet hquiet).time
        rw [hop]
        exact ⟨hcontents.quiets hquiet, (congrArg BitVec.toNat hsame).trans htime⟩

/-- What the store says of one of its packets, slot by slot. -/
structure HeldSlot (i : StoreId) (s : PacketStore) (now : U32) (k : ℕ) : Prop where
  type : (ccsdsParsePrimary (s.entry k).1).type = 0
  apid : (ccsdsParsePrimary (s.entry k).1).apid ∈ classApids i
  len : s.len[k]? = some ((ccsdsParsePrimary (s.entry k).1).dataLength.toNat + 7)
  length : (s.entry k).1.length = (ccsdsParsePrimary (s.entry k).1).dataLength.toNat + 7
  fits : (s.entry k).1.length ≤ 64
  past : (s.entry k).2 ≤ now

/-- **Contents and stamps of the stores.**  In every run from `obdh_init` with fewer
than `2 ^ 32` ticks, for each of the two stores:

* every occupied slot holds, up to its stored length, a telemetry packet of the
  store's class whose length field agrees with the stored length, at most 64
  octets, and no stamp is in the future;
* the stamps do not decrease in drain order;
* entering contact hands down exactly these packets, events first. -/
theorem contents_run (H : ExitSafeHook υ) (downlink inContact : Bool) (user : υ)
    (ops : List ObdhOp) (hticks : ticks ops < 2 ^ 32) :
    let b := obdhRun H (obdhInit downlink inContact user) ops
    (∀ i k, k < (b.obdh.store i).1.count →
      HeldSlot i (b.obdh.store i).1 b.obdh.onboardTime (((b.obdh.store i).1.tail + k) % 16)) ∧
    (∀ i, (b.obdh.store i).1.items.Pairwise fun e e' => e.2 ≤ e'.2) ∧
    (b.obdh.inContact = false → (obdhSetContact b true).ground = b.ground ++
      if b.obdh.downlink then
        b.obdh.evStore.1.items.map Prod.fst ++ b.obdh.hkStore.1.items.map Prod.fst
      else []) := by
  intro b
  obtain ⟨hcontents, -⟩ := contents_after H downlink inContact user ops hticks
  have hdrain : b.obdh.inContact = false → (obdhSetContact b true).ground = b.ground ++
      if b.obdh.downlink then b.obdh.evStore.packets ++ b.obdh.hkStore.packets else [] := by
    intro hout
    simpa [hout] using (obdhSetContact_frame b true).ground
  refine ⟨fun i k hk => ?_, fun i => (hcontents i).ordered, hdrain⟩
  set s := (b.obdh.store i).1 with hs
  have hslot : s.SlotOk ((s.tail + k) % 16) := (b.obdh.store i).2.occupied k hk
  have hin : (s.tail + k) % 16 < storeCap := Nat.mod_lt _ (by decide)
  have hmem : s.entry ((s.tail + k) % 16) ∈ s.items :=
    List.mem_map.2 ⟨k, List.mem_range.2 hk, rfl⟩
  have hclass := (hcontents i).class_eq _ hmem
  obtain ⟨-, htype, hfield⟩ := consistent_of_class hclass
  rw [ccsdsPriHdrLen, Nat.add_assoc] at hfield
  refine ⟨htype, mem_classApids hclass, ?_, hfield.symm, (hcontents i).fits _ hmem,
    (hcontents i).past _ hmem⟩
  rw [hfield, hslot.length_entry, Vector.getElem?_eq_getElem hin, Option.getD_some]

/-- Two events stored one tick apart, with nothing behind the hook. -/
theorem contents_run_two_events :
    let ops : List ObdhOp := [.ingest (some (tmPacket 0x066 0 5 1 [])), .tick,
      .ingest (some (tmPacket 0x066 1 5 1 []))]
    let H : ExitSafeHook Unit := ⟨fun b => (0, b), fun _ => .refl⟩
    let b := obdhRun H (obdhInit true false ()) ops
    ticks ops < 2 ^ 32 ∧ (b.obdh.store .ev).1.items.Pairwise fun e e' => e.2 ≤ e'.2 := by
  intro ops H b
  have hticks : ticks ops < 2 ^ 32 := by decide
  exact ⟨hticks, (contents_run H true false () ops hticks).2.1 .ev⟩

end Obdh
end SpacecraftFsw
