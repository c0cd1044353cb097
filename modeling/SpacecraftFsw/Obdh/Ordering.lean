import SpacecraftFsw.Obdh.Ledger

/-!
# Downlink ordering

What the ground sees of events and of housekeeping, each class by itself: what
was ingested, in order, less what the stores have counted as lost.

* `Ordered` — the invariant that ties the contact flag, the stores, the downlink
  log and the packets ingested together.
* `Ordered.step` — the argument for one step, one case per way a packet can go.
* `ordering_run` — the result for every run from `obdh_init`.
-/

namespace SpacecraftFsw
namespace Obdh

open Tmtc
open Relation (ReflTransGen)

variable {υ : Type}

/-! ## Classes -/

/-- The packets of one class. -/
def ofClass (i : StoreId) (pkts : List Bytes) : List Bytes :=
  pkts.filter fun p => tmClass p = some i

/-- The packets of one class among all that were ingested. -/
def Bus.offered (b : Bus υ) (i : StoreId) : List Bytes := ofClass i b.ingested.reduceOption

theorem ofClass_append (i : StoreId) (x y : List Bytes) :
    ofClass i (x ++ y) = ofClass i x ++ ofClass i y := List.filter_append ..

theorem ofClass_single {i : StoreId} {p : Bytes} (h : tmClass p = some i) : ofClass i [p] = [p] :=
  List.filter_cons_of_pos (by simpa using h)

theorem ofClass_single_ne {i : StoreId} {p : Bytes} (h : tmClass p ≠ some i) :
    ofClass i [p] = [] :=
  List.filter_cons_of_neg (by simpa using h)

theorem ofClass_eq_self {i : StoreId} {q : List Bytes} (h : ∀ p ∈ q, tmClass p = some i) :
    ofClass i q = q :=
  List.filter_eq_self.2 fun p hp => by simpa using h p hp

theorem ofClass_eq_nil {i j : StoreId} (hij : i ≠ j) {q : List Bytes}
    (h : ∀ p ∈ q, tmClass p = some j) : ofClass i q = [] :=
  List.filter_eq_nil_iff.2 fun p hp => by
    rw [h p hp]
    simpa using hij.symm

theorem offered_record (b : Bus υ) (i : StoreId) (p : Bytes) :
    (b.record (some p)).offered i = b.offered i ++ ofClass i [p] := by
  rw [Bus.offered, Bus.record, List.reduceOption_append, ofClass_append]
  rfl

theorem offered_record_of_class {b : Bus υ} {i : StoreId} {p : Bytes} (h : tmClass p = some i) :
    (b.record (some p)).offered i = b.offered i ++ [p] := by
  rw [offered_record, ofClass_single h]

theorem offered_record_of_ne {b : Bus υ} {i : StoreId} {p : Bytes} (h : tmClass p ≠ some i) :
    (b.record (some p)).offered i = b.offered i := by
  rw [offered_record, ofClass_single_ne h, List.append_nil]

theorem tmClass_of_inconsistent {p : Bytes} (h : ¬Consistent p) : tmClass p = none := if_pos h

/-- A packet that is refused as malformed is in no class. -/
theorem offered_record_of_malformed {b : Bus υ} {pkt : Option Bytes}
    (h : ∀ p, pkt = some p → ¬Consistent p) (i : StoreId) :
    (b.record pkt).offered i = b.offered i := by
  cases pkt with
  | none =>
      rw [Bus.offered, Bus.record, List.reduceOption_append]
      exact congrArg (ofClass i) (List.append_nil _)
  | some p =>
      refine offered_record_of_ne ?_
      rw [tmClass_of_inconsistent (h p rfl)]
      exact (Option.some_ne_none i).symm

/-! ## The invariant -/

/-- Where the packets of class `i` are. -/
def ClassOk (b : Bus υ) (i : StoreId) : Prop :=
  ∃ lost : ℕ, (b.obdh.store i).1.dropped = (lost : U32) ∧
    DropOldest.Accounted (b.offered i) (ofClass i b.ground) (b.obdh.store i).packets lost

/-- The invariant of a router with a downlink. -/
structure Ordered (b : Bus υ) : Prop where
  link : b.obdh.downlink = true
  empty : b.obdh.inContact = true → ∀ i, (b.obdh.store i).packets = []
  classes : ∀ i, ClassOk b i

theorem ordered_init (inContact : Bool) (user : υ) : Ordered (obdhInit true inContact user) := by
  refine ⟨rfl, ?_, ?_⟩
  · intro _ i
    cases i <;> rfl
  · intro i
    refine ⟨0, ?_, ?_⟩
    · cases i <;> rfl
    · have hnil : ((obdhInit true inContact user).obdh.store i).packets = [] := by
        cases i <;> rfl
      rw [hnil]
      exact DropOldest.Accounted.empty

theorem ClassOk.congr {b b' : Bus υ} {i : StoreId} (h : ClassOk b i)
    (hoffered : b'.offered i = b.offered i) (hground : ofClass i b'.ground = ofClass i b.ground)
    (hstore : b'.obdh.store i = b.obdh.store i) : ClassOk b' i := by
  unfold ClassOk
  rwa [hoffered, hground, hstore]

/-- Every packet in a store is of the store's class. -/
theorem ClassOk.mem {b : Bus υ} {i : StoreId} (h : ClassOk b i) :
    ∀ p ∈ (b.obdh.store i).packets, tmClass p = some i := by
  obtain ⟨lost, -, hacc⟩ := h
  intro p hp
  have hmem := hacc.sublist.subset (List.mem_append_right _ hp)
  simpa using (List.mem_filter.1 hmem).2

/-- A packet of the class handed straight down, in contact. -/
theorem ClassOk.pass {b : Bus υ} {i : StoreId} {p : Bytes} (h : ClassOk b i)
    (hlink : b.obdh.downlink = true) (hempty : (b.obdh.store i).packets = [])
    (hclass : tmClass p = some i) : ClassOk (deliver (b.record (some p)) p) i := by
  obtain ⟨lost, hdrop, hacc⟩ := h
  refine ⟨lost, hdrop, ?_⟩
  have hground : (deliver (b.record (some p)) p).ground = b.ground ++ [p] := by
    simp only [deliver, Bus.record, hlink, if_true]
  have hoff : (deliver (b.record (some p)) p).offered i = b.offered i ++ [p] :=
    offered_record_of_class hclass
  rw [hempty] at hacc
  rw [hoff, hground, ofClass_append, ofClass_single hclass]
  change DropOldest.Accounted _ _ (b.obdh.store i).packets lost
  rw [hempty]
  exact hacc.pass p

/-- A packet of the class put into its store, out of contact. -/
theorem ClassOk.store {b : Bus υ} {i : StoreId} {p : Bytes} (h : ClassOk b i)
    (hlen : 1 ≤ p.length) (hclass : tmClass p = some i) :
    ClassOk ((b.record (some p)).storeTm i p) i := by
  obtain ⟨lost, hdrop, hacc⟩ := h
  have hstore : ((b.record (some p)).storeTm i p).obdh.store i
      = (b.obdh.store i).putAt p b.obdh.onboardTime := by
    cases i <;> rfl
  have hoff : ((b.record (some p)).storeTm i p).offered i = b.offered i ++ [p] :=
    offered_record_of_class hclass
  by_cases hmax : p.length ≤ maxPkt
  · obtain ⟨hpackets, hdrop'⟩ := (b.obdh.store i).putAt_storable ⟨hlen, hmax⟩ b.obdh.onboardTime
    refine ⟨lost + if (b.obdh.store i).packets.length = storeCap then 1 else 0, ?_, ?_⟩
    · rw [hstore, hdrop', hdrop, Nat.cast_add, Nat.cast_ite, Nat.cast_one, Nat.cast_zero]
    · rw [hstore, hpackets, hoff]
      exact hacc.push (by decide) p
  · obtain ⟨hpackets, hdrop'⟩ := (b.obdh.store i).putAt_oversize (not_le.1 hmax) b.obdh.onboardTime
    refine ⟨lost + 1, ?_, ?_⟩
    · rw [hstore, hdrop', hdrop, Nat.cast_succ]
    · rw [hstore, hpackets, hoff]
      exact hacc.reject p

/-- The store of the class drained. -/
theorem ClassOk.drain {b : Bus υ} {i : StoreId} (h : ClassOk b i)
    (hlink : b.obdh.downlink = true) {s : Store} (hs : s.packets = [])
    (hdrop : s.1.dropped = (b.obdh.store i).1.dropped) :
    ClassOk (b.drainedTo i (b.obdh.store i).packets s) i := by
  have hmem := h.mem
  obtain ⟨lost, hlost, hacc⟩ := h
  have hstore : (b.drainedTo i (b.obdh.store i).packets s).obdh.store i = s := by
    cases i <;> rfl
  have hground : (b.drainedTo i (b.obdh.store i).packets s).ground
      = b.ground ++ (b.obdh.store i).packets := by
    simp only [Bus.drainedTo, hlink, if_true]
  refine ⟨lost, by rw [hstore, hdrop, hlost], ?_⟩
  rw [hstore, hs, hground, ofClass_append, ofClass_eq_self hmem]
  exact hacc.drain

theorem ClassOk.drain_ne {b : Bus υ} {i j : StoreId} (h : ClassOk b j) (hi : ClassOk b i)
    (hij : j ≠ i) (s : Store) : ClassOk (b.drainedTo i (b.obdh.store i).packets s) j := by
  refine h.congr rfl ?_ (store_setStore_ne b.obdh hij s)
  have hnil : ofClass j (b.obdh.store i).packets = [] := ofClass_eq_nil hij hi.mem
  simp only [Bus.drainedTo]
  split
  · rw [ofClass_append, hnil, List.append_nil]
  · rfl

namespace Ordered

variable {b : Bus υ}

/-- What the invariant does not mention may change freely. -/
theorem congr {b' : Bus υ} (h : Ordered b) (hlink : b'.obdh.downlink = b.obdh.downlink)
    (hcontact : b'.obdh.inContact = b.obdh.inContact)
    (hstore : ∀ i, b'.obdh.store i = b.obdh.store i) (hoffered : ∀ i, b'.offered i = b.offered i)
    (hground : ∀ i, ofClass i b'.ground = ofClass i b.ground) : Ordered b' := by
  refine ⟨hlink.trans h.link, ?_, fun i => (h.classes i).congr (hoffered i) (hground i) (hstore i)⟩
  intro hin i
  rw [hstore i]
  exact h.empty (hcontact ▸ hin) i

theorem telemetry (h : Ordered b) {pkt : Option Bytes} {r : ObdhDest × Bus υ}
    (hr : TmOutcome b pkt r) : Ordered r.2 := by
  cases hr with
  | malformed hbad =>
      exact h.congr rfl rfl (fun _ => rfl) (offered_record_of_malformed hbad) fun _ => rfl
  | unknown p hp hc hclass =>
      subst hp
      have hne : ∀ i, tmClass p ≠ some i := by
        intro i
        rw [hclass]
        exact (Option.some_ne_none i).symm
      exact h.congr rfl rfl (fun _ => rfl) (fun i => offered_record_of_ne (hne i)) fun _ => rfl
  | response p hp hc hclass =>
      subst hp
      have hne : ∀ i, tmClass p ≠ some i := by
        intro i
        rw [hclass]
        exact (Option.some_ne_none i).symm
      refine h.congr rfl rfl (fun _ => rfl) (fun i => offered_record_of_ne (hne i)) fun i => ?_
      simp only [deliver, Bus.record, h.link, if_true]
      rw [ofClass_append, ofClass_single_ne (hne i), List.append_nil]
  | downlink p i hp hc hclass hcontact =>
      subst hp
      refine ⟨h.link, h.empty, fun j => ?_⟩
      by_cases hij : j = i
      · rw [hij]
        exact (h.classes i).pass h.link (h.empty hcontact i) hclass
      · have hne : tmClass p ≠ some j := by
          rw [hclass]
          exact fun heq => hij (Option.some.inj heq).symm
        refine (h.classes j).congr (offered_record_of_ne hne) ?_ rfl
        simp only [deliver, Bus.record, h.link, if_true]
        rw [ofClass_append, ofClass_single_ne hne, List.append_nil]
  | store p i hp hc hclass hcontact =>
      subst hp
      have hlen : 1 ≤ p.length := by
        have := hc.1
        simp only [ccsdsPriHdrLen] at this
        omega
      have hcontact' : ((b.record (some p)).storeTm i p).obdh.inContact = false := by
        cases i <;> exact hcontact
      refine ⟨?_, ?_, fun j => ?_⟩
      · cases i <;> exact h.link
      · intro hin
        rw [hcontact'] at hin
        cases hin
      · by_cases hij : j = i
        · rw [hij]
          exact (h.classes i).store hlen hclass
        · have hne : tmClass p ≠ some j := by
            rw [hclass]
            exact fun heq => hij (Option.some.inj heq).symm
          exact (h.classes j).congr (offered_record_of_ne hne) rfl
            (store_setStore_ne b.obdh hij _)

theorem contact (h : Ordered b) (inContact : Bool) : Ordered (obdhSetContact b inContact) := by
  cases inContact with
  | false =>
      rw [obdhSetContact_leave]
      refine ⟨h.link, ?_, fun i => (h.classes i).congr rfl rfl (by cases i <;> rfl)⟩
      intro hin
      cases hin
  | true =>
      cases hwas : b.obdh.inContact with
      | true =>
          rw [← hwas, obdhSetContact_same]
          exact h
      | false =>
          obtain ⟨sev, shk, hev, hhk, hevdrop, hhkdrop, heq⟩ := obdhSetContact_enter hwas
          set b₀ : Bus υ := { b with obdh := { b.obdh with inContact := true } } with hb₀
          have h₀ : ∀ i, ClassOk b₀ i := fun i => (h.classes i).congr rfl rfl (by cases i <;> rfl)
          set b₁ := b₀.drainedTo .ev (b.obdh.store .ev).packets sev with hb₁
          have hev₁ : ClassOk b₁ .ev := (h₀ .ev).drain h.link hev hevdrop
          have hhk₁ : ClassOk b₁ .hk := (h₀ .hk).drain_ne (h₀ .ev) (by decide) sev
          rw [heq]
          refine ⟨h.link, ?_, ?_⟩
          · intro _ i
            cases i
            · exact hev
            · exact hhk
          · intro i
            cases i
            · exact hev₁.drain_ne hhk₁ (by decide) shk
            · exact hhk₁.drain h.link hhk hhkdrop

/-- **One step keeps the order.** -/
theorem step {b' : Bus υ} (h : Ordered b) (hs : BusStep b b') : Ordered b' := by
  cases hs with
  | user u => exact h.congr rfl rfl (fun _ => rfl) (fun _ => rfl) fun _ => rfl
  | telemetry pkt hpkt => exact h.telemetry (obdhIngestTm_outcome b hpkt)
  | dispatch p hp =>
      have hbad : ¬Consistent p := by
        intro hc
        have htype : (1 : U8) = 0 := hp.2.symm.trans hc.2.1
        exact absurd htype (by decide)
      refine h.congr rfl rfl (fun i => by cases i <;> rfl) ?_ fun _ => rfl
      refine offered_record_of_malformed fun q hq => ?_
      rwa [← Option.some.inj hq]
  | uplink c => exact h.congr rfl rfl (fun i => by cases i <;> rfl) (fun _ => rfl) fun _ => rfl
  | contact inContact => exact h.contact inContact
  | tick => exact h.congr rfl rfl (fun i => by cases i <;> rfl) (fun _ => rfl) fun _ => rfl
  | hkSeq n => exact h.congr rfl rfl (fun i => by cases i <;> rfl) (fun _ => rfl) fun _ => rfl

theorem steps {b' : Bus υ} (h : Ordered b) (hs : ReflTransGen BusStep b b') : Ordered b' := by
  induction hs with
  | refl => exact h
  | tail _ hstep ih => exact ih.step hstep

end Ordered

/-! ## The downlink log only grows -/

theorem prefix_deliver (b : Bus υ) (p : Bytes) : b.ground <+: (deliver b p).ground := by
  simp only [deliver]
  split
  · exact List.prefix_append _ _
  · exact List.prefix_refl _

theorem prefix_drainedTo (b : Bus υ) (i : StoreId) (q : List Bytes) (s : Store) :
    b.ground <+: (b.drainedTo i q s).ground := by
  simp only [Bus.drainedTo]
  split
  · exact List.prefix_append _ _
  · exact List.prefix_refl _

theorem BusStep.ground_prefix {b b' : Bus υ} (hs : BusStep b b') : b.ground <+: b'.ground := by
  cases hs with
  | user u => exact List.prefix_refl _
  | telemetry pkt hpkt =>
      have hout := obdhIngestTm_outcome b hpkt
      generalize obdhIngestTm b pkt = r at hout ⊢
      cases hout with
      | malformed | unknown | store => exact List.prefix_refl _
      | response p | downlink p => exact prefix_deliver (b.record pkt) p
  | dispatch p hp => exact List.prefix_refl _
  | uplink c => exact List.prefix_refl _
  | contact inContact =>
      cases inContact with
      | false =>
          rw [obdhSetContact_leave]
      | true =>
          cases hwas : b.obdh.inContact with
          | true => rw [← hwas, obdhSetContact_same]
          | false =>
              obtain ⟨sev, shk, -, -, -, -, heq⟩ := obdhSetContact_enter hwas
              rw [heq]
              refine List.IsPrefix.trans ?_ (prefix_drainedTo _ .hk _ shk)
              exact prefix_drainedTo { b with obdh := { b.obdh with inContact := true } } .ev _ sev
  | tick => exact List.prefix_refl _
  | hkSeq n => exact List.prefix_refl _

theorem ground_prefix_of_steps {b b' : Bus υ} (hs : ReflTransGen BusStep b b') :
    b.ground <+: b'.ground := by
  induction hs with
  | refl => exact List.prefix_refl _
  | tail _ hstep ih => exact ih.trans hstep.ground_prefix

/-! ## Every run -/

/-- **Ordered store-and-forward.**  In every run from `obdh_init` with a downlink:
in contact both stores are empty; of each class, what has gone down followed by
what is stored is a subsequence of what was ingested, and what is missing is what
the store counts as lost; entering contact sends the stored events, then the
stored housekeeping, and whatever comes later goes behind them; asserting the
contact state that holds changes nothing, and leaving contact delivers nothing. -/
theorem ordering_run (H : ExitSafeHook υ) (inContact : Bool) (user : υ) (ops : List ObdhOp) :
    let b := obdhRun H (obdhInit true inContact user) ops
    (b.obdh.inContact = true → b.obdh.evStore.packets = [] ∧ b.obdh.hkStore.packets = []) ∧
      (∀ i, ∃ lost : ℕ,
        List.Sublist (ofClass i b.ground ++ (b.obdh.store i).packets) (b.offered i) ∧
        (b.offered i).length
          = (ofClass i b.ground).length + (b.obdh.store i).packets.length + lost ∧
        (b.obdh.store i).1.dropped = (lost : U32)) ∧
      (b.obdh.inContact = false →
        (obdhSetContact b true).ground
            = b.ground ++ b.obdh.evStore.packets ++ b.obdh.hkStore.packets ∧
          (obdhSetContact b true).obdh.evStore.packets = [] ∧
          (obdhSetContact b true).obdh.hkStore.packets = [] ∧
          ∀ later, (obdhSetContact b true).ground <+:
            (obdhRun H (obdhSetContact b true) later).ground) ∧
      obdhSetContact b b.obdh.inContact = b ∧
      (obdhSetContact b false).ground = b.ground := by
  intro b
  have h : Ordered b := (ordered_init inContact user).steps (obdhRun_steps H _ ops)
  refine ⟨fun hin => ⟨h.empty hin .ev, h.empty hin .hk⟩, ?_, ?_, obdhSetContact_same b, ?_⟩
  · intro i
    obtain ⟨lost, hdrop, hacc⟩ := h.classes i
    exact ⟨lost, hacc.sublist, hacc.missing, hdrop⟩
  · intro hout
    have hframe := obdhSetContact_frame b true
    refine ⟨?_, ?_, ?_, fun later => ground_prefix_of_steps (obdhRun_steps H _ later)⟩
    · have hground := hframe.ground
      rw [hout, h.link] at hground
      rw [hground, List.append_assoc]
      rfl
    · have hev := hframe.packets .ev
      rwa [hout] at hev
    · have hhk := hframe.packets .hk
      rwa [hout] at hhk
  · rw [obdhSetContact_leave]

end Obdh
end SpacecraftFsw
