import SpacecraftFsw.Lib.Gaps
import SpacecraftFsw.Obdh.Relay

/-!
# What the stores keep

Out of contact the stores lose packets; which ones is told by a model without stores, the
link with gaps.  It waits with everything short enough for a slot, however much it is, and
sends the last of it when contact comes.

* `linkEvents` — what a run of the router looks like to it.
* `Retains.quiets`, `Retains.contact_step` — the argument for packets, and for a change of
  contact.
* `router_refines_link` — the ground has what the link delivers, and each store holds
  what the link would send next.
-/

namespace SpacecraftFsw
namespace Obdh

open Tmtc Gaps
open Relation (ReflTransGen)

variable {υ : Type}

/-! ## The ideal link -/

/-- A packet of the class comes, or the contact changes. -/
abbrev LinkEvent := Gaps.Event Bytes

/-- One class of telemetry as a link that sends the last sixteen packets of each gap. -/
abbrev Link := Gaps.Link storeCap fun p : Bytes => p.length ≤ maxPkt

/-- The packets of class `i` among those ingested. -/
def offers (i : StoreId) (pkts : List (Option Bytes)) : List LinkEvent :=
  (ofClass i pkts.reduceOption).map .offer

/-- The run of the router as it looks to the link of class `i`: the changes of contact,
and what is ingested in between, nested calls included. -/
def linkEvents (H : ExitSafeHook υ) (i : StoreId) : Bus υ → List ObdhOp → List LinkEvent
  | _, [] => []
  | b, .setContact inContact :: ops =>
    .contact inContact :: linkEvents H i (obdhOp H b (.setContact inContact)) ops
  | b, op :: ops =>
    offers i ((obdhOp H b op).ingested.drop b.ingested.length) ++
      linkEvents H i (obdhOp H b op) ops

/-! ## Offers -/

theorem offers_append (i : StoreId) (x y : List (Option Bytes)) :
    offers i (x ++ y) = offers i x ++ offers i y := by
  rw [offers, List.reduceOption_append, ofClass_append, List.map_append]
  rfl

theorem offers_of_class {i : StoreId} {p : Bytes} (h : tmClass p = some i) :
    offers i [some p] = [.offer p] :=
  congrArg (List.map Event.offer) (ofClass_single h)

/-- What is not of the class is no offer. -/
theorem offers_of_ne {i : StoreId} {pkt : Option Bytes}
    (h : ∀ p, pkt = some p → tmClass p ≠ some i) : offers i [pkt] = [] := by
  cases pkt with
  | none => rfl
  | some p => exact congrArg (List.map Event.offer) (ofClass_single_ne (h p rfl))

/-! ## The simulation -/

/-- The router does for class `i` what the link does. -/
structure Retains (i : StoreId) (b : Bus υ) (l : Link) : Prop where
  link : b.obdh.downlink = true
  contact : b.obdh.inContact = l.inContact
  idle : l.inContact = true → l.waiting = []
  stored : (b.obdh.store i).packets = l.latest
  sent : ofClass i b.ground = l.delivered

theorem retains_init (i : StoreId) (inContact : Bool) (user : υ) :
    Retains i (obdhInit true inContact user) ⟨inContact, [], []⟩ := by
  refine ⟨rfl, rfl, fun _ => rfl, ?_, rfl⟩
  cases i <;> rfl

namespace Retains

variable {i : StoreId} {b : Bus υ} {l : Link}

theorem congr {b' : Bus υ} (h : Retains i b l) (hlink : b'.obdh.downlink = b.obdh.downlink)
    (hcontact : b'.obdh.inContact = b.obdh.inContact)
    (hstore : b'.obdh.store i = b.obdh.store i)
    (hground : ofClass i b'.ground = ofClass i b.ground) : Retains i b' l :=
  ⟨hlink.trans h.link, hcontact.trans h.contact, h.idle,
    (congrArg Store.packets hstore).trans h.stored, hground.trans h.sent⟩

/-- A packet that is not of the class goes by. -/
theorem deliver_ne (h : Retains i b l) {p : Bytes} (hclass : tmClass p ≠ some i) :
    Retains i (deliver (b.record (some p)) p) l := by
  refine h.congr rfl rfl rfl ?_
  simp only [Obdh.deliver, Bus.record, h.link, if_true]
  rw [ofClass_append, ofClass_single_ne hclass, List.append_nil]

/-- A packet of the class in contact. -/
theorem deliver (h : Retains i b l) {p : Bytes} (hclass : tmClass p = some i)
    (hcontact : b.obdh.inContact = true) :
    Retains i (deliver (b.record (some p)) p) (l.step (.offer p)) := by
  rw [Link.step, if_pos (h.contact.symm.trans hcontact)]
  refine ⟨h.link, h.contact, h.idle, h.stored, ?_⟩
  simp only [Obdh.deliver, Bus.record, h.link, if_true]
  rw [ofClass_append, ofClass_single hclass, h.sent]

/-- **A packet of the class out of contact**: the store that held the last ones holds
the last ones again. -/
theorem store (h : Retains i b l) {p : Bytes} (hclass : tmClass p = some i)
    (hcontact : b.obdh.inContact = false) :
    Retains i ((b.record (some p)).storeTm i p) (l.step (.offer p)) := by
  have hpos : 1 ≤ p.length := by
    have hlen := (consistent_of_class hclass).1
    rw [ccsdsPriHdrLen] at hlen
    omega
  have hstore : ((b.record (some p)).storeTm i p).obdh.store i =
      (b.obdh.store i).putAt p b.obdh.onboardTime := by
    cases i <;> rfl
  have hsame : SameLink b ((b.record (some p)).storeTm i p) := by
    cases i <;> exact ⟨rfl, rfl, rfl⟩
  have hout : l.inContact = false := h.contact.symm.trans hcontact
  have hnever : l.inContact ≠ true := by simp [hout]
  rw [Link.step, if_neg hnever]
  split
  · rename_i hmax
    have hput := ((b.obdh.store i).putAt_storable ⟨hpos, hmax⟩ b.obdh.onboardTime).1
    refine ⟨hsame.link.trans h.link, hsame.contact.trans h.contact, fun hin => absurd hin hnever,
      ?_, h.sent⟩
    rw [hstore, hput, h.stored]
    exact DropOldest.push_rtake (by decide) _ _
  · rename_i hmax
    have hput := ((b.obdh.store i).putAt_oversize (not_le.1 hmax) b.obdh.onboardTime).1
    refine ⟨hsame.link.trans h.link, hsame.contact.trans h.contact, h.idle, ?_, h.sent⟩
    rw [hstore, hput, h.stored]

theorem telemetry (h : Retains i b l) {pkt : Option Bytes} {r : ObdhDest × Bus υ}
    (hr : TmOutcome b pkt r) : Retains i r.2 ((offers i [pkt]).foldl Link.step l) := by
  cases hr with
  | malformed hbad =>
      rw [offers_of_ne fun p hp => by simp [tmClass_of_inconsistent (hbad p hp)]]
      exact h.congr rfl rfl rfl rfl
  | unknown p hp hc hclass =>
      subst hp
      rw [offers_of_ne (by simp [hclass])]
      exact h.congr rfl rfl rfl rfl
  | response p hp hc hclass =>
      subst hp
      rw [offers_of_ne (by simp [hclass])]
      exact h.deliver_ne (by simp [hclass])
  | downlink p j hp hc hclass hcontact =>
      subst hp
      by_cases hij : j = i
      · subst hij
        rw [offers_of_class hclass]
        exact h.deliver hclass hcontact
      · rw [offers_of_ne (by simp [hclass, hij])]
        exact h.deliver_ne (by simp [hclass, hij])
  | store p j hp hc hclass hcontact =>
      subst hp
      by_cases hij : j = i
      · subst hij
        rw [offers_of_class hclass]
        exact h.store hclass hcontact
      · rw [offers_of_ne (by simp [hclass, hij])]
        have hstore := store_setStore_ne b.obdh (Ne.symm hij) (s := (b.obdh.store j).putAt p
          b.obdh.onboardTime)
        cases j <;> exact h.congr rfl rfl hstore rfl

/-- **One quiet step**, and the packets it ingests. -/
theorem quiet {b' : Bus υ} (h : Retains i b l) (hs : QuietStep b b') :
    ∃ pkts, b'.ingested = b.ingested ++ pkts ∧
      Retains i b' ((offers i pkts).foldl Link.step l) := by
  have hlink := hs.sameLink
  cases hs with
  | user u => exact ⟨[], (List.append_nil _).symm, h.congr hlink.link hlink.contact rfl rfl⟩
  | telemetry pkt hpkt =>
      exact ⟨[pkt], (tmFrame_obdhIngestTm b hpkt).ingested,
        h.telemetry (obdhIngestTm_outcome b hpkt)⟩
  | dispatch p hp =>
      refine ⟨[some p], rfl, ?_⟩
      have hbad : ¬Consistent p := by
        intro hc
        have htype : (1 : U8) = 0 := hp.2.symm.trans hc.2.1
        exact absurd htype (by decide)
      have hnone : offers i [some p] = [] := by
        refine offers_of_ne fun q hq => ?_
        rw [← Option.some.inj hq, tmClass_of_inconsistent hbad]
        exact (Option.some_ne_none i).symm
      rw [hnone]
      exact h.congr hlink.link hlink.contact (by cases i <;> rfl) rfl
  | uplink c =>
      exact ⟨[], (List.append_nil _).symm,
        h.congr hlink.link hlink.contact (by cases i <;> rfl) rfl⟩
  | hkSeq n =>
      exact ⟨[], (List.append_nil _).symm,
        h.congr hlink.link hlink.contact (by cases i <;> rfl) rfl⟩

theorem quiets {b' : Bus υ} (h : Retains i b l) (hs : ReflTransGen QuietStep b b') :
    ∃ pkts, b'.ingested = b.ingested ++ pkts ∧
      Retains i b' ((offers i pkts).foldl Link.step l) := by
  induction hs with
  | refl => exact ⟨[], (List.append_nil _).symm, h⟩
  | tail _ hstep ih =>
      obtain ⟨pkts, hpkts, hkeep⟩ := ih
      obtain ⟨more, hmore, hkeep'⟩ := hkeep.quiet hstep
      refine ⟨pkts ++ more, ?_, ?_⟩
      · rw [hmore, hpkts, List.append_assoc]
      · rw [offers_append, List.foldl_append]
        exact hkeep'

/-- **A change of contact.** -/
theorem contact_step (h : Retains i b l) (hclassed : Classed b) (inContact : Bool) :
    Retains i (obdhSetContact b inContact) (l.step (.contact inContact)) := by
  have hframe := obdhSetContact_frame b inContact
  have hpackets := hframe.packets i
  have hground := hframe.ground
  have hlink := hframe.link.trans h.link
  cases inContact with
  | false =>
      simp only [Bool.and_false, Bool.false_eq_true, if_false, Bool.false_and, List.append_nil]
        at hpackets hground
      refine ⟨hlink, hframe.contact, ?_, hpackets.trans h.stored, ?_⟩
      · rintro ⟨⟩
      · rw [hground]
        exact h.sent
  | true =>
      rw [Link.step]
      split
      · rename_i hin
        rw [h.contact, hin] at hpackets hground
        refine ⟨hlink, hframe.contact.trans hin.symm, h.idle, hpackets.trans h.stored, ?_⟩
        rw [hground]
        simpa using h.sent
      · rename_i hout
        rw [Bool.not_eq_true] at hout
        rw [h.contact, hout] at hpackets hground
        refine ⟨hlink, hframe.contact, fun _ => rfl, hpackets, ?_⟩
        simp only [Bool.not_false, Bool.and_self, h.link, if_true] at hground
        rw [hground, ofClass_append, Relayed.ofClass_drained hclassed, h.sent, h.stored]

end Retains

/-! ## Every run -/

/-- The simulation along a run. -/
theorem retains_run (H : ExitSafeHook υ) (i : StoreId) (ops : List ObdhOp) :
    ∀ {b : Bus υ} {l : Link}, Classed b → Retains i b l →
      Retains i (obdhRun H b ops) ((linkEvents H i b ops).foldl Link.step l) := by
  induction ops with
  | nil => exact fun _ h => h
  | cons op ops ih =>
      intro b l hclassed h
      have hclassed' : Classed (obdhOp H b op) := hclassed.steps (obdhOp_steps H b op)
      rw [obdhRun, List.foldl_cons]
      change Retains i (obdhRun H (obdhOp H b op) ops) _
      have hother : (∃ pkts, (obdhOp H b op).ingested = b.ingested ++ pkts ∧
            Retains i (obdhOp H b op) ((offers i pkts).foldl Link.step l)) →
          Retains i (obdhRun H (obdhOp H b op) ops)
            ((offers i ((obdhOp H b op).ingested.drop b.ingested.length) ++
              linkEvents H i (obdhOp H b op) ops).foldl Link.step l) := by
        rintro ⟨pkts, hpkts, hkeep⟩
        rw [hpkts, List.drop_left, List.foldl_append]
        exact ih hclassed' hkeep
      cases op with
      | setContact inContact => exact ih hclassed' (h.contact_step hclassed inContact)
      | tick =>
          refine hother ⟨[], (List.append_nil _).symm, ?_⟩
          exact h.congr rfl rfl (by cases i <;> rfl) rfl
      | ingest pkt => exact hother (h.quiets (obdhIngest_quiet H b pkt))
      | buildHk cap => exact hother (h.quiets (obdhBuildHk_quiet b cap))
      | attach => exact hother (h.quiets (.single (.uplink b _)))

/-- **The router is an ideal link that forgets all but the last sixteen.**  After every
run of a router with a downlink, of either class: what the ground has is what the link
has delivered, and what the store holds is what the link would send next.  So in each
stretch out of contact a packet is lost only if it is longer than a slot, or if sixteen
that are not have come after it. -/
theorem router_refines_link (H : ExitSafeHook υ) (inContact : Bool) (user : υ)
    (ops : List ObdhOp) (i : StoreId) :
    let b := obdhRun H (obdhInit true inContact user) ops
    let l : Link := (linkEvents H i (obdhInit true inContact user) ops).foldl Link.step
      ⟨inContact, [], []⟩
    ofClass i b.ground = l.delivered ∧ (b.obdh.store i).packets = l.latest ∧
      b.obdh.inContact = l.inContact := by
  intro b l
  have h : Retains i b l :=
    retains_run H i ops (classed_init true inContact user) (retains_init i inContact user)
  exact ⟨h.sent, h.stored, h.contact⟩

end Obdh
end SpacecraftFsw
