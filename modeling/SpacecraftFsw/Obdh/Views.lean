import SpacecraftFsw.Obdh.Congruence

/-!
# What two runs of the router have in common

Two relations between routers, each a `Congruence`, and the operations that each
of them does not notice.

* `Classed` — in every state the stores hold packets of their own class and the
  ground has received telemetry only.
* `Bus.downlinked` — the ground's log, for some APIDs.
* `SameTrail` — two routers that were given the same packets, whatever their
  contact has been.
* `Apart` — two routers that agree on everything but one class of telemetry.
-/

namespace SpacecraftFsw
namespace Obdh

open Tmtc
open Relation (ReflTransGen)

variable {υ : Type}

/-! ## Packets where they belong -/

/-- Stored packets are of their store's class, and the ground has telemetry only. -/
structure Classed (b : Bus υ) : Prop where
  stored : ∀ i, ∀ p ∈ (b.obdh.store i).packets, tmClass p = some i
  sent : ∀ p ∈ b.ground, Consistent p

theorem classed_init (downlink inContact : Bool) (user : υ) :
    Classed (obdhInit downlink inContact user) := by
  constructor
  · intro i p hp
    cases i <;> cases hp
  · intro p hp
    cases hp

namespace Classed

variable {b b' : Bus υ}

theorem congr (h : Classed b) (hstore : ∀ i, b'.obdh.store i = b.obdh.store i)
    (hground : b'.ground = b.ground) : Classed b' := by
  constructor
  · intro i p hp
    rw [hstore i] at hp
    exact h.stored i p hp
  · rw [hground]
    exact h.sent

theorem deliver (h : Classed b) {p : Bytes} (hc : Consistent p) : Classed (deliver b p) := by
  refine ⟨h.stored, fun q hq => ?_⟩
  simp only [Obdh.deliver] at hq
  split at hq
  · rcases List.mem_append.1 hq with hq | hq
    · exact h.sent q hq
    · rwa [List.mem_singleton.1 hq]
  · exact h.sent q hq

theorem storeTm (h : Classed b) {p : Bytes} {i : StoreId} (hclass : tmClass p = some i) :
    Classed (b.storeTm i p) := by
  refine ⟨fun j q hq => ?_, ?_⟩
  · by_cases hij : j = i
    · subst hij
      have hstore : (b.storeTm j p).obdh.store j =
          (b.obdh.store j).putAt p b.obdh.onboardTime := by
        cases j <;> rfl
      rw [hstore] at hq
      rcases Store.mem_putAt hq with hq | rfl
      · exact h.stored j q hq
      · exact hclass
    · have hstore : (b.storeTm i p).obdh.store j = b.obdh.store j :=
        store_setStore_ne b.obdh hij _
      rw [hstore] at hq
      exact h.stored j q hq
  · exact h.sent

theorem telemetry (h : Classed b) {pkt : Option Bytes} {r : ObdhDest × Bus υ}
    (hr : TmOutcome b pkt r) : Classed r.2 := by
  have hrecord : Classed (b.record pkt) := h.congr (fun _ => rfl) rfl
  cases hr with
  | malformed | unknown => exact h.congr (fun _ => rfl) rfl
  | response p hp hc | downlink p i hp hc => exact hrecord.deliver hc
  | store p i hp hc hclass => exact hrecord.storeTm hclass

theorem contact (h : Classed b) (inContact : Bool) : Classed (obdhSetContact b inContact) := by
  have hframe := obdhSetContact_frame b inContact
  constructor
  · intro i p hp
    rw [hframe.packets i] at hp
    split at hp
    · cases hp
    · exact h.stored i p hp
  · intro p hp
    rw [hframe.ground] at hp
    rcases List.mem_append.1 hp with hp | hp
    · exact h.sent p hp
    · split at hp
      · rcases List.mem_append.1 hp with hp | hp
        · exact consistent_of_class (h.stored .ev p hp)
        · exact consistent_of_class (h.stored .hk p hp)
      · cases hp

/-- **One step keeps packets where they belong.** -/
theorem step (h : Classed b) (hs : BusStep b b') : Classed b' := by
  cases hs with
  | user u => exact h.congr (fun _ => rfl) rfl
  | telemetry pkt hpkt => exact h.telemetry (obdhIngestTm_outcome b hpkt)
  | dispatch p hp => exact h.congr (fun i => by cases i <;> rfl) rfl
  | uplink c => exact h.congr (fun i => by cases i <;> rfl) rfl
  | contact inContact => exact h.contact inContact
  | tick => exact h.congr (fun i => by cases i <;> rfl) rfl
  | hkSeq n => exact h.congr (fun i => by cases i <;> rfl) rfl

theorem steps (h : Classed b) (hs : ReflTransGen BusStep b b') : Classed b' := by
  induction hs with
  | refl => exact h
  | tail _ hstep ih => exact ih.step hstep

end Classed

/-! ## The ground's log, by APID -/

/-- The packets with one of the wanted APIDs. -/
def withApid (wanted : U16 → Bool) (pkts : List Bytes) : List Bytes :=
  pkts.filter fun p => wanted (ccsdsParsePrimary p).apid

/-- What the ground has received on the wanted APIDs. -/
def Bus.downlinked (b : Bus υ) (wanted : U16 → Bool) : List Bytes := withApid wanted b.ground

@[simp] theorem withApid_append (wanted : U16 → Bool) (x y : List Bytes) :
    withApid wanted (x ++ y) = withApid wanted x ++ withApid wanted y := List.filter_append ..

/-- A class none of whose APIDs is wanted. -/
def Unwanted (wanted : U16 → Bool) (i : StoreId) : Prop := ∀ a ∈ classApids i, wanted a = false

instance (wanted : U16 → Bool) (i : StoreId) : Decidable (Unwanted wanted i) :=
  List.decidableBAll _ _

theorem withApid_eq_nil {wanted : U16 → Bool} {i : StoreId} (hw : Unwanted wanted i)
    {q : List Bytes} (hq : ∀ p ∈ q, tmClass p = some i) : withApid wanted q = [] := by
  refine List.filter_eq_nil_iff.2 ?_
  intro p hp
  simp [hw _ (mem_classApids (hq p hp))]

theorem downlinked_deliver (b : Bus υ) (wanted : U16 → Bool) (p : Bytes) :
    (deliver b p).downlinked wanted =
      b.downlinked wanted ++ if b.obdh.downlink then withApid wanted [p] else [] := by
  simp only [Bus.downlinked, deliver]
  split <;> simp

/-- Telemetry of an unwanted class is not seen on the wanted APIDs, sent or stored. -/
theorem downlinked_unwanted {wanted : U16 → Bool} {i : StoreId} (hw : Unwanted wanted i)
    {p : Bytes} (hclass : tmClass p = some i) (b : Bus υ) :
    (obdhIngestTm b (some p)).2.downlinked wanted = b.downlinked wanted := by
  rw [obdhIngestTm_consistent (consistent_of_class hclass), hclass]
  have hnil : withApid wanted [p] = [] := withApid_eq_nil hw (by simpa using hclass)
  cases hcontact : b.obdh.inContact with
  | true =>
      simp only [if_true, downlinked_deliver, hnil, ite_self, List.append_nil]
      rfl
  | false => rfl

/-- What a change of contact sends down, on the wanted APIDs. -/
theorem downlinked_contact (b : Bus υ) (inContact : Bool) (wanted : U16 → Bool) :
    (obdhSetContact b inContact).downlinked wanted = b.downlinked wanted ++
      if (!b.obdh.inContact && inContact) && b.obdh.downlink then
        withApid wanted b.obdh.evStore.packets ++ withApid wanted b.obdh.hkStore.packets
      else [] := by
  rw [Bus.downlinked, (obdhSetContact_frame b inContact).ground, withApid_append]
  split <;> simp [Bus.downlinked, withApid]

/-- Two routers send the same down on the wanted APIDs, if they agree on the link
and, for every class that is wanted, on the contact. -/
theorem downlinked_congr {wanted : U16 → Bool} {b c : Bus υ}
    (hlink : b.obdh.downlink = c.obdh.downlink)
    (hsent : b.downlinked wanted = c.downlinked wanted)
    (hclass : ∀ i, b.obdh.inContact = c.obdh.inContact ∨ Unwanted wanted i) {pkt : Option Bytes}
    (hpkt : IsTm pkt) :
    (obdhIngestTm b pkt).2.downlinked wanted = (obdhIngestTm c pkt).2.downlinked wanted := by
  by_cases hbad : ∀ p, pkt = some p → ¬Consistent p
  · rw [obdhIngestTm_malformed hpkt hbad, obdhIngestTm_malformed hpkt hbad]
    exact hsent
  push Not at hbad
  obtain ⟨p, rfl, hc⟩ := hbad
  have hdeliver : (deliver (b.record (some p)) p).downlinked wanted =
      (deliver (c.record (some p)) p).downlinked wanted := by
    rw [downlinked_deliver, downlinked_deliver]
    exact congrArg₂ (fun sent (link : Bool) => sent ++ if link then withApid wanted [p] else [])
      hsent hlink
  cases hp : tmClass p with
  | none =>
      rw [obdhIngestTm_consistent hc, obdhIngestTm_consistent hc, hp]
      dsimp only
      split
      · exact hdeliver
      · exact hsent
  | some i =>
      rcases hclass i with hcontact | hw
      · rw [obdhIngestTm_consistent hc, obdhIngestTm_consistent hc, hp, hcontact]
        dsimp only
        split
        · exact hdeliver
        · exact hsent
      · rw [downlinked_unwanted hw hp, downlinked_unwanted hw hp, hsent]

/-! ## Whatever the contact -/

/-- Two routers that were given the same packets. -/
structure SameTrail (b c : Bus υ) : Prop where
  user : b.user = c.user
  uplink : b.obdh.uplink = c.obdh.uplink
  ingested : b.ingested = c.ingested
  link : b.obdh.downlink = c.obdh.downlink
  command : b.downlinked (· = ccsdsApidCmd) = c.downlinked (· = ccsdsApidCmd)
  left : Classed b
  right : Classed c

theorem unwanted_command (i : StoreId) : Unwanted (· = ccsdsApidCmd) i := by
  cases i <;> decide

namespace SameTrail

variable {b c : Bus υ}

theorem symm (h : SameTrail b c) : SameTrail c b :=
  ⟨h.user.symm, h.uplink.symm, h.ingested.symm, h.link.symm, h.command.symm, h.right, h.left⟩

theorem telemetry (h : SameTrail b c) {pkt : Option Bytes} (hpkt : IsTm pkt) :
    SameTrail (obdhIngestTm b pkt).2 (obdhIngestTm c pkt).2 := by
  have hb := tmFrame_obdhIngestTm b hpkt
  have hc := tmFrame_obdhIngestTm c hpkt
  constructor
  · rw [hb.user, hc.user, h.user]
  · rw [hb.uplink, hc.uplink, h.uplink]
  · rw [hb.ingested, hc.ingested, h.ingested]
  · rw [(sameLink_obdhIngestTm b hpkt).link, (sameLink_obdhIngestTm c hpkt).link, h.link]
  · exact downlinked_congr h.link h.command (fun i => .inr (unwanted_command i)) hpkt
  · exact h.left.telemetry (obdhIngestTm_outcome b hpkt)
  · exact h.right.telemetry (obdhIngestTm_outcome c hpkt)

/-- What both sides do alike to the command path, to the unit behind the hook and
to the counters. -/
theorem congr (h : SameTrail b c) {b' c' : Bus υ} (hb : BusStep b b') (hc : BusStep c c')
    (huser : b'.user = c'.user) (huplink : b'.obdh.uplink = c'.obdh.uplink)
    (hingested : b'.ingested = c'.ingested) (hlink : b'.obdh.downlink = c'.obdh.downlink)
    (hbground : b'.ground = b.ground) (hcground : c'.ground = c.ground) : SameTrail b' c' := by
  refine ⟨huser, huplink, hingested, hlink, ?_, h.left.step hb, h.right.step hc⟩
  rw [Bus.downlinked, Bus.downlinked, hbground, hcground]
  exact h.command

theorem congruence : Congruence (SameTrail (υ := υ)) where
  user := SameTrail.user
  uplink := SameTrail.uplink
  setUser := fun h u => h.congr (.user _ u) (.user _ u) rfl h.uplink h.ingested h.link rfl rfl
  setUplink := fun h x => h.congr (.uplink _ x) (.uplink _ x) h.user rfl h.ingested h.link rfl rfl
  telemetry := fun h _ hpkt => h.telemetry hpkt
  dispatched := fun h p hp =>
    h.congr (.dispatch _ p hp) (.dispatch _ p hp) h.user h.uplink
      (congrArg (· ++ [some p]) h.ingested) h.link rfl rfl

/-- **A change of contact on one side is not noticed.** -/
theorem contact (h : SameTrail b c) (inContact : Bool) :
    SameTrail (obdhSetContact b inContact) c := by
  have hframe := obdhSetContact_frame b inContact
  refine ⟨hframe.user.trans h.user, hframe.uplink.trans h.uplink,
    hframe.ingested.trans h.ingested, hframe.link.trans h.link, ?_, h.left.contact inContact,
    h.right⟩
  have hev : withApid (· = ccsdsApidCmd) b.obdh.evStore.packets = [] :=
    withApid_eq_nil (unwanted_command .ev) (h.left.stored .ev)
  have hhk : withApid (· = ccsdsApidCmd) b.obdh.hkStore.packets = [] :=
    withApid_eq_nil (unwanted_command .hk) (h.left.stored .hk)
  rw [downlinked_contact, hev, hhk, List.append_nil, ite_self, List.append_nil, h.command]

end SameTrail

/-! ## Whatever the other class -/

/-- A drain of store `i` leaves it as it would leave any equal store. -/
theorem drainLoop_congr {b c : Bus υ} {i : StoreId} (h : b.obdh.store i = c.obdh.store i)
    (fuel : ℕ) : (drainLoop fuel b i).obdh.store i = (drainLoop fuel c i).obdh.store i := by
  induction fuel generalizing b c with
  | zero => exact h
  | succ fuel ih =>
      rw [drainLoop, drainLoop, ← h]
      split
      · exact h
      · apply ih
        cases i <;> rfl

theorem drain_store_ne (b : Bus υ) {i j : StoreId} (hij : j ≠ i) :
    (drain b i).obdh.store j = b.obdh.store j := by
  obtain ⟨s, -, -, hdrain⟩ := drain_spec b i
  rw [hdrain]
  exact store_setStore_ne b.obdh hij s

/-- A change of contact treats equal stores alike. -/
theorem obdhSetContact_store_congr {b c : Bus υ} {j : StoreId}
    (hcontact : b.obdh.inContact = c.obdh.inContact) (h : b.obdh.store j = c.obdh.store j)
    (inContact : Bool) :
    (obdhSetContact b inContact).obdh.store j = (obdhSetContact c inContact).obdh.store j := by
  unfold obdhSetContact
  rw [← hcontact]
  set b₀ : Bus υ := { b with obdh := { b.obdh with inContact := inContact } } with hb₀
  set c₀ : Bus υ := { c with obdh := { c.obdh with inContact := inContact } } with hc₀
  have h₀ : b₀.obdh.store j = c₀.obdh.store j := by
    cases j <;> exact h
  dsimp only
  split
  · cases j with
    | ev =>
        have hkeep : ∀ b : Bus υ, (drain b .hk).obdh.store .ev = b.obdh.store .ev :=
          fun b => drain_store_ne b (by decide)
        rw [hkeep, hkeep]
        exact drainLoop_congr h₀ _
    | hk =>
        have hkeep : ∀ b : Bus υ, (drain b .ev).obdh.store .hk = b.obdh.store .hk :=
          fun b => drain_store_ne b (by decide)
        apply drainLoop_congr
        rw [hkeep, hkeep, h₀]
  · exact h₀

/-- Telemetry treats equal stores alike. -/
theorem obdhIngestTm_store_congr {b c : Bus υ} {j : StoreId}
    (hcontact : b.obdh.inContact = c.obdh.inContact)
    (htime : b.obdh.onboardTime = c.obdh.onboardTime) (h : b.obdh.store j = c.obdh.store j)
    {pkt : Option Bytes} (hpkt : IsTm pkt) :
    (obdhIngestTm b pkt).2.obdh.store j = (obdhIngestTm c pkt).2.obdh.store j := by
  by_cases hbad : ∀ p, pkt = some p → ¬Consistent p
  · rw [obdhIngestTm_malformed hpkt hbad, obdhIngestTm_malformed hpkt hbad]
    exact h
  push Not at hbad
  obtain ⟨p, rfl, hc⟩ := hbad
  rw [obdhIngestTm_consistent hc, obdhIngestTm_consistent hc, hcontact]
  cases tmClass p with
  | none =>
      dsimp only
      split <;> exact h
  | some i =>
      dsimp only
      split
      · exact h
      · by_cases hij : j = i
        · subst hij
          have hput : ∀ b : Bus υ, ((b.record (some p)).storeTm j p).obdh.store j =
              (b.obdh.store j).putAt p b.obdh.onboardTime := by
            intro b
            cases j <;> rfl
          rw [hput, hput, h, htime]
        · have hkeep : ∀ b : Bus υ, ((b.record (some p)).storeTm i p).obdh.store j =
              b.obdh.store j := fun b => store_setStore_ne b.obdh hij _
          rw [hkeep, hkeep, h]

/-- Telemetry of one class leaves the store of the other alone. -/
theorem obdhIngestTm_store_ne {p : Bytes} {i j : StoreId} (hclass : tmClass p = some i)
    (hij : j ≠ i) (b : Bus υ) : (obdhIngestTm b (some p)).2.obdh.store j = b.obdh.store j := by
  rw [obdhIngestTm_consistent (consistent_of_class hclass), hclass]
  dsimp only
  split
  · rfl
  · exact store_setStore_ne b.obdh hij _

/-- Two routers that agree on everything but the telemetry of class `i`. -/
structure Apart (i : StoreId) (b c : Bus υ) : Prop where
  user : b.user = c.user
  uplink : b.obdh.uplink = c.obdh.uplink
  link : b.obdh.downlink = c.obdh.downlink
  contact : b.obdh.inContact = c.obdh.inContact
  time : b.obdh.onboardTime = c.obdh.onboardTime
  stores : ∀ j, j ≠ i → b.obdh.store j = c.obdh.store j
  sent : b.downlinked (· ∉ classApids i) = c.downlinked (· ∉ classApids i)
  left : Classed b
  right : Classed c

theorem unwanted_other (i : StoreId) : Unwanted (· ∉ classApids i) i := by
  intro a ha
  simpa using ha

namespace Apart

variable {i : StoreId} {b c : Bus υ}

theorem symm (h : Apart i b c) : Apart i c b :=
  ⟨h.user.symm, h.uplink.symm, h.link.symm, h.contact.symm, h.time.symm,
    fun j hij => (h.stores j hij).symm, h.sent.symm, h.right, h.left⟩

theorem telemetry (h : Apart i b c) {pkt : Option Bytes} (hpkt : IsTm pkt) :
    Apart i (obdhIngestTm b pkt).2 (obdhIngestTm c pkt).2 := by
  have hb := tmFrame_obdhIngestTm b hpkt
  have hc := tmFrame_obdhIngestTm c hpkt
  have hblink := sameLink_obdhIngestTm b hpkt
  have hclink := sameLink_obdhIngestTm c hpkt
  constructor
  · rw [hb.user, hc.user, h.user]
  · rw [hb.uplink, hc.uplink, h.uplink]
  · rw [hblink.link, hclink.link, h.link]
  · rw [hblink.contact, hclink.contact, h.contact]
  · rw [hblink.time, hclink.time, h.time]
  · exact fun j hij => obdhIngestTm_store_congr h.contact h.time (h.stores j hij) hpkt
  · exact downlinked_congr h.link h.sent (fun _ => .inl h.contact) hpkt
  · exact h.left.telemetry (obdhIngestTm_outcome b hpkt)
  · exact h.right.telemetry (obdhIngestTm_outcome c hpkt)

/-- **A packet of the class on one side is not noticed.** -/
theorem hidden (h : Apart i b c) {p : Bytes} (hclass : tmClass p = some i) :
    Apart i (obdhIngestTm b (some p)).2 c := by
  have hpkt := isTm_of_consistent (consistent_of_class hclass)
  have hb := tmFrame_obdhIngestTm b hpkt
  have hlink := sameLink_obdhIngestTm b hpkt
  constructor
  · rw [hb.user, h.user]
  · rw [hb.uplink, h.uplink]
  · rw [hlink.link, h.link]
  · rw [hlink.contact, h.contact]
  · rw [hlink.time, h.time]
  · intro j hij
    rw [obdhIngestTm_store_ne hclass hij, h.stores j hij]
  · rw [downlinked_unwanted (unwanted_other i) hclass, h.sent]
  · exact h.left.telemetry (obdhIngestTm_outcome b hpkt)
  · exact h.right

/-- A change of contact on both sides. -/
theorem setContact (h : Apart i b c) (inContact : Bool) :
    Apart i (obdhSetContact b inContact) (obdhSetContact c inContact) := by
  have hb := obdhSetContact_frame b inContact
  have hc := obdhSetContact_frame c inContact
  constructor
  · rw [hb.user, hc.user, h.user]
  · rw [hb.uplink, hc.uplink, h.uplink]
  · rw [hb.link, hc.link, h.link]
  · rw [hb.contact, hc.contact]
  · rw [hb.time, hc.time, h.time]
  · exact fun j hij => obdhSetContact_store_congr h.contact (h.stores j hij) inContact
  · have hpackets : ∀ j, withApid (· ∉ classApids i) (b.obdh.store j).packets =
        withApid (· ∉ classApids i) (c.obdh.store j).packets := by
      intro j
      by_cases hij : j = i
      · subst hij
        rw [withApid_eq_nil (unwanted_other j) (h.left.stored j),
          withApid_eq_nil (unwanted_other j) (h.right.stored j)]
      · rw [h.stores j hij]
    have hev := hpackets .ev
    have hhk := hpackets .hk
    simp only [ObdhCtx.store] at hev hhk
    rw [downlinked_contact, downlinked_contact, h.contact, h.link, h.sent, hev, hhk]
  · exact h.left.contact inContact
  · exact h.right.contact inContact

theorem congruence (i : StoreId) : Congruence (Apart (υ := υ) i) where
  user := Apart.user
  uplink := Apart.uplink
  setUser := fun h u => ⟨rfl, h.uplink, h.link, h.contact, h.time, h.stores, h.sent,
    h.left.step (.user _ u), h.right.step (.user _ u)⟩
  setUplink := fun h x => ⟨h.user, rfl, h.link, h.contact, h.time,
    fun j hij => by cases j <;> exact h.stores _ hij, h.sent,
    h.left.step (.uplink _ x), h.right.step (.uplink _ x)⟩
  telemetry := fun h _ hpkt => h.telemetry hpkt
  dispatched := fun h p hp => ⟨h.user, h.uplink, h.link, h.contact, h.time,
    fun j hij => by cases j <;> exact h.stores _ hij, h.sent,
    h.left.step (.dispatch _ p hp), h.right.step (.dispatch _ p hp)⟩

end Apart

end Obdh
end SpacecraftFsw
