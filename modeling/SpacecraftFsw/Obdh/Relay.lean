import SpacecraftFsw.Obdh.Ordering
import SpacecraftFsw.Obdh.Views

/-!
# Loss-free relay

A class of telemetry of which no packet is lost: as long as no stretch out of
contact receives more than the store holds, and every packet fits its slot, the
ground receives exactly what was ingested, contact or not.

* `Relayed` — the invariant, with the number of packets that had been ingested
  when the present stretch began.
* `Relayed.quiets`, `Relayed.contact` — packets, and a change of contact.
-/

namespace SpacecraftFsw
namespace Obdh

open Tmtc
open Relation (ReflTransGen)

variable {υ : Type}

/-- Of class `i`, the first `n` packets have gone down and the others are stored. -/
structure Relayed (i : StoreId) (b : Bus υ) (n : ℕ) : Prop where
  start : n ≤ (b.offered i).length
  live : b.obdh.inContact = true → n = (b.offered i).length
  dropped : (b.obdh.store i).1.dropped = 0
  waiting : (b.obdh.store i).packets = (b.offered i).drop n
  sent : ofClass i b.ground = if b.obdh.downlink then (b.offered i).take n else []

theorem relayed_init (i : StoreId) (downlink inContact : Bool) (user : υ) :
    Relayed i (obdhInit downlink inContact user) 0 := by
  constructor
  · exact Nat.zero_le _
  · exact fun _ => rfl
  · cases i <;> rfl
  · cases i <;> rfl
  · cases downlink <;> rfl

/-! ## What was ingested -/

theorem ingested_quiet {b b' : Bus υ} (hs : QuietStep b b') : b.ingested <+: b'.ingested := by
  cases hs with
  | user | uplink | hkSeq => exact List.prefix_refl _
  | telemetry pkt hpkt =>
      rw [(tmFrame_obdhIngestTm b hpkt).ingested]
      exact List.prefix_append _ _
  | dispatch p hp => exact List.prefix_append _ _

theorem offered_extends {b b' : Bus υ} (h : b.ingested <+: b'.ingested) (i : StoreId) :
    b.offered i <+: b'.offered i := by
  obtain ⟨more, hmore⟩ := h
  rw [Bus.offered, Bus.offered, ← hmore, List.reduceOption_append, ofClass_append]
  exact List.prefix_append _ _

/-! ## Steps -/

namespace Relayed

variable {i : StoreId} {b : Bus υ} {n : ℕ}

theorem congr {b' : Bus υ} (h : Relayed i b n) (hoffered : b'.offered i = b.offered i)
    (hlink : SameLink b b') (hstore : b'.obdh.store i = b.obdh.store i)
    (hground : ofClass i b'.ground = ofClass i b.ground) : Relayed i b' n := by
  constructor
  · rw [hoffered]
    exact h.start
  · rw [hoffered, hlink.contact]
    exact h.live
  · rw [hstore]
    exact h.dropped
  · rw [hstore, hoffered]
    exact h.waiting
  · rw [hground, hoffered, hlink.link]
    exact h.sent

/-- A packet that is not of the class goes by. -/
theorem deliver_ne (h : Relayed i b n) {p : Bytes} (hclass : tmClass p ≠ some i) :
    Relayed i (deliver (b.record (some p)) p) n := by
  refine h.congr (offered_record_of_ne hclass) ⟨rfl, rfl, rfl⟩ rfl ?_
  cases hlink : b.obdh.downlink <;>
    simp [Obdh.deliver, Bus.record, hlink, ofClass_append, ofClass_single_ne hclass]

/-- A packet of the class in contact. -/
theorem deliver (h : Relayed i b n) {p : Bytes} (hclass : tmClass p = some i)
    (hcontact : b.obdh.inContact = true) : Relayed i (deliver (b.record (some p)) p) (n + 1) := by
  have hn := h.live hcontact
  have hoffered : (Obdh.deliver (b.record (some p)) p).offered i = b.offered i ++ [p] :=
    offered_record_of_class hclass
  have hlength : (b.offered i ++ [p]).length = n + 1 := by rw [List.length_append, ← hn]; rfl
  constructor
  · rw [hoffered, hlength]
  · rw [hoffered, hlength]
    exact fun _ => rfl
  · exact h.dropped
  · rw [hoffered, ← hlength, List.drop_length]
    refine h.waiting.trans ?_
    rw [hn, List.drop_length]
  · rw [hoffered, ← hlength, List.take_length]
    have hsent := h.sent
    rw [hn, List.take_length] at hsent
    cases hlink : b.obdh.downlink
    · simpa [Obdh.deliver, Bus.record, hlink] using hsent
    · simpa [Obdh.deliver, Bus.record, hlink, ofClass_append, ofClass_single hclass] using hsent

/-- A packet of the class out of contact, while there is room for it. -/
theorem store (h : Relayed i b n) {p : Bytes} (hclass : tmClass p = some i)
    (hcontact : b.obdh.inContact = false) (hlen : 1 ≤ p.length) (hmax : p.length ≤ maxPkt)
    (hroom : (b.offered i).length < n + storeCap) :
    Relayed i ((b.record (some p)).storeTm i p) n := by
  have hoffered : ((b.record (some p)).storeTm i p).offered i = b.offered i ++ [p] :=
    offered_record_of_class hclass
  have hstore : ((b.record (some p)).storeTm i p).obdh.store i =
      (b.obdh.store i).putAt p b.obdh.onboardTime := by
    cases i <;> rfl
  have hfree : (b.obdh.store i).packets.length < storeCap := by
    have hstart := h.start
    rw [h.waiting, List.length_drop]
    omega
  obtain ⟨hpackets, hdrop⟩ := (b.obdh.store i).putAt_storable ⟨hlen, hmax⟩ b.obdh.onboardTime
  have hsame : SameLink b ((b.record (some p)).storeTm i p) := by
    cases i <;> exact ⟨rfl, rfl, rfl⟩
  constructor
  · rw [hoffered, List.length_append]
    exact h.start.trans (Nat.le_add_right _ _)
  · rw [hsame.contact, hcontact]
    exact fun hc => by cases hc
  · rw [hstore, hdrop, if_neg hfree.ne, h.dropped]
    rfl
  · rw [hstore, hpackets, DropOldest.push_of_room hfree, h.waiting, hoffered,
      List.drop_append_of_le_length h.start]
  · rw [hoffered, hsame.link, List.take_append_of_le_length h.start]
    exact h.sent

/-- **Telemetry**: in contact the count moves on with a packet of the class, out of
contact it stays. -/
theorem telemetry (h : Relayed i b n) {pkt : Option Bytes} {r : ObdhDest × Bus υ}
    (hr : TmOutcome b pkt r) (hfits : ∀ p ∈ r.2.offered i, p.length ≤ maxPkt)
    (hroom : b.obdh.inContact = false → (r.2.offered i).length ≤ n + storeCap) :
    ∃ n', Relayed i r.2 n' ∧ (b.obdh.inContact = false → n' = n) := by
  cases hr with
  | malformed hbad =>
      exact ⟨n, h.congr (offered_record_of_malformed hbad i) ⟨rfl, rfl, rfl⟩ rfl rfl, fun _ => rfl⟩
  | unknown p hp hc hclass =>
      subst hp
      have hne : tmClass p ≠ some i := by simp [hclass]
      exact ⟨n, h.congr (offered_record_of_ne hne) ⟨rfl, rfl, rfl⟩ rfl rfl, fun _ => rfl⟩
  | response p hp hc hclass =>
      subst hp
      exact ⟨n, h.deliver_ne (by simp [hclass]), fun _ => rfl⟩
  | downlink p j hp hc hclass hcontact =>
      subst hp
      by_cases hij : j = i
      · subst hij
        refine ⟨n + 1, h.deliver hclass hcontact, fun hout => ?_⟩
        rw [hcontact] at hout
        cases hout
      · exact ⟨n, h.deliver_ne (by simp [hclass, hij]), fun _ => rfl⟩
  | store p j hp hc hclass hcontact =>
      subst hp
      refine ⟨n, ?_, fun _ => rfl⟩
      by_cases hij : j = i
      · subst hij
        have hoffered : ((b.record (some p)).storeTm j p).offered j = b.offered j ++ [p] :=
          offered_record_of_class hclass
        have hlen := hc.1
        have hroom' := hroom hcontact
        simp only [hoffered, List.length_append, List.length_singleton] at hroom' hfits
        refine h.store hclass hcontact ?_ (hfits p (by simp)) hroom'
        rw [ccsdsPriHdrLen] at hlen
        omega
      · have hne : tmClass p ≠ some i := by simp [hclass, hij]
        refine h.congr (offered_record_of_ne hne) ?_ ?_ rfl
        · cases j <;> exact ⟨rfl, rfl, rfl⟩
        · exact store_setStore_ne b.obdh (Ne.symm hij) _

theorem quiet {b' : Bus υ} (h : Relayed i b n) (hs : QuietStep b b')
    (hfits : ∀ p ∈ b'.offered i, p.length ≤ maxPkt)
    (hroom : b.obdh.inContact = false → (b'.offered i).length ≤ n + storeCap) :
    ∃ n', Relayed i b' n' ∧ (b.obdh.inContact = false → n' = n) := by
  have hlink := hs.sameLink
  cases hs with
  | user u => exact ⟨n, h.congr rfl hlink rfl rfl, fun _ => rfl⟩
  | telemetry pkt hpkt => exact h.telemetry (obdhIngestTm_outcome b hpkt) hfits hroom
  | dispatch p hp =>
      have hbad : ∀ q, some p = some q → ¬Consistent q := by
        rintro q hq hc
        rw [← Option.some.inj hq] at hc
        have htype : (1 : U8) = 0 := hp.2.symm.trans hc.2.1
        exact absurd htype (by decide)
      refine ⟨n, h.congr (offered_record_of_malformed hbad i) hlink ?_ rfl, fun _ => rfl⟩
      cases i <;> rfl
  | uplink c => exact ⟨n, h.congr rfl hlink (by cases i <;> rfl) rfl, fun _ => rfl⟩
  | hkSeq m => exact ⟨n, h.congr rfl hlink (by cases i <;> rfl) rfl, fun _ => rfl⟩

/-- **An operation without a change of contact.** -/
theorem quiets {b' : Bus υ} (h : Relayed i b n) (hs : ReflTransGen QuietStep b b')
    (hfits : ∀ p ∈ b'.offered i, p.length ≤ maxPkt)
    (hroom : b.obdh.inContact = false → (b'.offered i).length ≤ n + storeCap) :
    ∃ n', Relayed i b' n' ∧ (b.obdh.inContact = false → n' = n) := by
  induction hs with
  | refl => exact ⟨n, h, fun _ => rfl⟩
  | tail hsteps hstep ih =>
      -- what holds of the packets ingested at the end holds of those ingested on the way
      have hpre := offered_extends (ingested_quiet hstep) i
      obtain ⟨n', h', hn'⟩ := ih (fun p hp => hfits p (hpre.subset hp))
        fun hout => hpre.length_le.trans (hroom hout)
      have hcontact := (sameLink_of_quiet hsteps).contact
      obtain ⟨n'', h'', hn''⟩ := h'.quiet hstep hfits fun hout => by
        rw [hcontact] at hout
        rw [hn' hout]
        exact hroom hout
      refine ⟨n'', h'', fun hout => ?_⟩
      rw [hn'' (hcontact.trans hout), hn' hout]

theorem tick (h : Relayed i b n) : Relayed i (obdhTick b) n :=
  ⟨h.start, h.live, by cases i <;> exact h.dropped, by cases i <;> exact h.waiting, h.sent⟩

/-- The packets a drain sends down, of one class. -/
theorem ofClass_drained (h : Classed b) :
    ofClass i (b.obdh.evStore.packets ++ b.obdh.hkStore.packets) = (b.obdh.store i).packets := by
  have hev : ∀ p ∈ b.obdh.evStore.packets, tmClass p = some .ev := h.stored .ev
  have hhk : ∀ p ∈ b.obdh.hkStore.packets, tmClass p = some .hk := h.stored .hk
  rw [ofClass_append]
  cases i with
  | ev => rw [ofClass_eq_self hev, ofClass_eq_nil (by decide) hhk, List.append_nil]; rfl
  | hk => rw [ofClass_eq_nil (by decide) hev, ofClass_eq_self hhk, List.nil_append]; rfl

/-- **A change of contact**: entering contact sends what is waiting. -/
theorem contact (h : Relayed i b n) (hclassed : Classed b) (inContact : Bool) :
    ∃ n', Relayed i (obdhSetContact b inContact) n' ∧
      (b.obdh.inContact = true ∨ inContact = false → n' = n) := by
  have hframe := obdhSetContact_frame b inContact
  have hoffered : (obdhSetContact b inContact).offered i = b.offered i := by
    rw [Bus.offered, hframe.ingested, Bus.offered]
  have hpackets := hframe.packets i
  have hground := hframe.ground
  cases henter : !b.obdh.inContact && inContact with
  | false =>
      simp only [henter, Bool.false_eq_true, if_false, Bool.false_and, List.append_nil]
        at hpackets hground
      refine ⟨n, ⟨?_, ?_, ?_, ?_, ?_⟩, fun _ => rfl⟩
      · rw [hoffered]
        exact h.start
      · intro hin
        rw [hframe.contact] at hin
        rw [hoffered]
        exact h.live (by simpa [hin] using henter)
      · rw [hframe.dropped i, h.dropped]
      · rw [hpackets, hoffered, h.waiting]
      · rw [hground, hoffered, hframe.link, h.sent]
  | true =>
      obtain ⟨hout, hin⟩ : b.obdh.inContact = false ∧ inContact = true := by
        simpa using henter
      simp only [henter, if_true, Bool.true_and] at hpackets hground
      refine ⟨(b.offered i).length, ⟨?_, ?_, ?_, ?_, ?_⟩, ?_⟩
      · rw [hoffered]
      · rw [hoffered]
        exact fun _ => rfl
      · rw [hframe.dropped i, h.dropped]
      · rw [hpackets, hoffered, List.drop_length]
      · rw [hground, hoffered, hframe.link, List.take_length, ofClass_append, h.sent]
        cases b.obdh.downlink with
        | false => rfl
        | true =>
            simp only [if_true]
            rw [ofClass_drained hclassed, h.waiting, List.take_append_drop]
      · rintro (hwas | hnow)
        · rw [hout] at hwas
          cases hwas
        · rw [hin] at hnow
          cases hnow

end Relayed

/-! ## What the ground has, once all is sent -/

/-- In contact the ground has every packet of the class, and none was lost. -/
theorem Relayed.complete {i : StoreId} {b : Bus υ} {n : ℕ} (h : Relayed i b n)
    (hin : b.obdh.inContact = true) :
    ofClass i b.ground = (if b.obdh.downlink then b.offered i else []) ∧
      (b.obdh.store i).1.dropped = 0 := by
  have hsent := h.sent
  rw [h.live hin, List.take_length] at hsent
  exact ⟨hsent, h.dropped⟩

/-- Among what the ground has, the class of a packet is told by its APID. -/
theorem Classed.downlinked {b : Bus υ} (h : Classed b) (i : StoreId) :
    b.downlinked (· ∈ classApids i) = ofClass i b.ground := by
  refine List.filter_congr ?_
  intro p hp
  simp [mem_classApids_iff (h.sent p hp)]

end Obdh
end SpacecraftFsw
