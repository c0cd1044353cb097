import SpacecraftFsw.Obdh.Store
import SpacecraftFsw.Tmtc.Contract

/-!
# The OBDH router

`labs/04-obdh/obdh.c`: one entry point through which every packet passes, two
stores for telemetry while out of contact, and the command path behind it.

`obdh_ingest` is re-entrant.  A telecommand is answered with reports that go back
through the router, and the exit-safe hook it may trigger raises events that do
the same.  The body is therefore written once with its recursive call and the
hook as parameters (`obdhIngestBody`), and `obdhIngest` ties the knot;
`obdhIngest_rec` says that it satisfies the recursion of the source.

* `TmFrame` — what an ingest of telemetry leaves alone.
* `ExitSafeHook` — a hook that reaches the router with telemetry only, the
  property that makes the recursion end.
* `BusStep` — what can happen to the router and its surroundings in one step, and
  `QuietStep`, the steps among these that leave the clock and the contact alone;
  `obdhIngest_quiet` takes a whole ingest apart into such steps, so an invariant
  needs one argument per step and none about re-entrance.
-/

namespace SpacecraftFsw
namespace Obdh

open Tmtc

/-! ## Constants and state -/

/-- `APID_HK`. -/
def apidHk : U16 := ccsdsApidHk

/-- `APID_EVENT`. -/
def apidEvent : U16 := 0x066

/-- `APID_OBDH_HK`. -/
def apidObdhHk : U16 := 0x067

/-- `APID_FDIR_HK`. -/
def apidFdirHk : U16 := 0x068

/-- `obdh_dest`. -/
inductive ObdhDest
  | downlink
  | store
  | dispatch
  | drop
  deriving DecidableEq, Repr

/-- `obdh_route`. -/
def obdhRoute (apid : U16) (pktType : U8) (inContact : Bool) : ObdhDest :=
  if pktType = 1 then .dispatch
  else if apid = apidHk ∨ apid = apidObdhHk ∨ apid = apidFdirHk then
    if inContact then .downlink else .store
  else if apid = apidEvent then
    if inContact then .downlink else .store
  else if apid = ccsdsApidCmd then .downlink
  else .drop

/-- `obdh_ctx`.  `downlink` records whether a callback is wired. -/
structure ObdhCtx where
  hkStore : Store
  evStore : Store
  uplink : UplinkCtx
  downlink : Bool
  inContact : Bool
  onboardTime : U32
  hkSeq : U16
  nDownlinked : U32
  nStored : U32
  nDispatched : U32
  nDropUnknown : U32
  nDropMalformed : U32

/-- The router together with what surrounds it: the memory `υ` of the unit behind
the exit-safe hook, and the log of the downlink callback.  `ingested` and
`drained` are kept for the proofs: every call of `obdh_ingest`, and every packet
a store has given up. -/
structure Bus (υ : Type) where
  obdh : ObdhCtx
  user : υ
  ground : List Bytes
  ingested : List (Option Bytes)
  drained : List Bytes

variable {υ : Type}

/-- `obdh_init`. -/
def obdhInit (downlink inContact : Bool) (user : υ) : Bus υ where
  obdh :=
    { hkStore := Store.init
      evStore := Store.init
      uplink := uplinkInit
      downlink := downlink
      inContact := inContact
      onboardTime := 0
      hkSeq := 0
      nDownlinked := 0
      nStored := 0
      nDispatched := 0
      nDropUnknown := 0
      nDropMalformed := 0 }
  user := user
  ground := []
  ingested := []
  drained := []

/-! ## The operations -/

/-- `obdh_tick`. -/
def obdhTick (b : Bus υ) : Bus υ :=
  { b with obdh := { b.obdh with onboardTime := b.obdh.onboardTime + 1 } }

/-- `deliver`. -/
def deliver (b : Bus υ) (pkt : Bytes) : Bus υ :=
  { b with
    ground := if b.obdh.downlink then b.ground ++ [pkt] else b.ground
    obdh := { b.obdh with nDownlinked := b.obdh.nDownlinked + 1 } }

/-- The two stores of the router. -/
inductive StoreId
  | ev
  | hk
  deriving DecidableEq, Repr

/-- `&c->ev_store` or `&c->hk_store`. -/
def ObdhCtx.store (c : ObdhCtx) : StoreId → Store
  | .ev => c.evStore
  | .hk => c.hkStore

def ObdhCtx.setStore (c : ObdhCtx) (i : StoreId) (s : Store) : ObdhCtx :=
  match i with
  | .ev => { c with evStore := s }
  | .hk => { c with hkStore := s }

/-- The loop of `drain`, for `fuel` packets. -/
def drainLoop : ℕ → Bus υ → StoreId → Bus υ
  | 0, b, _ => b
  | fuel + 1, b, i =>
    match (b.obdh.store i).get with
    | (none, _) => b
    | (some pkt, s) =>
      drainLoop fuel
        (deliver { b with
          obdh := b.obdh.setStore i s
          drained := b.drained ++ [pkt] } pkt) i

/-- `drain`.  A store holds at most `STORE_CAP` packets, so the loop has met the
empty store within that many rounds and one more (`drain_spec`). -/
def drain (b : Bus υ) (i : StoreId) : Bus υ := drainLoop (storeCap + 1) b i

/-- `obdh_set_contact`. -/
def obdhSetContact (b : Bus υ) (inContact : Bool) : Bus υ :=
  let was := b.obdh.inContact
  let b := { b with obdh := { b.obdh with inContact := inContact } }
  if !was && inContact then drain (drain b .ev) .hk else b

/-- The exit-safe hook as `uplink_handle_tc` calls it: the command path is in the
middle of its own work, and its context is what it is at that point. -/
def busHook (hook : Bus υ → ℤ × Bus υ) : Hook (Bus υ) := fun ctx b =>
  hook { b with obdh := { b.obdh with uplink := ctx } }

/-- The body of `obdh_ingest`, with the hook and the recursive call left open;
`none` is a null `pkt`. -/
def obdhIngestBody (hook : Bus υ → ℤ × Bus υ) (self : Bus υ → Option Bytes → ObdhDest × Bus υ)
    (b : Bus υ) (pkt : Option Bytes) : ObdhDest × Bus υ :=
  let b := { b with ingested := b.ingested ++ [pkt] }
  match pkt with
  | none =>
    (.drop, { b with obdh := { b.obdh with nDropMalformed := b.obdh.nDropMalformed + 1 } })
  | some p =>
    if p.length < ccsdsPriHdrLen then
      (.drop, { b with obdh := { b.obdh with nDropMalformed := b.obdh.nDropMalformed + 1 } })
    else
      let h := ccsdsParsePrimary p
      if h.type = 0 ∧ h.dataLength.toNat + 1 + ccsdsPriHdrLen ≠ p.length then
        (.drop, { b with obdh := { b.obdh with nDropMalformed := b.obdh.nDropMalformed + 1 } })
      else
        let dest := obdhRoute h.apid h.type b.obdh.inContact
        match dest with
        | .downlink => (dest, deliver b p)
        | .store =>
          let i := if h.apid = apidEvent then .ev else .hk
          let c := b.obdh.setStore i ((b.obdh.store i).putAt p b.obdh.onboardTime)
          (dest, { b with obdh := { c with nStored := c.nStored + 1 } })
        | .dispatch =>
          let b := { b with obdh := { b.obdh with nDispatched := b.obdh.nDispatched + 1 } }
          let r := uplinkHandleTc (busHook hook) ⟨b.obdh.uplink, TmOut.blank, b⟩ (some p)
          let b := { r.2.world with obdh := { r.2.world.obdh with uplink := r.2.ctx } }
          (dest, r.2.out.reports.foldl (fun b pkt => (self b (some pkt)).2) b)
        | .drop =>
          (dest, { b with obdh := { b.obdh with nDropUnknown := b.obdh.nDropUnknown + 1 } })

/-! ## Telemetry -/

/-- A packet the router does not dispatch. -/
def IsTm (pkt : Option Bytes) : Prop :=
  ∀ p, pkt = some p → ccsdsPriHdrLen ≤ p.length → (ccsdsParsePrimary p).type = 0

/-- `obdh_ingest` of telemetry, which calls neither the hook nor itself. -/
def obdhIngestTm (b : Bus υ) (pkt : Option Bytes) : ObdhDest × Bus υ :=
  obdhIngestBody (fun b => (0, b)) (fun b _ => (.drop, b)) b pkt

theorem obdhRoute_ne_dispatch (apid : U16) (inContact : Bool) :
    obdhRoute apid 0 inContact ≠ .dispatch := by
  unfold obdhRoute
  rw [if_neg (by decide)]
  split
  · split <;> exact ObdhDest.noConfusion
  · split
    · split <;> exact ObdhDest.noConfusion
    · split <;> exact ObdhDest.noConfusion

theorem obdhIngestBody_of_tm {pkt : Option Bytes} (h : IsTm pkt) (hook : Bus υ → ℤ × Bus υ)
    (self : Bus υ → Option Bytes → ObdhDest × Bus υ) (b : Bus υ) :
    obdhIngestBody hook self b pkt = obdhIngestTm b pkt := by
  cases pkt with
  | none => rfl
  | some p =>
      unfold obdhIngestTm obdhIngestBody
      by_cases hlen : p.length < ccsdsPriHdrLen
      · simp only [hlen, if_true]
      · have htype := h p rfl (not_lt.1 hlen)
        simp only [hlen, if_false, htype]
        split
        · rfl
        · cases hroute : obdhRoute (ccsdsParsePrimary p).apid 0 b.obdh.inContact with
          | dispatch => exact absurd hroute (obdhRoute_ne_dispatch _ _)
          | downlink => rfl
          | store => rfl
          | drop => rfl

theorem isTm_tmPacket (apid seq : U16) (service subtype : U8) (data : Bytes) :
    IsTm (some (tmPacket apid seq service subtype data)) := by
  intro p hp _
  rw [← Option.some.inj hp, tmPacket_type]

/-- Telemetry whose length field agrees with its length. -/
def Consistent (p : Bytes) : Prop :=
  ccsdsPriHdrLen ≤ p.length ∧ (ccsdsParsePrimary p).type = 0 ∧
    (ccsdsParsePrimary p).dataLength.toNat + 1 + ccsdsPriHdrLen = p.length

instance (p : Bytes) : Decidable (Consistent p) := inferInstanceAs (Decidable (_ ∧ _ ∧ _))

/-- The store a telemetry packet belongs to: events, or housekeeping. -/
def tmClass (p : Bytes) : Option StoreId :=
  if ¬Consistent p then none
  else if (ccsdsParsePrimary p).apid = 0x066 then some .ev
  else if (ccsdsParsePrimary p).apid = 0x064 ∨ (ccsdsParsePrimary p).apid = 0x067 ∨
    (ccsdsParsePrimary p).apid = 0x068 then some .hk
  else none

theorem consistent_of_class {p : Bytes} {i : StoreId} (h : tmClass p = some i) : Consistent p := by
  by_contra hc
  rw [tmClass, if_pos hc] at h
  cases h

/-- The APIDs of a class. -/
def classApids : StoreId → List U16
  | .ev => [0x066]
  | .hk => [0x064, 0x067, 0x068]

/-- The class of a consistent packet is told by its APID. -/
theorem mem_classApids_iff {p : Bytes} (hc : Consistent p) (i : StoreId) :
    (ccsdsParsePrimary p).apid ∈ classApids i ↔ tmClass p = some i := by
  unfold tmClass
  rw [if_neg (not_not.2 hc)]
  generalize (ccsdsParsePrimary p).apid = apid
  by_cases hev : apid = 0x066
  · subst hev
    cases i <;> decide
  · have hnotev : apid ∉ classApids .ev := fun h => hev (List.mem_singleton.1 h)
    rw [if_neg hev]
    by_cases hhk : apid = 0x064 ∨ apid = 0x067 ∨ apid = 0x068
    · rw [if_pos hhk]
      cases i with
      | ev => exact iff_of_false hnotev (by simp)
      | hk => exact iff_of_true (by simpa [classApids] using hhk) rfl
    · rw [if_neg hhk]
      cases i with
      | ev => exact iff_of_false hnotev (by simp)
      | hk => exact iff_of_false (by simpa [classApids] using hhk) (by simp)

theorem mem_classApids {p : Bytes} {i : StoreId} (h : tmClass p = some i) :
    (ccsdsParsePrimary p).apid ∈ classApids i :=
  (mem_classApids_iff (consistent_of_class h) i).2 h

/-- Routing by class. -/
theorem obdhRoute_eq {p : Bytes} (hc : Consistent p) (inContact : Bool) :
    obdhRoute (ccsdsParsePrimary p).apid 0 inContact =
      match tmClass p with
      | some _ => if inContact then .downlink else .store
      | none => if (ccsdsParsePrimary p).apid = ccsdsApidCmd then .downlink else .drop := by
  unfold obdhRoute tmClass
  rw [if_neg (by decide), if_neg (not_not.2 hc)]
  generalize (ccsdsParsePrimary p).apid = apid
  simp only [apidHk, apidObdhHk, apidFdirHk, apidEvent, ccsdsApidHk]
  by_cases hev : apid = 0x066
  · subst hev
    cases inContact <;> decide
  · by_cases hhk : apid = 0x064 ∨ apid = 0x067 ∨ apid = 0x068
    · simp only [hhk, hev, if_true, if_false]
    · simp only [hhk, hev, if_false]

theorem storeId_eq {p : Bytes} {i : StoreId} (h : tmClass p = some i) :
    (if (ccsdsParsePrimary p).apid = apidEvent then StoreId.ev else StoreId.hk) = i := by
  unfold tmClass at h
  split at h
  · cases h
  · by_cases hev : (ccsdsParsePrimary p).apid = apidEvent
    · rw [if_pos hev]
      rw [if_pos (show _ = (0x066 : U16) from hev)] at h
      exact Option.some.inj h
    · rw [if_neg hev]
      rw [if_neg (show ¬_ = (0x066 : U16) from hev)] at h
      split at h
      · exact Option.some.inj h
      · cases h

/-- A packet put into a store, out of contact. -/
def Bus.storeTm (b : Bus υ) (i : StoreId) (p : Bytes) : Bus υ :=
  let c := b.obdh.setStore i ((b.obdh.store i).putAt p b.obdh.onboardTime)
  { b with obdh := { c with nStored := c.nStored + 1 } }

def Bus.dropMalformed (b : Bus υ) : Bus υ :=
  { b with obdh := { b.obdh with nDropMalformed := b.obdh.nDropMalformed + 1 } }

def Bus.dropUnknown (b : Bus υ) : Bus υ :=
  { b with obdh := { b.obdh with nDropUnknown := b.obdh.nDropUnknown + 1 } }

/-- A packet recorded as ingested. -/
def Bus.record (b : Bus υ) (pkt : Option Bytes) : Bus υ :=
  { b with ingested := b.ingested ++ [pkt] }

/-- **Everything that can happen to telemetry**, with the condition for it. -/
inductive TmOutcome (b : Bus υ) (pkt : Option Bytes) : ObdhDest × Bus υ → Prop
  | malformed (h : ∀ p, pkt = some p → ¬Consistent p) :
      TmOutcome b pkt (.drop, (b.record pkt).dropMalformed)
  | unknown (p : Bytes) (hp : pkt = some p) (hc : Consistent p) (hclass : tmClass p = none) :
      TmOutcome b pkt (.drop, (b.record pkt).dropUnknown)
  | response (p : Bytes) (hp : pkt = some p) (hc : Consistent p) (hclass : tmClass p = none) :
      TmOutcome b pkt (.downlink, deliver (b.record pkt) p)
  | downlink (p : Bytes) (i : StoreId) (hp : pkt = some p) (hc : Consistent p)
      (hclass : tmClass p = some i) (hcontact : b.obdh.inContact = true) :
      TmOutcome b pkt (.downlink, deliver (b.record pkt) p)
  | store (p : Bytes) (i : StoreId) (hp : pkt = some p) (hc : Consistent p)
      (hclass : tmClass p = some i) (hcontact : b.obdh.inContact = false) :
      TmOutcome b pkt (.store, (b.record pkt).storeTm i p)

/-- Malformed telemetry is counted and dropped. -/
theorem obdhIngestTm_malformed {pkt : Option Bytes} (h : IsTm pkt)
    (hbad : ∀ p, pkt = some p → ¬Consistent p) (b : Bus υ) :
    obdhIngestTm b pkt = (.drop, (b.record pkt).dropMalformed) := by
  cases pkt with
  | none => rfl
  | some p =>
      unfold obdhIngestTm obdhIngestBody
      by_cases hlen : p.length < ccsdsPriHdrLen
      · simp only [hlen, if_true]
        rfl
      · have htype := h p rfl (not_lt.1 hlen)
        have hfield : (ccsdsParsePrimary p).dataLength.toNat + 1 + ccsdsPriHdrLen ≠ p.length :=
          fun heq => hbad p rfl ⟨not_lt.1 hlen, htype, heq⟩
        simp only [hlen, if_false, htype, true_and, hfield, ne_eq, not_false_eq_true, if_true]
        rfl

/-- **What becomes of consistent telemetry**, by its class. -/
theorem obdhIngestTm_consistent {p : Bytes} (hc : Consistent p) (b : Bus υ) :
    obdhIngestTm b (some p) =
      match tmClass p with
      | some i =>
        if b.obdh.inContact then (.downlink, deliver (b.record (some p)) p)
        else (.store, (b.record (some p)).storeTm i p)
      | none =>
        if (ccsdsParsePrimary p).apid = ccsdsApidCmd then
          (.downlink, deliver (b.record (some p)) p)
        else (.drop, (b.record (some p)).dropUnknown) := by
  obtain ⟨hlen, htype, hfield⟩ := hc
  have hc : Consistent p := ⟨hlen, htype, hfield⟩
  unfold obdhIngestTm obdhIngestBody
  simp only [not_lt.2 hlen, if_false, htype, true_and, hfield, ne_eq, not_true_eq_false,
    obdhRoute_eq hc]
  cases hclass : tmClass p with
  | none =>
      by_cases hcmd : (ccsdsParsePrimary p).apid = ccsdsApidCmd
      · simp only [hcmd, if_true]
        rfl
      · simp only [hcmd, if_false]
        rfl
  | some i =>
      cases hcontact : b.obdh.inContact with
      | true => rfl
      | false =>
          simp only [storeId_eq hclass, Bool.false_eq_true, if_false]
          rfl

theorem isTm_of_consistent {p : Bytes} (hc : Consistent p) : IsTm (some p) := by
  intro q hq _
  rw [← Option.some.inj hq]
  exact hc.2.1

theorem obdhIngestTm_outcome (b : Bus υ) {pkt : Option Bytes} (h : IsTm pkt) :
    TmOutcome b pkt (obdhIngestTm b pkt) := by
  by_cases hbad : ∀ p, pkt = some p → ¬Consistent p
  · rw [obdhIngestTm_malformed h hbad]
    exact .malformed hbad
  push Not at hbad
  obtain ⟨p, rfl, hc⟩ := hbad
  rw [obdhIngestTm_consistent hc]
  cases hclass : tmClass p with
  | none =>
      by_cases hcmd : (ccsdsParsePrimary p).apid = ccsdsApidCmd
      · simp only [hcmd, if_true]
        exact .response p rfl hc hclass
      · simp only [hcmd, if_false]
        exact .unknown p rfl hc hclass
  | some i =>
      cases hcontact : b.obdh.inContact with
      | true => exact .downlink p i rfl hc hclass hcontact
      | false => exact .store p i rfl hc hclass hcontact

/-! ## What telemetry leaves alone -/

/-- What telemetry leaves alone, and the call it adds. -/
structure TmFrame (b : Bus υ) (pkts : List (Option Bytes)) (b' : Bus υ) : Prop where
  user : b'.user = b.user
  uplink : b'.obdh.uplink = b.obdh.uplink
  ingested : b'.ingested = b.ingested ++ pkts

theorem tmFrame_obdhIngestTm (b : Bus υ) {pkt : Option Bytes} (h : IsTm pkt) :
    TmFrame b [pkt] (obdhIngestTm b pkt).2 := by
  have hout := obdhIngestTm_outcome b h
  generalize obdhIngestTm b pkt = r at hout ⊢
  cases hout with
  | malformed | unknown | response | downlink => exact ⟨rfl, rfl, rfl⟩
  | store p i => exact ⟨rfl, by cases i <;> rfl, rfl⟩

theorem TmFrame.trans {b b' b'' : Bus υ} {ps qs : List (Option Bytes)}
    (h : TmFrame b ps b') (h' : TmFrame b' qs b'') : TmFrame b (ps ++ qs) b'' :=
  ⟨h'.user.trans h.user, h'.uplink.trans h.uplink,
    by rw [h'.ingested, h.ingested, List.append_assoc]⟩

theorem tmFrame_foldl {pkts : List Bytes} (h : ∀ pkt ∈ pkts, IsTm (some pkt))
    (b : Bus υ) :
    TmFrame b (pkts.map some) (pkts.foldl (fun b pkt => (obdhIngestTm b (some pkt)).2) b) := by
  induction pkts generalizing b with
  | nil => exact ⟨rfl, rfl, (List.append_nil _).symm⟩
  | cons pkt pkts ih =>
      have hhead := tmFrame_obdhIngestTm b (h pkt List.mem_cons_self)
      exact hhead.trans (ih (fun pkt hpkt => h pkt (List.mem_cons_of_mem _ hpkt)) _)

/-! ## The hook and the recursion -/

/-- One move of a unit behind the hook: into its own memory, or to the router
with telemetry. -/
inductive TelemetryStep : Bus υ → Bus υ → Prop
  | user (b : Bus υ) (u : υ) : TelemetryStep b { b with user := u }
  | ingest (b : Bus υ) (pkt : Option Bytes) (h : IsTm pkt) : TelemetryStep b (obdhIngestTm b pkt).2

/-- An exit-safe hook that reaches the router with telemetry only. -/
structure ExitSafeHook (υ : Type) where
  call : Bus υ → ℤ × Bus υ
  telemetry : ∀ b, Relation.ReflTransGen TelemetryStep b (call b).2

/-- `obdh_ingest`.  The packets the command path sends back are telemetry, so
they are ingested as such; `obdhIngest_rec` is the recursion of the source. -/
def obdhIngest (H : ExitSafeHook υ) (b : Bus υ) (pkt : Option Bytes) : ObdhDest × Bus υ :=
  obdhIngestBody H.call obdhIngestTm b pkt

theorem obdhIngest_of_tm (H : ExitSafeHook υ) (b : Bus υ) {pkt : Option Bytes} (h : IsTm pkt) :
    obdhIngest H b pkt = obdhIngestTm b pkt :=
  obdhIngestBody_of_tm h _ _ b

/-- A packet the router dispatches. -/
def IsTc (p : Bytes) : Prop := ccsdsPriHdrLen ≤ p.length ∧ (ccsdsParsePrimary p).type = 1

theorem isTm_or_isTc (pkt : Option Bytes) : IsTm pkt ∨ ∃ p, pkt = some p ∧ IsTc p := by
  cases pkt with
  | none => exact .inl fun p hp => by cases hp
  | some p =>
      by_cases h : IsTc p
      · exact .inr ⟨p, rfl, h⟩
      · refine .inl fun q hq hlen => ?_
        obtain rfl := Option.some.inj hq
        rcases type_eq_zero_or_one p with h0 | h1
        · exact h0
        · exact absurd ⟨hlen, h1⟩ h

/-- The router with a telecommand counted, before the command path runs. -/
def Bus.dispatched (b : Bus υ) (p : Bytes) : Bus υ :=
  let b := b.record (some p)
  { b with obdh := { b.obdh with nDispatched := b.obdh.nDispatched + 1 } }

/-- The command path behind the router. -/
def Bus.handleTc (hook : Bus υ → ℤ × Bus υ) (b : Bus υ) (p : Bytes) :
    UplinkResult × UplinkState (Bus υ) :=
  uplinkHandleTc (busHook hook) ⟨b.obdh.uplink, TmOut.blank, b⟩ (some p)

/-- The router with the command path's context put back. -/
def Bus.afterTc (r : UplinkResult × UplinkState (Bus υ)) : Bus υ :=
  { r.2.world with obdh := { r.2.world.obdh with uplink := r.2.ctx } }

/-- The branch of the router that dispatches. -/
theorem obdhIngestBody_of_tc {p : Bytes} (h : IsTc p) (hook : Bus υ → ℤ × Bus υ)
    (self : Bus υ → Option Bytes → ObdhDest × Bus υ) (b : Bus υ) :
    obdhIngestBody hook self b (some p) =
      let r := (b.dispatched p).handleTc hook p
      (.dispatch, r.2.out.reports.foldl (fun b pkt => (self b (some pkt)).2) (Bus.afterTc r)) := by
  obtain ⟨hlen, htype⟩ := h
  have hne : (1 : U8) ≠ 0 := by decide
  unfold obdhIngestBody
  simp only [not_lt.2 hlen, if_false, htype, hne, false_and, obdhRoute, if_true]
  rfl

theorem isTm_of_report (hook : Bus υ → ℤ × Bus υ) (b : Bus υ) (p : Bytes) :
    ∀ pkt ∈ (b.handleTc hook p).2.out.reports, IsTm (some pkt) := by
  intro pkt hpkt
  obtain ⟨seq, r, -, rfl⟩ := uplinkHandleTc_reports _ _ _ pkt hpkt
  exact isTm_tmPacket _ _ _ _ _

/-- An ingest of a telecommand: what the command path leaves behind, and the
reports it has sent back through the router. -/
theorem tmFrame_tc (H : ExitSafeHook υ) (b : Bus υ) {p : Bytes} (h : IsTc p) :
    let r := (b.dispatched p).handleTc H.call p
    TmFrame (Bus.afterTc r) (r.2.out.reports.map some) (obdhIngest H b (some p)).2 := by
  intro r
  rw [obdhIngest, obdhIngestBody_of_tc h]
  exact tmFrame_foldl (isTm_of_report _ _ p) _

theorem foldl_ingest_congr {self self' : Bus υ → Option Bytes → ObdhDest × Bus υ}
    {pkts : List Bytes} (h : ∀ pkt ∈ pkts, ∀ b, self b (some pkt) = self' b (some pkt))
    (b : Bus υ) :
    pkts.foldl (fun b pkt => (self b (some pkt)).2) b =
      pkts.foldl (fun b pkt => (self' b (some pkt)).2) b := by
  induction pkts generalizing b with
  | nil => rfl
  | cons pkt pkts ih =>
      rw [List.foldl_cons, List.foldl_cons, h pkt List.mem_cons_self]
      exact ih (fun pkt hpkt => h pkt (List.mem_cons_of_mem _ hpkt)) _

/-- **The recursion of the source**: `obdhIngest` calls itself on every report of
the command path. -/
theorem obdhIngest_rec (H : ExitSafeHook υ) (b : Bus υ) (pkt : Option Bytes) :
    obdhIngest H b pkt = obdhIngestBody H.call (obdhIngest H) b pkt := by
  rcases isTm_or_isTc pkt with h | ⟨p, rfl, h⟩
  · rw [obdhIngest_of_tm H b h, obdhIngestBody_of_tm h]
  · rw [obdhIngest, obdhIngestBody_of_tc h, obdhIngestBody_of_tc h]
    refine congrArg (Prod.mk _) (foldl_ingest_congr ?_ _)
    intro pkt hpkt b'
    exact (obdhIngest_of_tm H b' (isTm_of_report _ _ p pkt hpkt)).symm

/-! ## Steps -/

/-- What can happen to the router and its surroundings in one step. -/
inductive BusStep : Bus υ → Bus υ → Prop
  | user (b : Bus υ) (u : υ) : BusStep b { b with user := u }
  | telemetry (b : Bus υ) (pkt : Option Bytes) (h : IsTm pkt) : BusStep b (obdhIngestTm b pkt).2
  | dispatch (b : Bus υ) (p : Bytes) (h : IsTc p) : BusStep b (b.dispatched p)
  | uplink (b : Bus υ) (c : UplinkCtx) : BusStep b { b with obdh := { b.obdh with uplink := c } }
  | contact (b : Bus υ) (inContact : Bool) : BusStep b (obdhSetContact b inContact)
  | tick (b : Bus υ) : BusStep b (obdhTick b)
  | hkSeq (b : Bus υ) (n : U16) : BusStep b { b with obdh := { b.obdh with hkSeq := n } }

open Relation (ReflTransGen)

theorem TelemetryStep.uplink {b b' : Bus υ} (h : TelemetryStep b b') :
    b'.obdh.uplink = b.obdh.uplink := by
  cases h with
  | user u => rfl
  | ingest pkt h => exact (tmFrame_obdhIngestTm b h).uplink

theorem uplink_of_steps {b b' : Bus υ}
    (h : ReflTransGen TelemetryStep b b') : b'.obdh.uplink = b.obdh.uplink := by
  induction h with
  | refl => rfl
  | tail _ hstep ih => exact hstep.uplink.trans ih

/-- The steps that leave the clock and the contact state alone. -/
inductive QuietStep : Bus υ → Bus υ → Prop
  | user (b : Bus υ) (u : υ) : QuietStep b { b with user := u }
  | telemetry (b : Bus υ) (pkt : Option Bytes) (h : IsTm pkt) : QuietStep b (obdhIngestTm b pkt).2
  | dispatch (b : Bus υ) (p : Bytes) (h : IsTc p) : QuietStep b (b.dispatched p)
  | uplink (b : Bus υ) (c : UplinkCtx) : QuietStep b { b with obdh := { b.obdh with uplink := c } }
  | hkSeq (b : Bus υ) (n : U16) : QuietStep b { b with obdh := { b.obdh with hkSeq := n } }

theorem QuietStep.busStep {b b' : Bus υ} (h : QuietStep b b') : BusStep b b' := by
  cases h with
  | user u => exact .user b u
  | telemetry pkt h => exact .telemetry b pkt h
  | dispatch p h => exact .dispatch b p h
  | uplink c => exact .uplink b c
  | hkSeq n => exact .hkSeq b n

theorem steps_of_quiet {b b' : Bus υ} (h : ReflTransGen QuietStep b b') :
    ReflTransGen BusStep b b' :=
  Relation.ReflTransGen.mono (fun _ _ hstep => hstep.busStep) _ _ h

theorem TelemetryStep.quiet {b b' : Bus υ} (h : TelemetryStep b b') : QuietStep b b' := by
  cases h with
  | user u => exact .user b u
  | ingest pkt h => exact .telemetry b pkt h

theorem quiet_of_telemetry {b b' : Bus υ} (h : ReflTransGen TelemetryStep b b') :
    ReflTransGen QuietStep b b' :=
  Relation.ReflTransGen.mono (fun _ _ hstep => hstep.quiet) _ _ h

/-- The link, the contact state and the clock, which packets do not move. -/
structure SameLink (b b' : Bus υ) : Prop where
  link : b'.obdh.downlink = b.obdh.downlink
  contact : b'.obdh.inContact = b.obdh.inContact
  time : b'.obdh.onboardTime = b.obdh.onboardTime

theorem sameLink_obdhIngestTm (b : Bus υ) {pkt : Option Bytes} (h : IsTm pkt) :
    SameLink b (obdhIngestTm b pkt).2 := by
  have hout := obdhIngestTm_outcome b h
  generalize obdhIngestTm b pkt = r at hout ⊢
  cases hout with
  | malformed | unknown | response | downlink => exact ⟨rfl, rfl, rfl⟩
  | store p i => cases i <;> exact ⟨rfl, rfl, rfl⟩

theorem QuietStep.sameLink {b b' : Bus υ} (h : QuietStep b b') : SameLink b b' := by
  cases h with
  | user | dispatch | uplink | hkSeq => exact ⟨rfl, rfl, rfl⟩
  | telemetry pkt hpkt => exact sameLink_obdhIngestTm b hpkt

theorem sameLink_of_quiet {b b' : Bus υ} (h : ReflTransGen QuietStep b b') : SameLink b b' := by
  induction h with
  | refl => exact ⟨rfl, rfl, rfl⟩
  | tail _ hstep ih =>
      obtain ⟨hlink, hcontact, htime⟩ := hstep.sameLink
      exact ⟨hlink.trans ih.link, hcontact.trans ih.contact, htime.trans ih.time⟩

theorem foldl_ingest_quiet {pkts : List Bytes} (h : ∀ pkt ∈ pkts, IsTm (some pkt)) (b : Bus υ) :
    ReflTransGen QuietStep b (pkts.foldl (fun b pkt => (obdhIngestTm b (some pkt)).2) b) := by
  induction pkts generalizing b with
  | nil => exact .refl
  | cons pkt pkts ih =>
      refine .head (.telemetry b (some pkt) (h pkt List.mem_cons_self)) ?_
      exact ih (fun pkt hpkt => h pkt (List.mem_cons_of_mem _ hpkt)) _

/-- **An ingest is a sequence of quiet steps**, however deep its re-entrance. -/
theorem obdhIngest_quiet (H : ExitSafeHook υ) (b : Bus υ) (pkt : Option Bytes) :
    ReflTransGen QuietStep b (obdhIngest H b pkt).2 := by
  rcases isTm_or_isTc pkt with h | ⟨p, rfl, h⟩
  · rw [obdhIngest_of_tm H b h]
    exact .single (.telemetry b pkt h)
  · rw [obdhIngest, obdhIngestBody_of_tc h]
    set r := (b.dispatched p).handleTc H.call p with hr
    have hworld : ReflTransGen QuietStep (b.dispatched p) r.2.world := by
      rcases uplinkHandleTc_world (busHook H.call) _ (some p) with hw | ⟨c, hw⟩
      · rw [hr, Bus.handleTc, hw]
      · rw [hr, Bus.handleTc, hw]
        refine .head (.uplink _ c) ?_
        exact quiet_of_telemetry (H.telemetry _)
    refine .head (.dispatch b p h) (hworld.trans (.head (.uplink _ r.2.ctx) ?_))
    exact foldl_ingest_quiet (isTm_of_report _ _ p) _

/-! ## Draining -/

@[simp] theorem store_setStore_self (c : ObdhCtx) (i : StoreId) (s : Store) :
    (c.setStore i s).store i = s := by
  cases i <;> rfl

theorem store_setStore_ne (c : ObdhCtx) {i j : StoreId} (h : j ≠ i) (s : Store) :
    (c.setStore i s).store j = c.store j := by
  cases i <;> cases j <;> first | rfl | exact absurd rfl h

/-- `b` after the packets `q` of store `i` have been delivered, with `s` the store
that is left. -/
def Bus.drainedTo (b : Bus υ) (i : StoreId) (q : List Bytes) (s : Store) : Bus υ :=
  { b with
    obdh := { b.obdh.setStore i s with
      nDownlinked := b.obdh.nDownlinked + (q.length : U32) }
    ground := if b.obdh.downlink then b.ground ++ q else b.ground
    drained := b.drained ++ q }

/-- One round of the loop, then the rest. -/
theorem drainedTo_cons (b : Bus υ) (i : StoreId) (pkt : Bytes) (q : List Bytes) (s s' : Store) :
    (deliver { b with
      obdh := b.obdh.setStore i s'
      drained := b.drained ++ [pkt] } pkt).drainedTo i q s = b.drainedTo i (pkt :: q) s := by
  have hcount : b.obdh.nDownlinked + 1 + (q.length : U32)
      = b.obdh.nDownlinked + ((pkt :: q).length : U32) := by
    rw [List.length_cons, Nat.cast_succ]
    ring
  unfold Bus.drainedTo deliver
  cases i <;> cases hlink : b.obdh.downlink <;>
    simp only [ObdhCtx.setStore, hlink, hcount, if_true, Bool.false_eq_true, if_false,
      List.append_assoc, List.singleton_append]

theorem drainLoop_spec {q : List Bytes} {fuel : ℕ} (hfuel : q.length ≤ fuel) {b : Bus υ}
    {i : StoreId} (hq : (b.obdh.store i).packets = q) :
    ∃ s : Store, s.packets = [] ∧ s.1.dropped = (b.obdh.store i).1.dropped ∧
      drainLoop fuel b i = b.drainedTo i q s := by
  induction q generalizing b fuel with
  | nil =>
      refine ⟨b.obdh.store i, hq, rfl, ?_⟩
      have hstay : b.drainedTo i [] (b.obdh.store i) = b := by
        cases i <;> simp [Bus.drainedTo, ObdhCtx.setStore, ObdhCtx.store]
      rw [hstay]
      cases fuel with
      | zero => rfl
      | succ fuel => rw [drainLoop, Store.get_of_nil hq]
  | cons pkt q ih =>
      cases fuel with
      | zero => exact absurd hfuel (Nat.not_succ_le_zero _)
      | succ fuel =>
          obtain ⟨hget, hrest, hdrop⟩ := Store.get_of_cons hq
          have hpair : (b.obdh.store i).get = (some pkt, (b.obdh.store i).get.2) :=
            Prod.ext hget rfl
          rw [drainLoop, hpair]
          set b' := deliver { b with
            obdh := b.obdh.setStore i (b.obdh.store i).get.2
            drained := b.drained ++ [pkt] } pkt with hb'
          have hstore : b'.obdh.store i = (b.obdh.store i).get.2 :=
            store_setStore_self b.obdh i _
          obtain ⟨s, hs, hsdrop, hloop⟩ := ih (Nat.le_of_succ_le_succ hfuel) (by rw [hstore, hrest])
          refine ⟨s, hs, ?_, hloop.trans (drainedTo_cons b i pkt q s _)⟩
          rw [hsdrop, hstore, hdrop]

/-- **A drain empties its store** into the downlink, oldest packet first. -/
theorem drain_spec (b : Bus υ) (i : StoreId) :
    ∃ s : Store, s.packets = [] ∧ s.1.dropped = (b.obdh.store i).1.dropped ∧
      drain b i = b.drainedTo i (b.obdh.store i).packets s := by
  refine drainLoop_spec ?_ rfl
  rw [Store.length_packets]
  exact (b.obdh.store i).2.count_le.trans (Nat.le_succ _)

/-! ## Contact -/

/-- Asserting the contact state that already holds delivers and changes nothing. -/
theorem obdhSetContact_same (b : Bus υ) : obdhSetContact b b.obdh.inContact = b := by
  have hnot : (!b.obdh.inContact && b.obdh.inContact) = false := by
    cases b.obdh.inContact <;> rfl
  simp only [obdhSetContact, hnot, Bool.false_eq_true, if_false]

theorem obdhSetContact_leave (b : Bus υ) :
    obdhSetContact b false = { b with obdh := { b.obdh with inContact := false } } := by
  simp only [obdhSetContact, Bool.and_false, Bool.false_eq_true, if_false]

/-- **Entering contact**: the events go down before the housekeeping, and both
stores are left empty. -/
theorem obdhSetContact_enter {b : Bus υ} (h : b.obdh.inContact = false) :
    ∃ sev shk : Store, sev.packets = [] ∧ shk.packets = [] ∧
      sev.1.dropped = (b.obdh.store .ev).1.dropped ∧
      shk.1.dropped = (b.obdh.store .hk).1.dropped ∧
      obdhSetContact b true =
        ({ b with obdh := { b.obdh with inContact := true } }.drainedTo .ev
          (b.obdh.store .ev).packets sev).drainedTo .hk (b.obdh.store .hk).packets shk := by
  set b₀ : Bus υ := { b with obdh := { b.obdh with inContact := true } } with hb₀
  obtain ⟨sev, hev, hevdrop, hdrain⟩ := drain_spec b₀ .ev
  obtain ⟨shk, hhk, hhkdrop, hdrain'⟩ := drain_spec (drain b₀ .ev) .hk
  have hkeep : (drain b₀ .ev).obdh.store .hk = b.obdh.store .hk := by
    rw [hdrain]
    rfl
  rw [hkeep] at hhkdrop hdrain'
  refine ⟨sev, shk, hev, hhk, hevdrop, hhkdrop, ?_⟩
  unfold obdhSetContact
  rw [h]
  exact hdrain'.trans (congrArg (fun b' : Bus υ =>
    b'.drainedTo .hk (b.obdh.store .hk).packets shk) hdrain)

/-- What a change of contact state does, and what it leaves alone. -/
structure ContactFrame (b : Bus υ) (inContact : Bool) (b' : Bus υ) : Prop where
  user : b'.user = b.user
  uplink : b'.obdh.uplink = b.obdh.uplink
  ingested : b'.ingested = b.ingested
  link : b'.obdh.downlink = b.obdh.downlink
  time : b'.obdh.onboardTime = b.obdh.onboardTime
  contact : b'.obdh.inContact = inContact
  packets : ∀ i, (b'.obdh.store i).packets =
    if !b.obdh.inContact && inContact then [] else (b.obdh.store i).packets
  dropped : ∀ i, (b'.obdh.store i).1.dropped = (b.obdh.store i).1.dropped
  ground : b'.ground = b.ground ++
    if (!b.obdh.inContact && inContact) && b.obdh.downlink then
      b.obdh.evStore.packets ++ b.obdh.hkStore.packets
    else []

theorem obdhSetContact_frame (b : Bus υ) (inContact : Bool) :
    ContactFrame b inContact (obdhSetContact b inContact) := by
  cases inContact with
  | false =>
      rw [obdhSetContact_leave]
      refine ⟨rfl, rfl, rfl, rfl, rfl, rfl, fun i => ?_, fun i => ?_, ?_⟩
      · cases i <;> simp [ObdhCtx.store]
      · cases i <;> rfl
      · simp
  | true =>
      cases hwas : b.obdh.inContact with
      | true =>
          have hsame := obdhSetContact_same b
          rw [hwas] at hsame
          rw [hsame]
          exact ⟨rfl, rfl, rfl, rfl, rfl, hwas, by simp [hwas], fun i => rfl, by simp [hwas]⟩
      | false =>
          obtain ⟨sev, shk, hev, hhk, hevdrop, hhkdrop, henter⟩ := obdhSetContact_enter hwas
          rw [henter]
          refine ⟨rfl, rfl, rfl, rfl, rfl, rfl, fun i => ?_, fun i => ?_, ?_⟩
          · rw [hwas]
            cases i with
            | ev => exact hev
            | hk => exact hhk
          · cases i with
            | ev => exact hevdrop
            | hk => exact hhkdrop
          · cases hlink : b.obdh.downlink <;>
              simp [Bus.drainedTo, ObdhCtx.setStore, ObdhCtx.store, hlink, hwas]

end Obdh
end SpacecraftFsw
