import SpacecraftFsw.Obdh.Router
import SpacecraftFsw.Tmtc.Bounds

/-!
# Accesses of the store and the router

`store_put_at`, `store_get_at`, `drain` and `obdh_ingest` with a check at every
access, as in `Tmtc.Bounds`: a slot of the ring, the octets copied in or out of it,
the buffer `drain` copies to, a report read back from the command path.

* `storePutAt?_eq`, `storeGetAt?_eq` — a store with its invariant stays in range.
* `drain?_eq` — a stored packet fits the buffer of `drain`.
* `obdhIngestBody?_of_tm`, `obdhIngestBody?_of_tc` — the router, for telemetry and
  for telecommands.
-/

namespace SpacecraftFsw
namespace Obdh

open Tmtc Access

/-! ## The store -/

/-- `memcpy(s->slot[i], src, n)`: the slot afterwards. -/
def PacketStore.fill? (s : PacketStore) (i : ℕ) (src : Bytes) (n : ℕ) : Option Bytes := do
  let slot ← s.slot[i]?
  let octets ← slice src 0 n
  if n ≤ maxPkt then some (memcpy slot octets) else none

/-- `memcpy(out, s->slot[i], n)` into a buffer of `cap` octets: the buffer afterwards. -/
def PacketStore.copyOut? (s : PacketStore) (i : ℕ) (cap : ℕ) (out : Bytes) (n : ℕ) :
    Option Bytes := do
  let slot ← s.slot[i]?
  let octets ← slice slot 0 n
  if n ≤ maxPkt ∧ n ≤ cap then some (memcpy out octets) else none

/-- The last assignments of `store_put_at`. -/
def PacketStore.writeHead? (s : PacketStore) (b : Bytes) (stamp : U32) : Option PacketStore := do
  let slot ← s.fill? s.head b b.length
  return { s with
    slot := s.slot.setIfInBounds s.head slot
    len := s.len.setIfInBounds s.head b.length
    stamp := s.stamp.setIfInBounds s.head stamp
    head := (s.head + 1) % storeCap
    count := s.count + 1 }

/-- `store_put_at`. -/
def storePutAt? (s : PacketStore) (pkt : Option Bytes) (stamp : U32) :
    Option (StoreResult × PacketStore) :=
  match pkt with
  | none => some (.rejected, s)
  | some b =>
    if b.length = 0 then some (.rejected, s)
    else if b.length > maxPkt then some (.rejected, { s with dropped := s.dropped + 1 })
    else do
      let (result, s) :=
        if s.count = storeCap then (.overwrote, { s.dropFront with dropped := s.dropped + 1 })
        else (.ok, s)
      let s ← s.writeHead? b stamp
      return (result, s)

/-- `store_get_at`, into a buffer of `cap` octets. -/
def storeGetAt? (cap : ℕ) (s : PacketStore) (a : GetArgs) :
    Option (Bool × GetArgs × PacketStore) :=
  if s.count = 0 then some (false, a, s)
  else do
    let n ← s.len[s.tail]?
    let out ← s.copyOut? s.tail cap a.out n
    let stamp ← s.stamp[s.tail]?
    return (true, ⟨out, n, a.stamp.map fun _ => stamp⟩, s.dropFront)

section Store

variable {s : PacketStore}

theorem writeHead?_eq (hhead : s.head < storeCap) {b : Bytes} (hmax : b.length ≤ maxPkt) (t : U32) :
    s.writeHead? b t = some (s.writeHead b t) := by
  have hsrc : slice b 0 b.length = some b := by
    rw [slice_zero le_rfl, List.take_length]
  simp only [PacketStore.writeHead?, PacketStore.writeHead, PacketStore.fill?, hsrc, hmax, if_true,
    Vector.getElem?_eq_getElem hhead, Option.getD_some, Option.bind_eq_bind, Option.bind_some]
  rfl

/-- **A put stays in range**: the head is a slot, and an oversized packet is refused
before it is copied. -/
theorem storePutAt?_eq (h : s.Inv) (pkt : Option Bytes) (t : U32) :
    storePutAt? s pkt t = some (storePutAt s pkt t) := by
  cases pkt with
  | none => rfl
  | some b =>
      by_cases hzero : b.length = 0
      · simp only [storePutAt?, storePutAt, hzero, if_true]
      by_cases hmax : b.length > maxPkt
      · simp only [storePutAt?, storePutAt, hzero, hmax, if_true, if_false]
      simp only [storePutAt?, storePutAt, hzero, hmax, if_false]
      by_cases hfull : s.count = storeCap
      · simp only [hfull, if_true]
        rw [writeHead?_eq (s := { s.dropFront with dropped := s.dropped + 1 }) h.head_lt
          (not_lt.1 hmax)]
        rfl
      · simp only [hfull, if_false]
        rw [writeHead?_eq h.head_lt (not_lt.1 hmax)]
        rfl

/-- Without the invariant the check fails: here the head is not a slot. -/
example : storePutAt? { storeInit with head := 16 } (some [0]) 0 = none := rfl

/-- **A get stays in range**, when the caller's buffer holds a packet of full size. -/
theorem storeGetAt?_eq (h : s.Inv) {cap : ℕ} (hcap : maxPkt ≤ cap) (a : GetArgs) :
    storeGetAt? cap s a = some (storeGetAt s a) := by
  by_cases hc : s.count = 0
  · simp only [storeGetAt?, storeGetAt, hc, if_true]
  · have hslot := h.occupied 0 (Nat.pos_of_ne_zero hc)
    rw [Nat.add_zero, Nat.mod_eq_of_lt h.tail_lt] at hslot
    obtain ⟨hlen, -, hmax⟩ := hslot
    rw [Vector.getElem?_eq_getElem h.tail_lt, Option.getD_some] at hlen hmax
    rw [Vector.getElem?_eq_getElem h.tail_lt, Option.getD_some] at hlen
    simp only [storeGetAt?, storeGetAt, hc, if_false, PacketStore.copyOut?,
      Vector.getElem?_eq_getElem h.tail_lt, Option.getD_some, Option.bind_eq_bind,
      Option.bind_some, slice_zero hlen, hmax, hmax.trans hcap, and_self, if_true]
    rfl

/-- A put leaves a store with its invariant. -/
theorem inv_of_storePutAt? (h : s.Inv) {pkt : Option Bytes} {t : U32}
    {r : StoreResult × PacketStore} (hr : storePutAt? s pkt t = some r) : r.2.Inv := by
  rw [storePutAt?_eq h] at hr
  exact Option.some.inj hr ▸ (putAt_refines h pkt t).2.2

/-- So does a get. -/
theorem inv_of_storeGetAt? (h : s.Inv) {a : GetArgs} {r : Bool × GetArgs × PacketStore}
    (hr : storeGetAt? maxPkt s a = some r) : r.2.2.Inv := by
  rw [storeGetAt?_eq h le_rfl] at hr
  exact Option.some.inj hr ▸ (getAt_refines h a).2.2.2

end Store

/-- `store_put_at`, for its effect. -/
def Store.putAt? (s : Store) (b : Bytes) (t : U32) : Option Store :=
  (storePutAt? s.1 (some b) t).pmap (fun r hr => ⟨r.2, hr⟩) fun _ hr => inv_of_storePutAt? s.2 hr

/-- `store_get` into a buffer of `MAX_PKT` octets. -/
def Store.get? (s : Store) (a : GetArgs) : Option (Bool × GetArgs × Store) :=
  (storeGetAt? maxPkt s.1 a).pmap (fun r hr => (r.1, r.2.1, ⟨r.2.2, hr⟩))
    fun _ hr => inv_of_storeGetAt? s.2 hr

theorem Store.putAt?_eq (s : Store) (b : Bytes) (t : U32) : s.putAt? b t = some (s.putAt b t) :=
  Option.pmap_eq_some_iff.2 ⟨_, _, storePutAt?_eq s.2 (some b) t, rfl⟩

/-- **A get through a caller's buffer**: either the store is empty, or the buffer holds
the packet, whatever it held before. -/
theorem Store.get?_cases (s : Store) (a : GetArgs) :
    (s.get? a = some (false, a, s) ∧ s.get = (none, s)) ∨
      ∃ a' pkt s', s.get? a = some (true, a', s') ∧ slice a'.out 0 a'.n = some pkt ∧
        s.get = (some pkt, s') := by
  have hget : s.get? a = some ((storeGetAt s.1 a).1, (storeGetAt s.1 a).2.1,
      ⟨(storeGetAt s.1 a).2.2, (getAt_refines s.2 a).2.2.2⟩) :=
    Option.pmap_eq_some_iff.2 ⟨_, _, storeGetAt?_eq s.2 le_rfl a, rfl⟩
  rw [hget]
  by_cases hc : s.1.count = 0
  · left
    simp only [Store.get, storeGet, storeGetAt_of_empty hc]
    exact ⟨trivial, rfl⟩
  · right
    have hslot := s.2.occupied 0 (Nat.pos_of_ne_zero hc)
    rw [Nat.add_zero, Nat.mod_eq_of_lt s.2.tail_lt] at hslot
    have hlen := hslot.length_entry
    rw [PacketStore.entry] at hlen
    simp only [Store.get, storeGet, storeGetAt, hc, if_false, if_true]
    refine ⟨_, _, _, rfl, ?_, rfl⟩
    rw [slice_zero]
    · simp only [memcpy, List.drop_nil, List.append_nil]
      rw [List.take_left' hlen]
    · rw [memcpy, List.length_append, hlen]
      exact Nat.le_add_right _ _

/-! ## Draining -/

variable {υ : Type}

/-- The loop of `drain`, for `fuel` packets; `a` is its buffer and its `n`. -/
def drainLoop? : ℕ → GetArgs → Bus υ → StoreId → Option (Bus υ)
  | 0, _, b, _ => some b
  | fuel + 1, a, b, i => do
    let (ok, a, s) ← (b.obdh.store i).get? a
    if ok then
      let pkt ← slice a.out 0 a.n
      drainLoop? fuel a
        (deliver { b with
          obdh := b.obdh.setStore i s
          drained := b.drained ++ [pkt] } pkt) i
    else return b

/-- `drain`. -/
def drain? (b : Bus υ) (i : StoreId) : Option (Bus υ) :=
  drainLoop? (storeCap + 1) ⟨[], 0, none⟩ b i

/-- `obdh_set_contact`. -/
def obdhSetContact? (b : Bus υ) (inContact : Bool) : Option (Bus υ) :=
  let was := b.obdh.inContact
  let b := { b with obdh := { b.obdh with inContact := inContact } }
  if !was && inContact then (drain? b .ev).bind fun b => drain? b .hk else some b

/-- Whatever the buffer held before, the packet delivered is the one in the store. -/
theorem drainLoop?_eq (fuel : ℕ) (a : GetArgs) (b : Bus υ) (i : StoreId) :
    drainLoop? fuel a b i = some (drainLoop fuel b i) := by
  induction fuel generalizing a b with
  | zero => rfl
  | succ fuel ih =>
      rw [drainLoop?, drainLoop]
      rcases (b.obdh.store i).get?_cases a with ⟨hget?, hget⟩ | ⟨a', pkt, s', hget?, hpkt, hget⟩
      · rw [hget?, hget]
        rfl
      · rw [hget?, hget]
        simp only [Option.bind_eq_bind, Option.bind_some, if_true, hpkt]
        exact ih a' _

theorem drain?_eq (b : Bus υ) (i : StoreId) : drain? b i = some (drain b i) :=
  drainLoop?_eq _ _ b i

/-- **Draining stays in range.** -/
theorem obdhSetContact?_eq (b : Bus υ) (inContact : Bool) :
    obdhSetContact? b inContact = some (obdhSetContact b inContact) := by
  simp only [obdhSetContact?, obdhSetContact, drain?_eq, Option.bind_some, apply_ite some]

/-! ## The router -/

/-- The exit-safe hook, with its accesses checked. -/
def busHook? (hook : Bus υ → Option (ℤ × Bus υ)) : Hook? (Bus υ) := fun ctx b =>
  hook { b with obdh := { b.obdh with uplink := ctx } }

/-- The reports of a command, sent back through the router one after the other. -/
def ingestReports? (self : Bus υ → Option Bytes → Option (ObdhDest × Bus υ)) (out : TmOut)
    (b : Bus υ) : Option (Bus υ) :=
  (List.range out.count).foldlM (fun b i => do
    let pkt ← out.report? i
    let r ← self b (some pkt)
    return r.2) b

/-- The body of `obdh_ingest`. -/
def obdhIngestBody? (hook : Bus υ → Option (ℤ × Bus υ))
    (self : Bus υ → Option Bytes → Option (ObdhDest × Bus υ)) (b : Bus υ) (pkt : Option Bytes) :
    Option (ObdhDest × Bus υ) :=
  let b := { b with ingested := b.ingested ++ [pkt] }
  match pkt with
  | none =>
    some (.drop, { b with obdh := { b.obdh with nDropMalformed := b.obdh.nDropMalformed + 1 } })
  | some p =>
    if p.length < ccsdsPriHdrLen then
      some (.drop, { b with obdh := { b.obdh with nDropMalformed := b.obdh.nDropMalformed + 1 } })
    else do
      let h ← ccsdsParsePrimary? p
      if h.type = 0 ∧ h.dataLength.toNat + 1 + ccsdsPriHdrLen ≠ p.length then
        return (.drop, { b with obdh :=
          { b.obdh with nDropMalformed := b.obdh.nDropMalformed + 1 } })
      else
        let dest := obdhRoute h.apid h.type b.obdh.inContact
        match dest with
        | .downlink => return (dest, deliver b p)
        | .store =>
          let i := if h.apid = apidEvent then .ev else .hk
          let s ← (b.obdh.store i).putAt? p b.obdh.onboardTime
          let c := b.obdh.setStore i s
          return (dest, { b with obdh := { c with nStored := c.nStored + 1 } })
        | .dispatch =>
          let b := { b with obdh := { b.obdh with nDispatched := b.obdh.nDispatched + 1 } }
          let r ← uplinkHandleTc? (busHook? hook) ⟨b.obdh.uplink, TmOut.blank, b⟩ (some p)
          let b := { r.2.world with obdh := { r.2.world.obdh with uplink := r.2.ctx } }
          let b ← ingestReports? self r.2.out b
          return (dest, b)
        | .drop =>
          return (dest, { b with obdh := { b.obdh with nDropUnknown := b.obdh.nDropUnknown + 1 } })

/-- `obdh_ingest` of telemetry: no hook and no recursive call to make. -/
def obdhIngestTm? (b : Bus υ) (pkt : Option Bytes) : Option (ObdhDest × Bus υ) :=
  obdhIngestBody? (fun _ => none) (fun _ _ => none) b pkt

/-- **Telemetry stays in range**, and meets neither the hook nor a recursive call. -/
theorem obdhIngestBody?_of_tm {pkt : Option Bytes} (h : IsTm pkt)
    (hook : Bus υ → Option (ℤ × Bus υ)) (self : Bus υ → Option Bytes → Option (ObdhDest × Bus υ))
    (b : Bus υ) : obdhIngestBody? hook self b pkt = some (obdhIngestTm b pkt) := by
  cases pkt with
  | none => rfl
  | some p =>
      unfold obdhIngestTm obdhIngestBody? obdhIngestBody
      by_cases hlen : p.length < ccsdsPriHdrLen
      · simp only [hlen, if_true]
      · have htype := h p rfl (not_lt.1 hlen)
        simp only [hlen, if_false, ccsdsParsePrimary?_eq (not_lt.1 hlen), Option.bind_eq_bind,
          Option.bind_some, htype]
        split
        · rfl
        · cases hroute : obdhRoute (ccsdsParsePrimary p).apid 0 b.obdh.inContact with
          | dispatch => exact absurd hroute (obdhRoute_ne_dispatch _ _)
          | downlink => rfl
          | store =>
              simp only [Store.putAt?_eq]
              rfl
          | drop => rfl

theorem obdhIngestTm?_eq {pkt : Option Bytes} (h : IsTm pkt) (b : Bus υ) :
    obdhIngestTm? b pkt = some (obdhIngestTm b pkt) := obdhIngestBody?_of_tm h _ _ b

/-- The reports go back as they were written. -/
theorem ingestReports?_eq {out : TmOut} (hfilled : out.Filled)
    (htm : ∀ pkt ∈ out.reports, IsTm (some pkt)) (b : Bus υ) :
    ingestReports? obdhIngestTm? out b =
      some (out.reports.foldl (fun b pkt => (obdhIngestTm b (some pkt)).2) b) := by
  rw [ingestReports?, TmOut.reports, List.foldl_map]
  refine foldlM_eq (fun i hi b => ?_) b
  have hreport := hfilled.report?_eq (List.mem_range.1 hi)
  have hpkt := htm (out.report i) (List.mem_map_of_mem hi)
  simp only [hreport, obdhIngestTm?_eq hpkt, Option.bind_eq_bind, Option.bind_some]
  rfl

/-- The branch of the router that dispatches. -/
theorem obdhIngestBody?_of_tc {p : Bytes} (h : IsTc p) (hook : Bus υ → Option (ℤ × Bus υ))
    (self : Bus υ → Option Bytes → Option (ObdhDest × Bus υ)) (b : Bus υ) :
    obdhIngestBody? hook self b (some p) =
      (uplinkHandleTc? (busHook? hook)
        ⟨(b.dispatched p).obdh.uplink, TmOut.blank, b.dispatched p⟩ (some p)).bind fun r =>
          (ingestReports? self r.2.out (Bus.afterTc r)).bind fun b => some (.dispatch, b) := by
  obtain ⟨hlen, htype⟩ := h
  have hne : (1 : U8) ≠ 0 := by decide
  unfold obdhIngestBody?
  simp only [not_lt.2 hlen, if_false, ccsdsParsePrimary?_eq hlen, htype, hne, false_and,
    obdhRoute, if_true, Option.bind_eq_bind, Option.bind_some]
  rfl

/-- **The router stays in range**, for any bytes, with any hook that does. -/
theorem obdhIngestBody?_eq {hook? : Bus υ → Option (ℤ × Bus υ)} {hook : Bus υ → ℤ × Bus υ}
    (hhook : ∀ b, hook? b = some (hook b)) (b : Bus υ) (pkt : Option Bytes) :
    obdhIngestBody? hook? obdhIngestTm? b pkt = some (obdhIngestBody hook obdhIngestTm b pkt) := by
  rcases isTm_or_isTc pkt with htm | ⟨p, rfl, htc⟩
  · rw [obdhIngestBody_of_tm htm]
    exact obdhIngestBody?_of_tm htm hook? obdhIngestTm? b
  · have hbus : ∀ c b, busHook? hook? c b = some (busHook hook c b) :=
      fun c b => hhook { b with obdh := { b.obdh with uplink := c } }
    have hhandle := uplinkHandleTc?_eq hbus
      ⟨(b.dispatched p).obdh.uplink, TmOut.blank, b.dispatched p⟩ (some p)
    have hreports := ingestReports?_eq (filled_uplinkHandleTc _ _ _)
      (isTm_of_report hook (b.dispatched p) p) (Bus.afterTc ((b.dispatched p).handleTc hook p))
    rw [obdhIngestBody?_of_tc htc, obdhIngestBody_of_tc htc, hhandle, Option.bind_some]
    exact congrArg (fun o => Option.bind o fun b => some (ObdhDest.dispatch, b)) hreports

end Obdh
end SpacecraftFsw
