import SpacecraftFsw.Flight.TwoRuns

/-!
# The producers on board and the router

Events, command reports and two kinds of housekeeping are packed in three modules,
each with its own length, APID and sequence count, and judged by the router.

* `Routable` — what the router asks of a packet; `routable_tmPacket` is why every
  producer's packets have it.
* `EventsKept` — FDIR's events are routable and none is lost, kept by each step.
* `ingest_tc_delivers` — the reports of a command go down before its ingest returns.
* `Gapless` — the ground's command application packets are numbered without a gap.
* `producers_agree` — all of it, in every reachable state.
-/

namespace SpacecraftFsw
namespace Flight

open Tmtc Obdh Fdir
open Relation (ReflTransGen)

/-! ## Packets for the router -/

/-- Consistent telemetry of at most one slot's size that the router sends down or
stores, whatever its state. -/
structure Routable (p : Bytes) : Prop where
  consistent : Consistent p
  fits : p.length ≤ maxPkt
  routed : ∀ inContact, obdhRoute (ccsdsParsePrimary p).apid (ccsdsParsePrimary p).type inContact
    ∈ [ObdhDest.downlink, .store]
  accepted : ∀ b : Bus FdirMem, (fdirIngest b (some p)).1 ∈ [ObdhDest.downlink, .store]

/-- The APIDs of the producers. -/
def producerApids : List U16 := [ccsdsApidCmd, apidEvent, apidObdhHk, apidFdirHk]

/-- The result of an ingest of consistent telemetry is the route. -/
theorem fdirIngest_dest {p : Bytes} (hc : Consistent p) (b : Bus FdirMem) :
    (fdirIngest b (some p)).1 =
      obdhRoute (ccsdsParsePrimary p).apid (ccsdsParsePrimary p).type b.obdh.inContact := by
  rw [tmIngest_fdirIngest b _ (isTm_of_consistent hc), obdhIngestTm_consistent hc, hc.2.1,
    obdhRoute_eq hc]
  cases hclass : tmClass p with
  | some i => cases b.obdh.inContact <;> rfl
  | none =>
      by_cases hcmd : (ccsdsParsePrimary p).apid = ccsdsApidCmd
      · simp only [hcmd, if_true]
      · simp only [hcmd, if_false]

/-- **A telemetry packet of a producer is routable**, if its data fit. -/
theorem routable_tmPacket {apid : U16} (hapid : apid ∈ producerApids) (seq : U16)
    (service subtype : U8) {data : Bytes} (hlen : data.length ≤ 53) :
    Routable (tmPacket apid seq service subtype data) := by
  have hc : Consistent (tmPacket apid seq service subtype data) := by
    refine ⟨?_, tmPacket_type _ _ _ _ _, tmPacket_dataLength _ _ _ _ (by omega)⟩
    rw [length_tmPacket, ccsdsPriHdrLen]
    omega
  have hroute : ∀ inContact, obdhRoute
      (ccsdsParsePrimary (tmPacket apid seq service subtype data)).apid
      (ccsdsParsePrimary (tmPacket apid seq service subtype data)).type inContact
        ∈ [ObdhDest.downlink, .store] := by
    rw [tmPacket_apid, tmPacket_type]
    simp only [producerApids, List.mem_cons, List.not_mem_nil, or_false] at hapid
    rcases hapid with rfl | rfl | rfl | rfl <;> decide
  refine ⟨hc, ?_, hroute, ?_⟩
  · rw [length_tmPacket, maxPkt]
    omega
  · intro b
    rw [fdirIngest_dest hc]
    exact hroute b.obdh.inContact

/-! ## The producers -/

theorem routable_event (c : FdirCtx) (evt : U16) (sev : FdirSev) (worst : Health) :
    Routable (eventPacket c evt sev worst) := by
  refine routable_tmPacket ?_ _ _ _ ?_
  · simp [producerApids]
  · simp [eventPayload]

theorem routable_report (seq : U16) {r : Report} (hr : r.data.length ≤ 5) :
    Routable (r.packet seq) := by
  refine routable_tmPacket ?_ _ _ _ (by omega)
  simp [producerApids]

/-- Every report of the command path, for any bytes. -/
theorem routable_reports {ω : Type} (hook : Hook ω) (s : UplinkState ω) (buf : Option Bytes) :
    ∀ pkt ∈ (uplinkHandleTc hook s buf).2.out.reports, Routable pkt := by
  intro pkt hpkt
  obtain ⟨seq, r, hr, rfl⟩ := uplinkHandleTc_reports hook s buf pkt hpkt
  exact routable_report seq hr

theorem routable_obdhHk {b : Bus FdirMem} {cap : Option Size} {pkt : Bytes}
    (h : (obdhBuildHk b cap).1 = some pkt) : Routable pkt := by
  have hlen : (obdhHkPayload b.obdh).length = 14 := rfl
  unfold obdhBuildHk at h
  split at h
  · cases h
  · rename_i hpack
    rw [obdhPackTm_some (by omega) hpack] at h
    rw [← Option.some.inj h]
    refine routable_tmPacket ?_ _ _ _ (by omega)
    simp [producerApids]

theorem routable_fdirHk {b : Bus FdirMem} {cap : Option Size} {pkt : Bytes}
    (h : (fdirBuildHk b cap).1 = some pkt) : Routable pkt := by
  have hlen : (fdirHkPayload b.user.ctx).length = 10 := rfl
  simp only [fdirBuildHk] at h
  split at h
  · cases h
  · rename_i hpack
    rw [obdhPackTm_some (by omega) hpack] at h
    rw [← Option.some.inj h]
    refine routable_tmPacket ?_ _ _ _ (by omega)
    simp [producerApids]

/-! ## Events -/

/-- FDIR's events are routable, and none has been lost. -/
structure EventsKept (m : FdirMem) : Prop where
  routable : ∀ p ∈ m.events, Routable p
  lost : m.ctx.nEventLost = 0

theorem EventsKept.step {b b' : Bus FdirMem} (h : EventsKept b.user) (hs : EventStep b b') :
    EventsKept b'.user := by
  cases hs with
  | own u hevents hlost =>
      refine ⟨?_, hlost.trans h.lost⟩
      rw [hevents]
      exact h.routable
  | emit evt sev worst =>
      rw [(tmFrame_obdhIngestTm _ (isTm_eventPacket _ _ _ _)).user]
      refine ⟨?_, h.lost⟩
      intro p hp
      rw [FdirMem.emit_events] at hp
      rcases List.mem_append.1 hp with hp | hp
      · exact h.routable p hp
      · rw [List.mem_singleton.1 hp]
        exact routable_event _ _ _ _

theorem eventsKept_of_events {b b' : Bus FdirMem} (hs : ReflTransGen EventStep b b')
    (h : EventsKept b.user) : EventsKept b'.user := by
  induction hs with
  | refl => exact h
  | tail _ hstep ih => exact ih.step hstep

/-- The command path leaves FDIR and the router as its hook does, or as they were. -/
theorem world_events (b : Bus FdirMem) (p : Bytes) :
    ∃ c, ReflTransGen EventStep { b with obdh := { b.obdh with uplink := c } }
      (b.handleTc fdirHook.call p).2.world := by
  rcases uplinkHandleTc_world (busHook fdirHook.call) ⟨b.obdh.uplink, TmOut.blank, b⟩ (some p)
    with hworld | ⟨c, hworld⟩
  · refine ⟨b.obdh.uplink, ?_⟩
    rw [Bus.handleTc, hworld]
  · refine ⟨c, ?_⟩
    rw [Bus.handleTc, hworld]
    exact fdirExitSafe_events (fun _ _ _ => rfl) _

/-- **One operation of the system.** -/
theorem eventsKept_vehicleOp {v : Vehicle} (h : EventsKept v.fdir) (op : VehicleOp) :
    EventsKept (vehicleOp v op).fdir := by
  cases op with
  | ingest pkt =>
      simp only [vehicleOp, Vehicle.fdir]
      rcases isTm_or_isTc pkt with htm | ⟨p, rfl, htc⟩
      · rw [tmIngest_fdirIngest v.bus pkt htm, (tmFrame_obdhIngestTm v.bus htm).user]
        exact h
      · obtain ⟨c, hsteps⟩ := world_events (v.bus.dispatched p) p
        have hend := eventsKept_of_events hsteps h
        rw [fdirIngest, (tmFrame_tc fdirHook v.bus htc).user]
        exact hend
  | setContact inContact =>
      simp only [vehicleOp, Vehicle.fdir, (obdhSetContact_frame v.bus inContact).user]
      exact h
  | obdhHk cap =>
      simp only [vehicleOp, Vehicle.fdir, (obdhBuildHk_frame v.bus cap).2]
      exact h
  | fdirHk cap =>
      obtain ⟨n, hn⟩ := (fdirBuildHk_frame v.bus cap).2
      simp only [vehicleOp, Vehicle.fdir, hn]
      exact ⟨h.routable, h.lost⟩
  | tick | kick id => exact h
  | cycle readings =>
      have hsteps := fdirCycle_events tmIngest_fdirIngest v.bus readings v.watchdog
      exact eventsKept_of_events hsteps h

theorem eventsKept_run {v : Vehicle} (h : EventsKept v.fdir) (ops : List VehicleOp) :
    EventsKept (vehicleRun v ops).fdir :=
  Schedule.invariant_run (P := fun v : Vehicle => EventsKept v.fdir)
    (fun _ op h => eventsKept_vehicleOp h op) h ops

/-! ## Re-entrance -/

/-- **Two levels are all.**  Within an ingest the router is entered again with
telemetry only, so it does not matter what that second level would do with a hook or
a further call of its own. -/
theorem fdirIngest_two_levels (hook : Bus FdirMem → ℤ × Bus FdirMem) (self : Ingest)
    (b : Bus FdirMem) (pkt : Option Bytes) :
    fdirIngest b pkt = obdhIngestBody (fdirExitSafe (obdhIngestBody hook self))
      (obdhIngestBody hook self) b pkt := by
  have hinner : TmIngest (obdhIngestBody hook self) :=
    fun b pkt h => obdhIngestBody_of_tm h hook self b
  have hcall : fdirExitSafe (obdhIngestBody hook self) = fdirHook.call :=
    fdirExitSafe_congr hinner fun _ _ _ => rfl
  rw [hcall]
  rcases isTm_or_isTc pkt with h | ⟨p, rfl, h⟩
  · rw [tmIngest_fdirIngest b pkt h, obdhIngestBody_of_tm h]
  · rw [fdirIngest, obdhIngest, obdhIngestBody_of_tc h, obdhIngestBody_of_tc h]
    refine congrArg (Prod.mk _) (foldl_ingest_congr ?_ _)
    intro pkt hpkt b'
    exact (hinner b' _ (isTm_of_report _ _ p pkt hpkt)).symm

/-! ## Command reports -/

/-- `pkts` ingested and handed to the downlink, one after the other. -/
def downlinkAll (b : Bus FdirMem) (pkts : List Bytes) : Bus FdirMem :=
  pkts.foldl (fun b pkt => deliver (b.record (some pkt)) pkt) b

theorem ground_downlinkAll (b : Bus FdirMem) (pkts : List Bytes) :
    (downlinkAll b pkts).ground = b.ground ++ if b.obdh.downlink then pkts else [] := by
  induction pkts generalizing b with
  | nil => simp [downlinkAll]
  | cons pkt pkts ih =>
      rw [downlinkAll, List.foldl_cons, ← downlinkAll, ih]
      cases hlink : b.obdh.downlink <;> simp [deliver, Bus.record, hlink]

theorem obdh_downlinkAll (b : Bus FdirMem) (pkts : List Bytes) :
    (downlinkAll b pkts).obdh.uplink = b.obdh.uplink ∧
      (downlinkAll b pkts).obdh.downlink = b.obdh.downlink := by
  induction pkts generalizing b with
  | nil => exact ⟨rfl, rfl⟩
  | cons pkt pkts ih =>
      rw [downlinkAll, List.foldl_cons, ← downlinkAll]
      exact ih (deliver (b.record (some pkt)) pkt)

@[simp] theorem report_apid (seq : U16) (r : Report) :
    (ccsdsParsePrimary (r.packet seq)).apid = ccsdsApidCmd := by
  rw [Report.packet, tmPacket_apid]
  decide

/-- The router sends a report down, in or out of contact. -/
theorem obdhIngestTm_report (b : Bus FdirMem) (seq : U16) {r : Report}
    (hr : r.data.length ≤ 5) :
    obdhIngestTm b (some (r.packet seq)) =
      (.downlink, deliver (b.record (some (r.packet seq))) (r.packet seq)) := by
  have hc := (routable_report seq hr).consistent
  have hclass : tmClass (r.packet seq) = none := by
    rw [tmClass, if_neg (not_not.2 hc), report_apid]
    decide
  rw [obdhIngestTm_consistent hc, hclass]
  simp

/-- **Reports are never delayed or lost**: the ingest of a telecommand ends with its
reports handed to the downlink, in order. -/
theorem ingest_tc_delivers (b : Bus FdirMem) {p : Bytes} (h : IsTc p) :
    let r := (b.dispatched p).handleTc fdirHook.call p
    fdirIngest b (some p) = (.dispatch, downlinkAll (Bus.afterTc r) r.2.out.reports) := by
  intro r
  rw [fdirIngest, obdhIngest, obdhIngestBody_of_tc h]
  -- the router's answer to a report, for any packet
  let down : Ingest := fun b pkt => (.downlink, deliver (b.record pkt) (pkt.getD []))
  have hdown : ∀ pkt ∈ r.2.out.reports, ∀ b', obdhIngestTm b' (some pkt) = down b' (some pkt) := by
    intro pkt hpkt b'
    obtain ⟨seq, report, hr, rfl⟩ := uplinkHandleTc_reports _ _ _ pkt hpkt
    exact obdhIngestTm_report b' seq hr
  exact congrArg (Prod.mk _) (foldl_ingest_congr hdown _)

/-! ## The numbering of the command application -/

/-- What the ground has received on the command application's APID. -/
def commandPackets (b : Bus FdirMem) : List Bytes := b.downlinked (· = ccsdsApidCmd)

/-- No command report has passed between two states. -/
structure Silent (b b' : Bus FdirMem) : Prop where
  sent : commandPackets b' = commandPackets b
  uplink : b'.obdh.uplink = b.obdh.uplink
  link : b'.obdh.downlink = b.obdh.downlink

theorem Silent.trans {b b' b'' : Bus FdirMem} (h : Silent b b') (h' : Silent b' b'') :
    Silent b b'' :=
  ⟨h'.sent.trans h.sent, h'.uplink.trans h.uplink, h'.link.trans h.link⟩

/-- Telemetry of any other application is silent. -/
theorem silent_obdhIngestTm (b : Bus FdirMem) {pkt : Option Bytes} (h : IsTm pkt)
    (hother : ∀ p, pkt = some p → Consistent p → (ccsdsParsePrimary p).apid ≠ ccsdsApidCmd) :
    Silent b (obdhIngestTm b pkt).2 := by
  refine ⟨?_, (tmFrame_obdhIngestTm b h).uplink, (sameLink_obdhIngestTm b h).link⟩
  have hnone : ∀ p, pkt = some p → Consistent p → withApid (· = ccsdsApidCmd) [p] = [] := by
    intro p hp hc
    simp [withApid, hother p hp hc]
  have hout := obdhIngestTm_outcome b h
  generalize obdhIngestTm b pkt = r at hout ⊢
  cases hout with
  | malformed | unknown | store => rfl
  | response p hp hc | downlink p i hp hc =>
      rw [commandPackets, downlinked_deliver, hnone p hp hc, ite_self, List.append_nil]
      rfl

theorem silent_of_events {b b' : Bus FdirMem} (hs : ReflTransGen EventStep b b') :
    Silent b b' := by
  induction hs with
  | refl => exact ⟨rfl, rfl, rfl⟩
  | tail _ hstep ih =>
      refine ih.trans ?_
      cases hstep with
      | own u hevents hlost => exact ⟨rfl, rfl, rfl⟩
      | emit evt sev worst =>
          rename_i c _
          have hsilent := silent_obdhIngestTm { c with user := c.user.emit evt sev worst }
            (isTm_eventPacket c.user.ctx evt sev worst) (by
              intro p hp _
              rw [← Option.some.inj hp, eventPacket, tmPacket_apid]
              decide)
          exact ⟨hsilent.sent, hsilent.uplink, hsilent.link⟩

/-- The ground has received the reports `rs` of the command application, numbered
from zero, and the next one continues the numbering. -/
structure Gapless (b : Bus FdirMem) (rs : List Report) : Prop where
  sent : commandPackets b = if b.obdh.downlink then numbered 0 rs else []
  next : b.obdh.uplink.tmSeq = seqNext^[rs.length] 0

theorem Gapless.silent {b b' : Bus FdirMem} {rs : List Report} (h : Gapless b rs)
    (hs : Silent b b') : Gapless b' rs := by
  constructor
  · rw [hs.sent, hs.link, h.sent]
  · rw [hs.uplink, h.next]

theorem withApid_numbered (seq : U16) (rs : List Report) :
    withApid (· = ccsdsApidCmd) (numbered seq rs) = numbered seq rs := by
  refine List.filter_eq_self.2 ?_
  intro p hp
  obtain ⟨seq', r, -, rfl⟩ := mem_numbered hp
  simp

/-- **A telecommand continues the numbering** with the reports it is answered by. -/
theorem Gapless.command {b : Bus FdirMem} {rs : List Report} (h : Gapless b rs) {p : Bytes}
    (hp : IsTc p) : ∃ more, Gapless (fdirIngest b (some p)).2 (rs ++ more) := by
  obtain ⟨more, hem, -, -⟩ := uplinkHandleTc_emitted (busHook fdirHook.call)
    ⟨(b.dispatched p).obdh.uplink, TmOut.blank, b.dispatched p⟩ (some p)
  obtain ⟨c, hsteps⟩ := world_events (b.dispatched p) p
  have hsilent := silent_of_events hsteps
  set r := (b.dispatched p).handleTc fdirHook.call p with hr
  have hreports : r.2.out.reports = numbered b.obdh.uplink.tmSeq more := hem.reports
  have hseq : r.2.ctx.tmSeq = seqNext^[more.length] b.obdh.uplink.tmSeq := hem.tmSeq
  have hsent : commandPackets r.2.world = commandPackets b := hsilent.sent
  have hlink : r.2.world.obdh.downlink = b.obdh.downlink := hsilent.link
  obtain ⟨huplink, hdown⟩ := obdh_downlinkAll (Bus.afterTc r) r.2.out.reports
  refine ⟨more, ?_, ?_⟩
  · rw [ingest_tc_delivers b hp, commandPackets, Bus.downlinked, ground_downlinkAll,
      withApid_append, hdown]
    change commandPackets r.2.world ++ _ = _
    rw [hsent, h.sent, show (Bus.afterTc r).obdh.downlink = b.obdh.downlink from hlink, hreports,
      numbered_append, ← h.next]
    cases b.obdh.downlink with
    | true => simp [withApid_numbered]
    | false => rfl
  · rw [ingest_tc_delivers b hp, huplink]
    change r.2.ctx.tmSeq = _
    rw [hseq, h.next, List.length_append, Nat.add_comm, Function.iterate_add_apply]

/-- An ingest that is not telemetry of the command application. -/
def VehicleOp.notCommandTm : VehicleOp → Prop
  | .ingest (some p) => Consistent p → (ccsdsParsePrimary p).apid ≠ ccsdsApidCmd
  | _ => True

/-- **One operation of the system.** -/
theorem gapless_vehicleOp {v : Vehicle} (hclassed : Classed v.bus) {rs : List Report}
    (h : Gapless v.bus rs) {op : VehicleOp} (hop : op.notCommandTm) :
    ∃ more, Gapless (vehicleOp v op).bus (rs ++ more) := by
  have hsame : Silent v.bus (vehicleOp v op).bus →
      ∃ more, Gapless (vehicleOp v op).bus (rs ++ more) := by
    intro hs
    refine ⟨[], ?_⟩
    rw [List.append_nil]
    exact h.silent hs
  cases op with
  | ingest pkt =>
      rcases isTm_or_isTc pkt with htm | ⟨p, rfl, htc⟩
      · refine hsame ?_
        rw [vehicleOp, tmIngest_fdirIngest v.bus pkt htm]
        refine silent_obdhIngestTm v.bus htm ?_
        rintro p rfl
        exact hop
      · exact h.command htc
  | setContact inContact =>
      have hframe := obdhSetContact_frame v.bus inContact
      refine hsame ⟨?_, hframe.uplink, hframe.link⟩
      rw [vehicleOp, commandPackets, downlinked_contact]
      have hstored : ∀ i, withApid (· = ccsdsApidCmd) (v.bus.obdh.store i).packets = [] :=
        fun i => withApid_eq_nil (unwanted_command i) (hclassed.stored i)
      have hev := hstored .ev
      have hhk := hstored .hk
      simp only [ObdhCtx.store] at hev hhk
      simp [commandPackets, hev, hhk]
  | tick => exact hsame ⟨rfl, rfl, rfl⟩
  | obdhHk cap =>
      obtain ⟨n, hn⟩ := obdhBuildHk_hkSeq v.bus cap
      refine hsame ?_
      rw [vehicleOp, hn]
      exact ⟨rfl, rfl, rfl⟩
  | fdirHk cap =>
      refine hsame ?_
      simp only [vehicleOp, fdirBuildHk]
      split <;> exact ⟨rfl, rfl, rfl⟩
  | kick id => exact hsame ⟨rfl, rfl, rfl⟩
  | cycle readings =>
      exact hsame (silent_of_events
        (fdirCycle_events tmIngest_fdirIngest v.bus readings v.watchdog))

theorem gapless_run {v : Vehicle} (hclassed : Classed v.bus) {rs : List Report}
    (h : Gapless v.bus rs) {ops : List VehicleOp} (hops : ∀ op ∈ ops, op.notCommandTm) :
    ∃ more, Gapless (vehicleRun v ops).bus (rs ++ more) := by
  induction ops generalizing v rs with
  | nil => exact ⟨[], by rwa [List.append_nil]⟩
  | cons op ops ih =>
      obtain ⟨more, hhead⟩ := gapless_vehicleOp hclassed h (hops op List.mem_cons_self)
      obtain ⟨rest, hrest⟩ := ih (hclassed.steps (vehicleOp_steps v op)) hhead
        fun op' hop' => hops op' (List.mem_cons_of_mem _ hop')
      refine ⟨more ++ rest, ?_⟩
      rw [← List.append_assoc]
      exact hrest

theorem getElem_numbered (seq : U16) (rs : List Report) {i : ℕ}
    (hi : i < (numbered seq rs).length) :
    ∃ r : Report, (numbered seq rs)[i] = r.packet (seqNext^[i] seq) := by
  induction rs generalizing seq i with
  | nil => simp [numbered] at hi
  | cons r rs ih =>
      cases i with
      | zero => exact ⟨r, rfl⟩
      | succ i =>
          obtain ⟨r', hr'⟩ := ih (seqNext seq) (by simpa [numbered] using hi)
          exact ⟨r', by rw [Function.iterate_succ_apply, ← hr']; rfl⟩

theorem toNat_iterate_seqNext (i : ℕ) : (seqNext^[i] 0).toNat = i % 16384 := by
  induction i with
  | zero => rfl
  | succ i ih =>
      rw [Function.iterate_succ_apply', seqNext_toNat, ih]
      omega

/-- A report shows its number in both of its headers. -/
theorem report_counts (seq : U16) (hseq : seq.toNat < 16384) (r : Report) :
    (ccsdsParsePrimary (r.packet seq)).seqCount = seq ∧
      be16 (octet (r.packet seq) 9) (octet (r.packet seq) 10) = seq := by
  constructor
  · rw [Report.packet, tmPacket_seqCount, seqMask_of_lt hseq]
  · rw [Report.packet, tmPacket_counter]

/-! ## Every reachable state -/

/-- **Producers and router agree.**  In every reachable state `v` of the system:

* the events FDIR has emitted, the reports of the command path on any bytes, and the
  housekeeping packets either unit builds are routable, and no event was lost;
* an ingest enters the router again at most one level deep;
* an ingest of a telecommand hands the reports of the command path to the downlink,
  in order, before it returns;
* where no other telemetry of the command application has been ingested, the packets
  downlinked on its APID count 0, 1, 2, ... modulo 16384, in both of their headers. -/
theorem producers_agree (downlink inContact : Bool) (hooks : Option FdirHooks)
    (confirmCycles : U8) (w : Watchdog) (s : SpacecraftState) (ops : List VehicleOp) :
    let v := vehicleRun (vehicleInit downlink inContact hooks confirmCycles w s) ops
    (v.fdir.ctx.nEventLost = 0 ∧ (∀ p ∈ v.fdir.events, Routable p) ∧
      (∀ buf, ∀ p ∈ (uplinkHandleTc (busHook fdirHook.call)
        ⟨v.bus.obdh.uplink, TmOut.blank, v.bus⟩ buf).2.out.reports, Routable p) ∧
      (∀ cap p, (obdhBuildHk v.bus cap).1 = some p → Routable p) ∧
      ∀ cap p, (fdirBuildHk v.bus cap).1 = some p → Routable p) ∧
    (∀ hook self pkt, fdirIngest v.bus pkt =
      obdhIngestBody (fdirExitSafe (obdhIngestBody hook self)) (obdhIngestBody hook self)
        v.bus pkt) ∧
    (∀ p, IsTc p →
      let r := (v.bus.dispatched p).handleTc fdirHook.call p
      fdirIngest v.bus (some p) = (.dispatch, downlinkAll (Bus.afterTc r) r.2.out.reports) ∧
        (fdirIngest v.bus (some p)).2.ground = r.2.world.ground ++
          if r.2.world.obdh.downlink then r.2.out.reports else []) ∧
    ((∀ op ∈ ops, op.notCommandTm) → ∀ i (hi : i < (commandPackets v.bus).length),
      (ccsdsParsePrimary (commandPackets v.bus)[i]).seqCount.toNat = i % 16384 ∧
        (be16 (octet (commandPackets v.bus)[i] 9)
          (octet (commandPackets v.bus)[i] 10)).toNat = i % 16384) := by
  intro v
  have hevents : EventsKept v.fdir := by
    have hstart : EventsKept
        (vehicleInit downlink inContact hooks confirmCycles w s).fdir := by
      refine ⟨?_, rfl⟩
      intro p hp
      cases hp
    exact eventsKept_run hstart ops
  refine ⟨⟨hevents.lost, hevents.routable, routable_reports _ _,
    fun cap p h => routable_obdhHk h, fun cap p h => routable_fdirHk h⟩,
    fun hook self pkt => fdirIngest_two_levels hook self v.bus pkt, ?_, ?_⟩
  · intro p hp r
    have hend : fdirIngest v.bus (some p) = _ := ingest_tc_delivers v.bus hp
    refine ⟨hend, ?_⟩
    rw [hend]
    exact ground_downlinkAll (Bus.afterTc r) r.2.out.reports
  · intro hops i hi
    have hclassed := classed_vehicleInit downlink inContact hooks confirmCycles w s
    have hstart : Gapless (vehicleInit downlink inContact hooks confirmCycles w s).bus [] := by
      refine ⟨?_, rfl⟩
      cases downlink <;> rfl
    obtain ⟨more, hall⟩ := gapless_run hclassed hstart hops
    have hsent := hall.sent
    cases hlink : v.bus.obdh.downlink with
    | false =>
        rw [show (vehicleRun _ ops).bus.obdh.downlink = false from hlink] at hsent
        have hnil : commandPackets v.bus = [] := hsent
        simp [hnil] at hi
    | true =>
        rw [show (vehicleRun _ ops).bus.obdh.downlink = true from hlink] at hsent
        have hlog : commandPackets v.bus = numbered 0 ([] ++ more) := hsent
        have hlt : i < (numbered 0 ([] ++ more)).length := by rwa [← hlog]
        obtain ⟨r, hr⟩ := getElem_numbered 0 ([] ++ more) hlt
        have hget : (commandPackets v.bus)[i] = r.packet (seqNext^[i] 0) := by
          rw [← hr]
          simp only [hlog]
        have hseq := toNat_iterate_seqNext i
        have hbound : (seqNext^[i] 0).toNat < 16384 := by omega
        obtain ⟨hcount, hcounter⟩ := report_counts (seqNext^[i] 0) hbound r
        rw [hget, hcount, hcounter]
        exact ⟨hseq, hseq⟩

/-- Two malformed telecommands, out of contact: two reports on the ground. -/
theorem producers_agree_two_rejections :
    let tc : VehicleOp := .ingest (some [0x18, 0x65, 0xC0, 0x00, 0x00, 0x00])
    let w : Watchdog := ⟨Vector.replicate nTasks 0, Vector.replicate nTasks 0⟩
    let v := vehicleRun (vehicleInit true false none 2 w ⟨0, 0, 0, 0, .boot⟩) [tc, tc]
    ∃ hi : 1 < (commandPackets v.bus).length,
      (ccsdsParsePrimary (commandPackets v.bus)[1]).seqCount.toNat = 1 := by
  intro tc w v
  have hi : 1 < (commandPackets v.bus).length := by decide +kernel
  have hops : ∀ op ∈ [tc, tc], op.notCommandTm := by
    intro op hop
    have htc : op = tc := by simpa using hop
    rw [htc]
    exact fun hc => absurd hc (by decide +kernel)
  exact ⟨hi, ((producers_agree true false none 2 w ⟨0, 0, 0, 0, .boot⟩ [tc, tc]).2.2.2
    hops 1 hi).1⟩

end Flight
end SpacecraftFsw
