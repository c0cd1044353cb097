import SpacecraftFsw.Fdir.Grammar
import SpacecraftFsw.Flight.Producers

/-!
# Commands and everything else

What the ingest of a telecommand leaves behind, and what every other operation of the
system leaves alone: the command path, its reports and the exits from SAFE.

* `aside_vehicleOp` — an operation that is no telecommand.
* `ofKind`, `reported` — reports of a kind, owed and received.
* `answered_ingest` — a telecommand, once its reports are out.
-/

namespace SpacecraftFsw
namespace Flight

open Tmtc Obdh Fdir
open Relation (ReflTransGen)

/-! ## What is left alone -/

/-- Counters that neither telemetry nor a change of contact moves. -/
structure SameCounts {υ : Type} (b b' : Bus υ) : Prop where
  dispatched : b'.obdh.nDispatched = b.obdh.nDispatched
  hkSeq : b'.obdh.hkSeq = b.obdh.hkSeq

theorem SameCounts.trans {υ : Type} {b b' b'' : Bus υ} (h : SameCounts b b')
    (h' : SameCounts b' b'') : SameCounts b b'' :=
  ⟨h'.dispatched.trans h.dispatched, h'.hkSeq.trans h.hkSeq⟩

theorem frame_downlinkAll (b : Bus FdirMem) (pkts : List Bytes) :
    (downlinkAll b pkts).user = b.user ∧ SameCounts b (downlinkAll b pkts) := by
  induction pkts generalizing b with
  | nil => exact ⟨rfl, rfl, rfl⟩
  | cons pkt pkts ih =>
      rw [downlinkAll, List.foldl_cons, ← downlinkAll]
      obtain ⟨huser, hsame⟩ := ih (deliver (b.record (some pkt)) pkt)
      exact ⟨huser, hsame.dispatched, hsame.hkSeq⟩

theorem sameCounts_obdhIngestTm {υ : Type} (b : Bus υ) {pkt : Option Bytes} (h : IsTm pkt) :
    SameCounts b (obdhIngestTm b pkt).2 := by
  have hout := obdhIngestTm_outcome b h
  generalize obdhIngestTm b pkt = r at hout ⊢
  cases hout with
  | malformed | unknown | response | downlink => exact ⟨rfl, rfl⟩
  | store p i => cases i <;> exact ⟨rfl, rfl⟩

theorem sameCounts_of_events {b b' : Bus FdirMem} (hs : ReflTransGen EventStep b b') :
    SameCounts b b' := by
  induction hs with
  | refl => exact ⟨rfl, rfl⟩
  | tail _ hstep ih =>
      refine ih.trans ?_
      cases hstep with
      | own u hevents hlost => exact ⟨rfl, rfl⟩
      | emit evt sev worst =>
          rename_i c _
          have hsame := sameCounts_obdhIngestTm { c with user := c.user.emit evt sev worst }
            (isTm_eventPacket c.user.ctx evt sev worst)
          exact ⟨hsame.dispatched, hsame.hkSeq⟩

theorem sameCounts_contact {υ : Type} (b : Bus υ) (inContact : Bool) :
    SameCounts b (obdhSetContact b inContact) := by
  cases inContact with
  | false =>
      rw [obdhSetContact_leave]
      exact ⟨rfl, rfl⟩
  | true =>
      cases hwas : b.obdh.inContact with
      | true =>
          rw [← hwas, obdhSetContact_same]
          exact ⟨rfl, rfl⟩
      | false =>
          obtain ⟨sev, shk, -, -, -, -, heq⟩ := obdhSetContact_enter hwas
          rw [heq]
          exact ⟨rfl, rfl⟩

/-- A change of contact brings no command report. -/
theorem silent_contact {b : Bus FdirMem} (h : Classed b) (inContact : Bool) :
    Silent b (obdhSetContact b inContact) := by
  have hframe := obdhSetContact_frame b inContact
  have hstored : ∀ i, withApid (· = ccsdsApidCmd) (b.obdh.store i).packets = [] :=
    fun i => withApid_eq_nil (unwanted_command i) (h.stored i)
  have hev : withApid (· = ccsdsApidCmd) b.obdh.evStore.packets = [] := hstored .ev
  have hhk : withApid (· = ccsdsApidCmd) b.obdh.hkStore.packets = [] := hstored .hk
  refine ⟨?_, hframe.uplink, hframe.link⟩
  rw [commandPackets, downlinked_contact, hev, hhk]
  simp [commandPackets]

/-! ## Exits -/

/-- The exits from SAFE that FDIR has reported. -/
def exitEvents (m : FdirMem) : ℕ := countId evtSafeExit m.reports

theorem exitEvents_emit (m : FdirMem) (evt : U16) (sev : FdirSev) (worst : Health) :
    exitEvents (m.emit evt sev worst) = exitEvents m + if evt = evtSafeExit then 1 else 0 := by
  have hid : (m.ctx.event evt sev worst).id = evt := rfl
  rw [exitEvents, countId, FdirMem.emit_reports, List.countP_append, List.countP_singleton, hid]
  simp [exitEvents, countId]

/-- A step of FDIR is no exit. -/
theorem exitEvents_trans {m m' : FdirMem} {worst : Health} {sources : U8}
    (h : FdirTrans m worst sources m') : exitEvents m' = exitEvents m := by
  have hemit : ∀ (m₀ : FdirMem) (evt : U16) (sev : FdirSev), m₀.reports = m.reports →
      evt ≠ evtSafeExit → exitEvents (m₀.emit evt sev worst) = exitEvents m := by
    intro m₀ evt sev hsame hne
    rw [exitEvents_emit, if_neg hne, Nat.add_zero, exitEvents, hsame, exitEvents]
  cases h with
  | filtered | calm | safe => rfl
  | confirmed | warned | recovered | safeEntered | attempted =>
      exact hemit _ _ _ rfl (by decide)

theorem exitEvents_exitSafe (m : FdirMem) : exitEvents m.exitSafe = exitEvents m + 1 :=
  exitEvents_emit _ evtSafeExit .info m.ctx.prevWorst

/-! ## Everything but telecommands -/

/-- What an operation leaves alone that is not a telecommand. -/
structure Aside (b b' : Bus FdirMem) : Prop where
  silent : Silent b b'
  dispatched : b'.obdh.nDispatched = b.obdh.nDispatched
  exits : exitEvents b'.user = exitEvents b.user

/-- **Every other operation** of the system. -/
theorem aside_vehicleOp {v : Vehicle} (hclassed : Classed v.bus) {op : VehicleOp}
    (hop : op.notCommandTm) (hother : ∀ p, op = .ingest (some p) → ¬IsTc p) :
    Aside v.bus (vehicleOp v op).bus := by
  cases op with
  | ingest pkt =>
      rcases isTm_or_isTc pkt with htm | ⟨p, rfl, htc⟩
      · have hingest : (vehicleOp v (.ingest pkt)).bus = (obdhIngestTm v.bus pkt).2 :=
          congrArg Prod.snd (tmIngest_fdirIngest v.bus pkt htm)
        have hsame := sameCounts_obdhIngestTm v.bus htm
        rw [hingest]
        refine ⟨silent_obdhIngestTm v.bus htm ?_, hsame.dispatched, ?_⟩
        · rintro p rfl
          exact hop
        · rw [(tmFrame_obdhIngestTm v.bus htm).user]
      · exact absurd htc (hother p rfl)
  | setContact inContact =>
      have huser := (obdhSetContact_frame v.bus inContact).user
      have hsame := sameCounts_contact v.bus inContact
      exact ⟨silent_contact hclassed inContact, hsame.dispatched, congrArg exitEvents huser⟩
  | tick => exact ⟨⟨rfl, rfl, rfl⟩, rfl, rfl⟩
  | obdhHk cap =>
      obtain ⟨n, hn⟩ := obdhBuildHk_hkSeq v.bus cap
      rw [vehicleOp, hn]
      exact ⟨⟨rfl, rfl, rfl⟩, rfl, rfl⟩
  | fdirHk cap =>
      simp only [vehicleOp, fdirBuildHk]
      split <;> exact ⟨⟨rfl, rfl, rfl⟩, rfl, rfl⟩
  | kick id => exact ⟨⟨rfl, rfl, rfl⟩, rfl, rfl⟩
  | cycle readings =>
      have hsteps := fdirCycle_events tmIngest_fdirIngest v.bus readings v.watchdog
      have htrans := fdirCycle_trans tmIngest_fdirIngest v.bus readings v.watchdog
      have hexits := exitEvents_trans htrans
      exact ⟨silent_of_events hsteps, (sameCounts_of_events hsteps).dispatched, hexits⟩

/-! ## Counting reports -/

/-- The reports of a kind among some. -/
def ofKind (service subtype : U8) (rs : List Report) : ℕ :=
  rs.countP fun r => r.service = service ∧ r.subtype = subtype

/-- The command reports of a kind that the ground has received. -/
def reported (b : Bus FdirMem) (service subtype : U8) : ℕ :=
  (commandPackets b).countP fun p => octet p 7 = service ∧ octet p 8 = subtype

theorem countP_numbered (seq : U16) (service subtype : U8) (rs : List Report) :
    ((numbered seq rs).countP fun p => octet p 7 = service ∧ octet p 8 = subtype) =
      ofKind service subtype rs := by
  induction rs generalizing seq with
  | nil => rfl
  | cons r rs ih =>
      have hservice : octet (r.packet seq) 7 = r.service := tmPacket_service _ _ _ _ _
      have hsubtype : octet (r.packet seq) 8 = r.subtype := tmPacket_subtype _ _ _ _ _
      rw [numbered, List.countP_cons, ih, hservice, hsubtype, ofKind, ofKind, List.countP_cons]

theorem ofKind_append (service subtype : U8) (rs rs' : List Report) :
    ofKind service subtype (rs ++ rs') = ofKind service subtype rs + ofKind service subtype rs' :=
  List.countP_append ..

/-- Of the three kinds that every command is answered by, an accepted one is answered by
exactly those that tell how it went. -/
theorem ofKind_owedReports (b : Bytes) (p : TcParsed) (failed : Bool) :
    ofKind 1 2 (owedReports b p failed) = 0 ∧
      ofKind 17 2 (owedReports b p failed) = (if p.tc.service = 17 then 1 else 0) ∧
      ofKind 1 8 (owedReports b p failed) = (if failed then 1 else 0) := by
  simp only [owedReports, ofKind_append]
  refine ⟨?_, ?_, ?_⟩ <;> split_ifs <;> simp [ofKind]

/-! ## One command -/

/-- What the ingest of a telecommand leaves, once its reports `rs` are out: the context
and the memory are those the command path has left. -/
structure Answered (b : Bus FdirMem) (rs : List Report) (ctx : UplinkCtx) (m : FdirMem)
    (b' : Bus FdirMem) : Prop where
  sent : commandPackets b' =
    commandPackets b ++ if b.obdh.downlink then numbered b.obdh.uplink.tmSeq rs else []
  uplink : b'.obdh.uplink = ctx
  user : b'.user = m
  link : b'.obdh.downlink = b.obdh.downlink
  dispatched : b'.obdh.nDispatched = b.obdh.nDispatched + 1

theorem answered_ingest (b : Bus FdirMem) {p : Bytes} (h : IsTc p) {rs : List Report}
    (hrs : ((b.dispatched p).handleTc fdirHook.call p).2.out.reports =
      numbered b.obdh.uplink.tmSeq rs) :
    Answered b rs ((b.dispatched p).handleTc fdirHook.call p).2.ctx
      ((b.dispatched p).handleTc fdirHook.call p).2.world.user (fdirIngest b (some p)).2 := by
  obtain ⟨c, hsteps⟩ := world_events (b.dispatched p) p
  set r := (b.dispatched p).handleTc fdirHook.call p with hr
  have hsilent := silent_of_events hsteps
  have hcount := (sameCounts_of_events hsteps).dispatched
  obtain ⟨huplink, hlink⟩ := obdh_downlinkAll (Bus.afterTc r) r.2.out.reports
  obtain ⟨huser, hsame⟩ := frame_downlinkAll (Bus.afterTc r) r.2.out.reports
  have hdown : r.2.world.obdh.downlink = b.obdh.downlink := hsilent.link
  rw [ingest_tc_delivers b h]
  refine ⟨?_, huplink, huser, hlink.trans hdown, hsame.dispatched.trans hcount⟩
  rw [commandPackets, Bus.downlinked, ground_downlinkAll, withApid_append, hrs]
  change commandPackets r.2.world ++ _ = _
  rw [hsilent.sent, show (Bus.afterTc r).obdh.downlink = b.obdh.downlink from hdown]
  cases b.obdh.downlink with
  | true => simp only [if_true, withApid_numbered]; rfl
  | false => rfl

end Flight
end SpacecraftFsw
