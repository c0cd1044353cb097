import SpacecraftFsw.Tmtc.Tc
import SpacecraftFsw.Tmtc.Verify

/-!
# The command path

`labs/03-tmtc/uplink.c`: validate a telecommand, look it up by service and
subtype, execute it, and report on every stage.

The exit-safe hook is a parameter: a function of the command-path context, which
it can read, and of the world `ω` its `user` pointer reaches, which it can change.

* `TmOut.reports_send` — one report goes into one slot, behind the earlier ones.
* `uplinkHandleTc_eq` — the whole command path in terms of its verdict on the
  packet (`verdict`) and of the reports it sends, in order.
-/

namespace SpacecraftFsw
namespace Tmtc

/-! ## Constants and results -/

/-- `CMD_SERVICE_FDIR_CTRL`. -/
def cmdServiceFdirCtrl : U8 := 130

/-- `CMD_EXIT_SAFE_MODE`. -/
def cmdExitSafeMode : U8 := 1

/-- `UPLINK_MAX_TM_PER_TC`. -/
def uplinkMaxTmPerTc : ℕ := 4

/-- `UPLINK_MAX_TM_LEN`. -/
def uplinkMaxTmLen : ℕ := verifyReportMaxLen

/-- `PUS_ACK_ACCEPT`, `PUS_ACK_START`, `PUS_ACK_COMPLETE`. -/
def pusAckAccept : U8 := 0x08
def pusAckStart : U8 := 0x04
def pusAckComplete : U8 := 0x01

/-- The results of `dispatch`. -/
inductive DispatchResult
  | ok
  | unknown
  | badArgs
  deriving DecidableEq, Repr

/-- The results of `uplink_handle_tc`. -/
inductive UplinkResult
  | ok
  | parse (e : TcError)
  | unknownCmd
  | badAppData
  deriving DecidableEq, Repr

/-! ## State -/

/-- `uplink_ctx`.  `exitSafeHook` records whether the hook pointer is wired. -/
structure UplinkCtx where
  tmSeq : U16
  accepted : U32
  rejected : U32
  dropped : U32
  executed : U32
  connTests : U32
  exitSafeHook : Bool
  deriving DecidableEq, Repr

/-- `uplink_init`. -/
def uplinkInit : UplinkCtx := ⟨0, 0, 0, 0, 0, 0, false⟩

/-- `tm_out`.  `overrun` is set by a write outside `pkt`. -/
structure TmOut where
  pkt : Vector Bytes uplinkMaxTmPerTc
  len : Vector ℕ uplinkMaxTmPerTc
  count : ℕ
  overrun : Bool
  deriving DecidableEq, Repr

/-- A `tm_out` before its first use. -/
def TmOut.blank : TmOut := ⟨Vector.replicate _ [], Vector.replicate _ 0, 0, false⟩

/-- A builder writing `src` to `out->pkt[out->count]`: the slot keeps the octets
behind the ones written. -/
def TmOut.write (o : TmOut) (src : Bytes) : TmOut :=
  { o with
    pkt := o.pkt.setIfInBounds o.count (src ++ (o.pkt[o.count]?.getD []).drop src.length)
    overrun := o.overrun || decide (uplinkMaxTmPerTc ≤ o.count ∨ uplinkMaxTmLen < src.length) }

/-- `tm_out_add`. -/
def tmOutAdd (o : TmOut) (len : ℕ) : TmOut × Bool :=
  if o.count ≥ uplinkMaxTmPerTc ∨ len = 0 then (o, false)
  else ({ o with len := o.len.setIfInBounds o.count len, count := o.count + 1 }, true)

/-- The `i`-th report as the router takes it out: `len[i]` octets of `pkt[i]`. -/
def TmOut.report (o : TmOut) (i : ℕ) : Bytes := (o.pkt[i]?.getD []).take (o.len[i]?.getD 0)

/-- The reports, in emission order. -/
def TmOut.reports (o : TmOut) : List Bytes := (List.range o.count).map o.report

/-- Everything a command handler can touch. -/
structure UplinkState (ω : Type) where
  ctx : UplinkCtx
  out : TmOut
  world : ω

/-- `exit_safe_hook`: the return value, and the world it leaves behind. -/
abbrev Hook (ω : Type) := UplinkCtx → ω → ℤ × ω

variable {ω : Type}

/-! ## The command table -/

/-- The handlers of the command table. -/
inductive CmdHandler
  | connectionTest
  | exitSafe
  deriving DecidableEq, Repr

/-- `cmd_entry`. -/
structure CmdEntry where
  service : U8
  subtype : U8
  appLen : ℕ
  handler : CmdHandler
  deriving DecidableEq, Repr

/-- `cmd_table`. -/
def cmdTable : List CmdEntry :=
  [⟨pusServiceTest, pusTestConnectionTest, 0, .connectionTest⟩,
    ⟨cmdServiceFdirCtrl, cmdExitSafeMode, 0, .exitSafe⟩]

/-- `cmd_find`. -/
def cmdFind (service subtype : U8) : Option CmdEntry :=
  cmdTable.find? fun e => e.service == service && e.subtype == subtype

/-- `dispatch`; `none` is a null `tc`. -/
def dispatch (tc : Option PusTcHdr) (app : Bytes) : DispatchResult :=
  match tc with
  | none => .unknown
  | some tc =>
    match cmdFind tc.service tc.subtype with
    | none => .unknown
    | some e => if app.length ≠ e.appLen then .badArgs else .ok

/-! ## Reports and handlers -/

/-- `emit_verification`. -/
def emitVerification (s : UplinkState ω) (vSubtype : U8) (pktId seqCtrl : U16)
    (failureCode : U8) : UplinkState ω :=
  let (src, tmSeq) :=
    buildVerification ccsdsApidCmd s.ctx.tmSeq vSubtype pktId seqCtrl failureCode
  { s with
    ctx := { s.ctx with tmSeq := tmSeq }
    out := (tmOutAdd (s.out.write src) src.length).1 }

/-- `handle_connection_test`. -/
def handleConnectionTest (s : UplinkState ω) : U8 × UplinkState ω :=
  let ctx := { s.ctx with connTests := s.ctx.connTests + 1 }
  let (src, tmSeq) := buildConnTestReport ccsdsApidCmd ctx.tmSeq
  let (out, added) := tmOutAdd (s.out.write src) src.length
  (if added then vfailNone else vfailExecError,
    { s with ctx := { ctx with tmSeq := tmSeq }, out := out })

/-- `handle_exit_safe`. -/
def handleExitSafe (hook : Hook ω) (s : UplinkState ω) : U8 × UplinkState ω :=
  if !s.ctx.exitSafeHook then (vfailExecError, s)
  else
    let (r, world) := hook s.ctx s.world
    (if r ≠ 0 then vfailNone else vfailExecError, { s with world := world })

/-- The call through the table: `e->handler(ctx, app, app_len, out)`. -/
def CmdHandler.run (hook : Hook ω) : CmdHandler → UplinkState ω → U8 × UplinkState ω
  | .connectionTest => handleConnectionTest
  | .exitSafe => handleExitSafe hook

/-- `failure_for_parse_error`. -/
def failureForParseError : TcError → U8
  | .tooShort | .tooLong | .length => vfailIllegalLen
  | .crc => vfailBadCrc
  | .apid => vfailBadApid
  | .type | .pusVersion => vfailBadHeader
  | .arg => vfailBadHeader

/-- `uplink_handle_tc`; `none` is a null `buf`. -/
def uplinkHandleTc (hook : Hook ω) (s : UplinkState ω) (buf : Option Bytes) :
    UplinkResult × UplinkState ω :=
  let s := { s with out := { s.out with count := 0 } }
  match tcParse buf with
  | .error st =>
    match buf with
    | some b =>
      if 4 ≤ b.length then
        let s := { s with ctx := { s.ctx with rejected := s.ctx.rejected + 1 } }
        (.parse st, emitVerification s pusVerAcceptFail (be16 (octet b 0) (octet b 1))
          (be16 (octet b 2) (octet b 3)) (failureForParseError st))
      else (.parse st, { s with ctx := { s.ctx with dropped := s.ctx.dropped + 1 } })
    | none => (.parse st, { s with ctx := { s.ctx with dropped := s.ctx.dropped + 1 } })
  | .ok p =>
    let b := buf.getD []
    let pktId := be16 (octet b 0) (octet b 1)
    let seqCtrl := be16 (octet b 2) (octet b 3)
    let d := dispatch (some p.tc) p.appData
    if d ≠ .ok then
      let s := { s with ctx := { s.ctx with rejected := s.ctx.rejected + 1 } }
      (if d = .unknown then .unknownCmd else .badAppData,
        emitVerification s pusVerAcceptFail pktId seqCtrl
          (if d = .unknown then vfailUnknownCmd else vfailBadAppData))
    else
      let s := { s with ctx := { s.ctx with accepted := s.ctx.accepted + 1 } }
      let s := if p.tc.ackFlags &&& pusAckAccept ≠ 0 then
        emitVerification s pusVerAcceptOk pktId seqCtrl vfailNone else s
      let s := if p.tc.ackFlags &&& pusAckStart ≠ 0 then
        emitVerification s pusVerStartOk pktId seqCtrl vfailNone else s
      match cmdFind p.tc.service p.tc.subtype with
      | none => (.ok, s) -- not reached: `dispatch` has found the entry
      | some e =>
        let s := { s with ctx := { s.ctx with executed := s.ctx.executed + 1 } }
        let (fail, s) := e.handler.run hook s
        if fail ≠ vfailNone then
          (.ok, emitVerification s pusVerCompleteFail pktId seqCtrl fail)
        else if p.tc.ackFlags &&& pusAckComplete ≠ 0 then
          (.ok, emitVerification s pusVerCompleteOk pktId seqCtrl vfailNone)
        else (.ok, s)

/-! ## Reports into slots -/

/-- The slots after one builder has written `src` and `tm_out_add` has counted it. -/
def TmOut.send (o : TmOut) (src : Bytes) : TmOut := (tmOutAdd (o.write src) src.length).1

theorem TmOut.send_eq {o : TmOut} {src : Bytes} (hc : o.count < uplinkMaxTmPerTc)
    (hs : src ≠ []) :
    tmOutAdd (o.write src) src.length =
      ({ o.write src with
        len := o.len.setIfInBounds o.count src.length, count := o.count + 1 }, true) := by
  have hlen : ¬(o.count ≥ uplinkMaxTmPerTc ∨ src.length = 0) := by
    have := List.length_pos_iff.2 hs
    omega
  rw [tmOutAdd]
  exact if_neg hlen

theorem TmOut.count_send {o : TmOut} {src : Bytes} (hc : o.count < uplinkMaxTmPerTc)
    (hs : src ≠ []) : (o.send src).count = o.count + 1 := by
  rw [TmOut.send, TmOut.send_eq hc hs]

theorem TmOut.overrun_send {o : TmOut} {src : Bytes} (hc : o.count < uplinkMaxTmPerTc)
    (hs : src ≠ []) (hl : src.length ≤ uplinkMaxTmLen) : (o.send src).overrun = o.overrun := by
  have hin : ¬(uplinkMaxTmPerTc ≤ o.count ∨ uplinkMaxTmLen < src.length) := by omega
  rw [TmOut.send, TmOut.send_eq hc hs]
  simp only [TmOut.write, hin, decide_false, Bool.or_false]

/-- **One report, one slot**: the earlier slots are untouched and the new one
reads back what the builder wrote. -/
theorem TmOut.reports_send {o : TmOut} {src : Bytes} (hc : o.count < uplinkMaxTmPerTc)
    (hs : src ≠ []) : (o.send src).reports = o.reports ++ [src] := by
  have hcount := TmOut.count_send hc hs
  have hearlier : ∀ i ∈ List.range o.count, (o.send src).report i = o.report i := by
    intro i hi
    have hne : o.count ≠ i := (List.mem_range.1 hi).ne'
    rw [TmOut.send, TmOut.send_eq hc hs]
    simp only [TmOut.report, TmOut.write, Vector.getElem?_setIfInBounds_ne hne]
  have hnew : (o.send src).report o.count = src := by
    rw [TmOut.send, TmOut.send_eq hc hs]
    simp only [TmOut.report, TmOut.write, Vector.getElem?_setIfInBounds_self_of_lt hc,
      Option.getD_some, List.take_left]
  rw [TmOut.reports, hcount, List.range_succ, List.map_append, List.map_congr_left hearlier,
    List.map_singleton, hnew, TmOut.reports]

/-! ## Numbered reports -/

/-- A report before it is given a sequence count. -/
structure Report where
  service : U8
  subtype : U8
  data : Bytes
  deriving DecidableEq, Repr

/-- The report as a packet of the command application. -/
def Report.packet (seq : U16) (r : Report) : Bytes :=
  tmPacket ccsdsApidCmd seq r.service r.subtype r.data

/-- Consecutive reports, numbered from `seq`. -/
def numbered : U16 → List Report → List Bytes
  | _, [] => []
  | seq, r :: rs => r.packet seq :: numbered (seqNext seq) rs

@[simp] theorem length_numbered (seq : U16) (rs : List Report) :
    (numbered seq rs).length = rs.length := by
  induction rs generalizing seq with
  | nil => rfl
  | cons r rs ih => rw [numbered, List.length_cons, ih, List.length_cons]

theorem mem_numbered {seq : U16} {rs : List Report} {pkt : Bytes} (h : pkt ∈ numbered seq rs) :
    ∃ seq' r, r ∈ rs ∧ pkt = r.packet seq' := by
  induction rs generalizing seq with
  | nil => cases h
  | cons r rs ih =>
      rcases List.mem_cons.1 h with rfl | h
      · exact ⟨seq, r, List.mem_cons_self, rfl⟩
      · obtain ⟨seq', r', hr, rfl⟩ := ih h
        exact ⟨seq', r', List.mem_cons_of_mem _ hr, rfl⟩

theorem numbered_append (seq : U16) (rs rs' : List Report) :
    numbered seq (rs ++ rs') = numbered seq rs ++ numbered (seqNext^[rs.length] seq) rs' := by
  induction rs generalizing seq with
  | nil => rfl
  | cons r rs ih => rw [List.cons_append, numbered, ih, numbered, List.cons_append,
      List.length_cons, Function.iterate_succ_apply]

/-- Builds the next report and puts it behind the ones already there. -/
def UplinkState.send (s : UplinkState ω) (r : Report) : UplinkState ω :=
  { s with
    ctx := { s.ctx with tmSeq := seqNext s.ctx.tmSeq }
    out := s.out.send (r.packet s.ctx.tmSeq) }

def UplinkState.sendAll (s : UplinkState ω) (rs : List Report) : UplinkState ω :=
  rs.foldl UplinkState.send s

theorem Report.packet_ne_nil (seq : U16) (r : Report) : r.packet seq ≠ [] := by
  intro h
  have := congrArg List.length h
  simp only [Report.packet, length_tmPacket, List.length_nil] at this
  omega

@[simp] theorem UplinkState.world_sendAll (s : UplinkState ω) (rs : List Report) :
    (s.sendAll rs).world = s.world := by
  induction rs generalizing s with
  | nil => rfl
  | cons r rs ih => exact ih (s.send r)

/-- Sending moves the sequence count and nothing else of the context. -/
@[simp] theorem UplinkState.ctx_sendAll (s : UplinkState ω) (rs : List Report) :
    (s.sendAll rs).ctx = { s.ctx with tmSeq := seqNext^[rs.length] s.ctx.tmSeq } := by
  induction rs generalizing s with
  | nil => rfl
  | cons r rs ih =>
      rw [UplinkState.sendAll, List.foldl_cons, ← UplinkState.sendAll, ih]
      rfl

/-- Sending while slots are free: the reports stand behind the earlier ones, in
order and numbered, and every write is inside its slot. -/
theorem UplinkState.out_sendAll {s : UplinkState ω} {rs : List Report}
    (hc : s.out.count + rs.length ≤ uplinkMaxTmPerTc) (hl : ∀ r ∈ rs, r.data.length ≤ 5) :
    (s.sendAll rs).out.reports = s.out.reports ++ numbered s.ctx.tmSeq rs ∧
      (s.sendAll rs).out.count = s.out.count + rs.length ∧
      (s.sendAll rs).out.overrun = s.out.overrun := by
  induction rs generalizing s with
  | nil => simp [UplinkState.sendAll, numbered]
  | cons r rs ih =>
      have hlt : s.out.count < uplinkMaxTmPerTc := by
        rw [List.length_cons] at hc
        omega
      have hne := Report.packet_ne_nil s.ctx.tmSeq r
      have hlen : (r.packet s.ctx.tmSeq).length ≤ uplinkMaxTmLen := by
        have := hl r List.mem_cons_self
        simp only [Report.packet, length_tmPacket, uplinkMaxTmLen, verifyReportMaxLen]
        omega
      have hcount : (s.send r).out.count = s.out.count + 1 := TmOut.count_send hlt hne
      have hrest := ih (s := s.send r) (by rw [hcount]; simp only [List.length_cons] at hc; omega)
        fun r' hr' => hl r' (List.mem_cons_of_mem _ hr')
      rw [UplinkState.sendAll, List.foldl_cons, ← UplinkState.sendAll]
      refine ⟨?_, ?_, ?_⟩
      · rw [hrest.1, show (s.send r).out.reports = _ from TmOut.reports_send hlt hne, numbered,
          List.append_assoc, List.singleton_append]
        rfl
      · rw [hrest.2.1, hcount, List.length_cons]
        omega
      · rw [hrest.2.2, show (s.send r).out.overrun = _ from TmOut.overrun_send hlt hne hlen]

/-- The slots of `s` hold exactly `rs`, numbered from `seq`, with nothing written
outside them. -/
structure Emitted (seq : U16) (overrun : Bool) (rs : List Report) (s : UplinkState ω) : Prop where
  reports : s.out.reports = numbered seq rs
  count : s.out.count = rs.length
  tmSeq : s.ctx.tmSeq = seqNext^[rs.length] seq
  overrun : s.out.overrun = overrun

/-- Every call starts with `out->count = 0`. -/
theorem Emitted.empty (s : UplinkState ω) (c : UplinkCtx) (h : c.tmSeq = s.ctx.tmSeq) :
    Emitted s.ctx.tmSeq s.out.overrun [] { s with out := { s.out with count := 0 }, ctx := c } :=
  ⟨rfl, rfl, h, rfl⟩

theorem Emitted.sendAll {seq : U16} {o : Bool} {rs rs' : List Report} {s : UplinkState ω}
    (h : Emitted seq o rs s) (hc : rs.length + rs'.length ≤ uplinkMaxTmPerTc)
    (hl : ∀ r ∈ rs', r.data.length ≤ 5) : Emitted seq o (rs ++ rs') (s.sendAll rs') := by
  obtain ⟨hreports, hcount, hover⟩ := UplinkState.out_sendAll (s := s) (by rwa [h.count]) hl
  constructor
  · rw [hreports, h.reports, h.tmSeq, numbered_append]
  · rw [hcount, h.count, List.length_append]
  · rw [UplinkState.ctx_sendAll, h.tmSeq, ← Function.iterate_add_apply, List.length_append,
      Nat.add_comm]
  · rw [hover, h.overrun]

theorem Emitted.fits {seq : U16} {o : Bool} {rs : List Report} {s : UplinkState ω}
    (h : Emitted seq o rs s) (hl : ∀ r ∈ rs, r.data.length ≤ 5) :
    s.out.count = s.out.reports.length ∧ ∀ pkt ∈ s.out.reports, pkt.length ≤ uplinkMaxTmLen := by
  rw [h.reports, h.count, length_numbered]
  refine ⟨rfl, ?_⟩
  intro pkt hpkt
  obtain ⟨seq', r, hr, rfl⟩ := mem_numbered hpkt
  have := hl r hr
  simp only [Report.packet, length_tmPacket, uplinkMaxTmLen, verifyReportMaxLen]
  omega

/-! ## The verdict on a packet -/

/-- A verification report about the command in `b`. -/
def verificationReport (b : Bytes) (vSubtype failureCode : U8) : Report where
  service := pusServiceVerification
  subtype := vSubtype
  data := verificationData vSubtype (be16 (octet b 0) (octet b 1)) (be16 (octet b 2) (octet b 3))
    failureCode

/-- The connection test report. -/
def connTestReport : Report := ⟨pusServiceTest, pusTestConnectionTestReport, []⟩

/-- What the command path decides about a packet before it executes anything. -/
inductive Verdict
  /-- Too short to name in a report. -/
  | unidentified (e : TcError)
  | refused (res : UplinkResult) (code : U8)
  | accepted (p : TcParsed) (handler : CmdHandler)
  deriving DecidableEq, Repr

def verdict : Option Bytes → Verdict
  | none => .unidentified .arg
  | some b =>
    match tcParse (some b) with
    | .error e =>
      if 4 ≤ b.length then .refused (.parse e) (failureForParseError e) else .unidentified e
    | .ok p =>
      match cmdFind p.tc.service p.tc.subtype with
      | none => .refused .unknownCmd vfailUnknownCmd
      | some e =>
        if p.appData.length ≠ e.appLen then .refused .badAppData vfailBadAppData
        else .accepted p e.handler

/-- The reports sent before the handler runs. -/
def openingReports (b : Bytes) (ack : U8) : List Report :=
  (if ack &&& pusAckAccept ≠ 0 then [verificationReport b pusVerAcceptOk vfailNone] else []) ++
    if ack &&& pusAckStart ≠ 0 then [verificationReport b pusVerStartOk vfailNone] else []

/-- The report sent after the handler has returned `fail`. -/
def closingReports (b : Bytes) (ack fail : U8) : List Report :=
  if fail ≠ vfailNone then [verificationReport b pusVerCompleteFail fail]
  else if ack &&& pusAckComplete ≠ 0 then [verificationReport b pusVerCompleteOk vfailNone]
  else []

theorem sendAll_openingReports (s : UplinkState ω) (b : Bytes) (ack : U8) :
    s.sendAll (openingReports b ack) =
      let s := if ack &&& pusAckAccept ≠ 0 then
        s.send (verificationReport b pusVerAcceptOk vfailNone) else s
      if ack &&& pusAckStart ≠ 0 then
        s.send (verificationReport b pusVerStartOk vfailNone) else s := by
  unfold openingReports
  split <;> split <;> rfl

theorem sendAll_closingReports (s : UplinkState ω) (b : Bytes) (ack fail : U8) :
    s.sendAll (closingReports b ack fail) =
      if fail ≠ vfailNone then s.send (verificationReport b pusVerCompleteFail fail)
      else if ack &&& pusAckComplete ≠ 0 then
        s.send (verificationReport b pusVerCompleteOk vfailNone)
      else s := by
  unfold closingReports
  split
  · rfl
  · split <;> rfl

theorem emitVerification_eq (s : UplinkState ω) (b : Bytes) {v : U8} (hv : 1#8 ≤ v ∧ v ≤ 8#8)
    (f : U8) :
    emitVerification s v (be16 (octet b 0) (octet b 1)) (be16 (octet b 2) (octet b 3)) f
      = s.send (verificationReport b v f) := by
  rw [emitVerification, buildVerification_eq _ _ hv]
  rfl

theorem connTestReport_packet (seq : U16) : connTestReport.packet seq =
    tmPacket ccsdsApidCmd seq pusServiceTest pusTestConnectionTestReport [] := rfl

theorem handleConnectionTest_eq {s : UplinkState ω} (hc : s.out.count < uplinkMaxTmPerTc) :
    handleConnectionTest s = (vfailNone,
      { s with ctx := { s.ctx with connTests := s.ctx.connTests + 1 } }.send connTestReport) := by
  have hadd := TmOut.send_eq hc (Report.packet_ne_nil s.ctx.tmSeq connTestReport)
  simp only [handleConnectionTest, buildConnTestReport_eq, ← connTestReport_packet, hadd,
    UplinkState.send, TmOut.send, if_true]

theorem dispatch_unknown {p : TcParsed} (h : cmdFind p.tc.service p.tc.subtype = none) :
    dispatch (some p.tc) p.appData = .unknown := by
  simp only [dispatch, h]

theorem dispatch_known {p : TcParsed} {e : CmdEntry}
    (h : cmdFind p.tc.service p.tc.subtype = some e) :
    dispatch (some p.tc) p.appData = if p.appData.length ≠ e.appLen then .badArgs else .ok := by
  simp only [dispatch, h]

/-- **The command path, in one equation**: the verdict decides which counter
moves and which reports are sent, and only an accepted command runs its handler. -/
theorem uplinkHandleTc_eq (hook : Hook ω) (s : UplinkState ω) (buf : Option Bytes) :
    uplinkHandleTc hook s buf =
      let b := buf.getD []
      let out := { s.out with count := 0 }
      match verdict buf with
      | .unidentified e =>
        (.parse e, { s with out := out, ctx := { s.ctx with dropped := s.ctx.dropped + 1 } })
      | .refused res code =>
        (res, { s with out := out, ctx := { s.ctx with rejected := s.ctx.rejected + 1 } }.sendAll
          [verificationReport b pusVerAcceptFail code])
      | .accepted p handler =>
        let s := { s with out := out, ctx := { s.ctx with accepted := s.ctx.accepted + 1 } }.sendAll
          (openingReports b p.tc.ackFlags)
        let r := handler.run hook { s with ctx := { s.ctx with executed := s.ctx.executed + 1 } }
        (.ok, r.2.sendAll (closingReports b p.tc.ackFlags r.1)) := by
  cases buf with
  | none => rfl
  | some b =>
      have hemit := fun (s : UplinkState ω) {v : U8} (hv : 1#8 ≤ v ∧ v ≤ 8#8) (f : U8) =>
        emitVerification_eq s b hv f
      unfold uplinkHandleTc verdict
      cases hp : tcParse (some b) with
      | error e =>
          by_cases hlen : 4 ≤ b.length
          · simp only [hp, hlen, if_true, hemit _ (v := pusVerAcceptFail) (by decide)]
            rfl
          · simp only [hp, hlen, if_false]
      | ok p =>
          simp only [hp, Option.getD_some, hemit _ (v := pusVerAcceptFail) (by decide),
            hemit _ (v := pusVerAcceptOk) (by decide), hemit _ (v := pusVerStartOk) (by decide),
            hemit _ (v := pusVerCompleteFail) (by decide),
            hemit _ (v := pusVerCompleteOk) (by decide)]
          rcases Option.eq_none_or_eq_some (cmdFind p.tc.service p.tc.subtype) with hf | ⟨e, hf⟩
          · simp only [hf, dispatch_unknown hf]
            rfl
          · by_cases happ : p.appData.length = e.appLen
            · simp only [hf, dispatch_known hf, happ, ne_eq, not_true_eq_false, if_false,
                sendAll_openingReports, sendAll_closingReports]
              rw [apply_ite (Prod.mk UplinkResult.ok), apply_ite (Prod.mk UplinkResult.ok)]
            · simp only [hf, dispatch_known hf, happ, ne_eq, not_false_eq_true, if_true]
              rfl

/-! ## One call, by verdict -/

theorem length_openingReports_le (b : Bytes) (ack : U8) : (openingReports b ack).length ≤ 2 := by
  unfold openingReports
  split <;> split <;> simp

theorem length_closingReports_le (b : Bytes) (ack fail : U8) :
    (closingReports b ack fail).length ≤ 1 := by
  unfold closingReports
  split
  · simp
  · split <;> simp

theorem length_data_openingReports {b : Bytes} {ack : U8} :
    ∀ r ∈ openingReports b ack, r.data.length ≤ 5 := by
  intro r hr
  rcases List.mem_append.1 hr with h | h <;> split at h <;>
    simp only [List.mem_singleton, List.not_mem_nil] at h <;> subst h <;>
    exact length_verificationData_le _ _ _ _

theorem length_data_closingReports {b : Bytes} {ack fail : U8} :
    ∀ r ∈ closingReports b ack fail, r.data.length ≤ 5 := by
  intro r hr
  unfold closingReports at hr
  split at hr
  · rw [List.mem_singleton.1 hr]
    exact length_verificationData_le _ _ _ _
  · split at hr
    · rw [List.mem_singleton.1 hr]
      exact length_verificationData_le _ _ _ _
    · cases hr

theorem emitted_openingReports (s : UplinkState ω) (b : Bytes) (ack : U8) :
    Emitted s.ctx.tmSeq s.out.overrun (openingReports b ack)
      (UplinkState.sendAll { s with
        out := { s.out with count := 0 }
        ctx := { s.ctx with accepted := s.ctx.accepted + 1 } } (openingReports b ack)) := by
  have htwo := length_openingReports_le b ack
  generalize hrs : openingReports b ack = rs at htwo ⊢
  refine (Emitted.empty s { s.ctx with accepted := s.ctx.accepted + 1 } rfl).sendAll ?_ ?_
  · rw [List.length_nil, uplinkMaxTmPerTc]
    omega
  · rw [← hrs]
    exact length_data_openingReports

/-- The context as a handler finds it. -/
def ctxAtHandler (c : UplinkCtx) (b : Bytes) (ack : U8) : UplinkCtx :=
  { c with
    accepted := c.accepted + 1
    executed := c.executed + 1
    tmSeq := seqNext^[(openingReports b ack).length] c.tmSeq }

section calls

variable (hook : Hook ω) (s : UplinkState ω)

theorem uplinkHandleTc_unidentified {buf : Option Bytes} {e : TcError}
    (hv : verdict buf = .unidentified e) :
    uplinkHandleTc hook s buf = (.parse e,
      { s with
        out := { s.out with count := 0 }
        ctx := { s.ctx with dropped := s.ctx.dropped + 1 } }) := by
  rw [uplinkHandleTc_eq, hv]

theorem uplinkHandleTc_refused {b : Bytes} {res : UplinkResult} {code : U8}
    (hv : verdict (some b) = .refused res code) :
    let r := uplinkHandleTc hook s (some b)
    r.1 = res ∧ r.2.world = s.world ∧
      r.2.ctx = { s.ctx with rejected := s.ctx.rejected + 1, tmSeq := seqNext s.ctx.tmSeq } ∧
      Emitted s.ctx.tmSeq s.out.overrun [verificationReport b pusVerAcceptFail code] r.2 := by
  rw [uplinkHandleTc_eq, hv]
  refine ⟨rfl, rfl, rfl, ?_⟩
  refine (Emitted.empty s { s.ctx with rejected := s.ctx.rejected + 1 } rfl).sendAll
    (by simp [uplinkMaxTmPerTc]) ?_
  intro r hr
  rw [List.mem_singleton.1 hr]
  exact length_verificationData_le _ _ _ _

theorem uplinkHandleTc_connectionTest {b : Bytes} {p : TcParsed}
    (hv : verdict (some b) = .accepted p .connectionTest) :
    let r := uplinkHandleTc hook s (some b)
    let rs := openingReports b p.tc.ackFlags ++ [connTestReport] ++
      closingReports b p.tc.ackFlags vfailNone
    r.1 = .ok ∧ r.2.world = s.world ∧
      r.2.ctx = { s.ctx with
        accepted := s.ctx.accepted + 1
        executed := s.ctx.executed + 1
        connTests := s.ctx.connTests + 1
        tmSeq := seqNext^[rs.length] s.ctx.tmSeq } ∧
      Emitted s.ctx.tmSeq s.out.overrun rs r.2 := by
  intro r rs
  set s₁ := UplinkState.sendAll
    { s with out := { s.out with count := 0 }, ctx := { s.ctx with accepted := s.ctx.accepted + 1 } }
    (openingReports b p.tc.ackFlags) with hs₁
  set s₂ : UplinkState ω := { s₁ with ctx := { s₁.ctx with executed := s₁.ctx.executed + 1 } }
    with hs₂
  set s₃ : UplinkState ω := { s₂ with ctx := { s₂.ctx with connTests := s₂.ctx.connTests + 1 } }
    with hs₃
  have hopen : Emitted s.ctx.tmSeq s.out.overrun (openingReports b p.tc.ackFlags) s₁ :=
    emitted_openingReports s b p.tc.ackFlags
  have htwo := length_openingReports_le b p.tc.ackFlags
  have hone := length_closingReports_le b p.tc.ackFlags vfailNone
  have hrun : handleConnectionTest s₂ = (vfailNone, s₃.sendAll [connTestReport]) := by
    refine handleConnectionTest_eq ?_
    rw [show s₂.out.count = _ from hopen.count, uplinkMaxTmPerTc]
    omega
  have hr : r = (.ok, (s₃.sendAll [connTestReport]).sendAll
      (closingReports b p.tc.ackFlags vfailNone)) := by
    have heq := uplinkHandleTc_eq hook s (some b)
    simp only [hv, Option.getD_some, ← hs₁, ← hs₂, CmdHandler.run, hrun] at heq
    exact heq
  have htest : Emitted s.ctx.tmSeq s.out.overrun (openingReports b p.tc.ackFlags ++ [connTestReport])
      (s₃.sendAll [connTestReport]) := by
    refine Emitted.sendAll ⟨hopen.reports, hopen.count, hopen.tmSeq, hopen.overrun⟩ ?_ ?_
    · rw [List.length_singleton, uplinkMaxTmPerTc]
      omega
    · intro r hr
      rw [List.mem_singleton.1 hr]
      exact Nat.zero_le _
  have hall : Emitted s.ctx.tmSeq s.out.overrun rs r.2 := by
    rw [hr]
    refine htest.sendAll ?_ length_data_closingReports
    rw [List.length_append, List.length_singleton, uplinkMaxTmPerTc]
    omega
  refine ⟨by rw [hr], ?_, ?_, hall⟩
  · rw [hr, UplinkState.world_sendAll, UplinkState.world_sendAll, hs₃, hs₂, hs₁,
      UplinkState.world_sendAll]
  · have hseq := hall.tmSeq
    rw [hr, UplinkState.ctx_sendAll, UplinkState.ctx_sendAll] at hseq ⊢
    rw [← hseq, hs₃, hs₂, hs₁, UplinkState.ctx_sendAll]

theorem uplinkHandleTc_exitSafe {b : Bytes} {p : TcParsed}
    (hv : verdict (some b) = .accepted p .exitSafe) :
    let r := uplinkHandleTc hook s (some b)
    let called := hook (ctxAtHandler s.ctx b p.tc.ackFlags) s.world
    let fail := if s.ctx.exitSafeHook = true ∧ called.1 ≠ 0 then vfailNone else vfailExecError
    let rs := openingReports b p.tc.ackFlags ++ closingReports b p.tc.ackFlags fail
    r.1 = .ok ∧ r.2.world = (if s.ctx.exitSafeHook then called.2 else s.world) ∧
      r.2.ctx = { s.ctx with
        accepted := s.ctx.accepted + 1
        executed := s.ctx.executed + 1
        tmSeq := seqNext^[rs.length] s.ctx.tmSeq } ∧
      Emitted s.ctx.tmSeq s.out.overrun rs r.2 := by
  intro r called fail rs
  set s₁ := UplinkState.sendAll
    { s with out := { s.out with count := 0 }, ctx := { s.ctx with accepted := s.ctx.accepted + 1 } }
    (openingReports b p.tc.ackFlags) with hs₁
  set s₂ : UplinkState ω := { s₁ with ctx := { s₁.ctx with executed := s₁.ctx.executed + 1 } }
    with hs₂
  have hctx : s₂.ctx = ctxAtHandler s.ctx b p.tc.ackFlags := by
    rw [hs₂, hs₁, UplinkState.ctx_sendAll]
    rfl
  have hworld : s₂.world = s.world := by
    rw [hs₂, hs₁, UplinkState.world_sendAll]
  have hopen : Emitted s.ctx.tmSeq s.out.overrun (openingReports b p.tc.ackFlags) s₁ :=
    emitted_openingReports s b p.tc.ackFlags
  have htwo := length_openingReports_le b p.tc.ackFlags
  have hone := length_closingReports_le b p.tc.ackFlags fail
  set s₃ : UplinkState ω :=
    { s₂ with world := if s.ctx.exitSafeHook then called.2 else s.world } with hs₃
  have hrun : handleExitSafe hook s₂ = (fail, s₃) := by
    rw [handleExitSafe, hctx, hworld, show (ctxAtHandler s.ctx b p.tc.ackFlags).exitSafeHook
      = s.ctx.exitSafeHook from rfl]
    cases hwired : s.ctx.exitSafeHook
    · simp [fail, hs₃, hwired, ← hworld]
    · simp [fail, hs₃, hwired, called, hctx]
  have hr : r = (.ok, s₃.sendAll (closingReports b p.tc.ackFlags fail)) := by
    have heq := uplinkHandleTc_eq hook s (some b)
    simp only [hv, Option.getD_some, ← hs₁, ← hs₂, CmdHandler.run, hrun] at heq
    exact heq
  have hall : Emitted s.ctx.tmSeq s.out.overrun rs r.2 := by
    rw [hr]
    refine Emitted.sendAll ⟨hopen.reports, hopen.count, hopen.tmSeq, hopen.overrun⟩ ?_
      length_data_closingReports
    rw [uplinkMaxTmPerTc]
    omega
  refine ⟨by rw [hr], by rw [hr, UplinkState.world_sendAll], ?_, hall⟩
  have hseq := hall.tmSeq
  rw [hr, UplinkState.ctx_sendAll] at hseq ⊢
  rw [← hseq, hs₃, hctx]
  rfl

end calls

end Tmtc
end SpacecraftFsw
