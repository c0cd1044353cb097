import SpacecraftFsw.Lib.Access
import SpacecraftFsw.Tmtc.Contract

/-!
# Accesses of the command path

`tc_parse`, `uplink_handle_tc` and what they call, with a check at every access: an
octet of the packet, an octet of a report slot, the command entry behind its
pointer.  A function whose name ends in a question mark is the one of the same name
with its accesses checked, and `none` is an access out of range.

* `tcParse?_eq` — the parser reads within the packet.
* `emitVerification?_eq` — a report is written within a free slot.
* `uplinkHandleTc?_eq` — the whole command path stays in range.
* `TmOut.Filled`, `filled_uplinkHandleTc`, `report?_eq` — the reports it leaves behind
  are read within the slots they were written to.
-/

namespace SpacecraftFsw
namespace Tmtc

open Access

/-! ## The parser -/

/-- `(uint16_t) ((p[i] << 8) | p[i + 1])`. -/
def be16At? (buf : Bytes) (i : ℕ) : Option U16 := do
  let hi ← load buf i
  let lo ← load buf (i + 1)
  return be16 hi lo

/-- `ccsds_parse_primary`. -/
def ccsdsParsePrimary? (buf : Bytes) : Option CcsdsPriHdr := do
  let w0 ← be16At? buf 0
  let w1 ← be16At? buf 2
  let w2 ← be16At? buf 4
  return headerOfWords w0 w1 w2

/-- `tc_crc16`. -/
def tcCrc16? (buf : Bytes) (len : ℕ) : Option U16 := loadLoop crcOctet buf len 0 0xFFFF#16

/-- The last assignments of `tc_parse`, with `h` and the first octet behind it read. -/
def tcFieldsOf? (buf : Bytes) (h : CcsdsPriHdr) (sh : U8) : Option TcParsed := do
  let service ← load buf (ccsdsPriHdrLen + 1)
  let subtype ← load buf (ccsdsPriHdrLen + 2)
  let sourceId ← be16At? buf (ccsdsPriHdrLen + 3)
  let appData ← slice buf (ccsdsPriHdrLen + pusTcSecHdrLen) (buf.length - tcMinPacketLen)
  return ⟨h, ⟨sh &&& 0x0F#8, service, subtype, sourceId⟩, appData⟩

/-- `tc_parse`. -/
def tcParse? : Option Bytes → Option (Except TcError TcParsed)
  | none => some (.error .arg)
  | some buf =>
    let len := buf.length
    if len < tcMinPacketLen then some (.error .tooShort)
    else if len > tcMaxPacketLen then some (.error .tooLong)
    else do
      let h ← ccsdsParsePrimary? buf
      if h.dataLength.toNat + 1 + ccsdsPriHdrLen ≠ len then return .error .length
      let rxCrc ← be16At? buf (len - 2)
      let crc ← tcCrc16? buf (len - tcPecLen)
      if crc ≠ rxCrc then return .error .crc
      if h.version ≠ 0 ∨ h.type ≠ 1 ∨ h.secHdrFlag ≠ 1 ∨ h.seqFlags ≠ 3 then return .error .type
      if h.apid ≠ ccsdsApidCmd then return .error .apid
      let sh ← load buf ccsdsPriHdrLen
      if sh >>> 4 ≠ pusTcVersion then return .error .pusVersion
      let p ← tcFieldsOf? buf h sh
      return .ok p

theorem load_octet {buf : Bytes} {i : ℕ} (h : i < buf.length) :
    load buf i = some (octet buf i) := load_eq h 0

theorem be16At?_eq {buf : Bytes} {i : ℕ} (h : i + 1 < buf.length) :
    be16At? buf i = some (be16 (octet buf i) (octet buf (i + 1))) := by
  have hi : i < buf.length := by omega
  simp [be16At?, load_octet h, load_octet hi]

/-- Three octets do not hold a second word. -/
example : be16At? [0x18, 0x65, 0xC0] 2 = none := rfl

theorem ccsdsParsePrimary?_eq {buf : Bytes} (h : ccsdsPriHdrLen ≤ buf.length) :
    ccsdsParsePrimary? buf = some (ccsdsParsePrimary buf) := by
  rw [ccsdsPriHdrLen] at h
  have h0 : 0 + 1 < buf.length := by omega
  have h2 : 2 + 1 < buf.length := by omega
  have h4 : 4 + 1 < buf.length := by omega
  simp only [ccsdsParsePrimary?, be16At?_eq h0, be16At?_eq h2, be16At?_eq h4]
  rfl

theorem tcCrc16?_eq {buf : Bytes} {len : ℕ} (h : len ≤ buf.length) :
    tcCrc16? buf len = some (tcCrc16 (buf.take len)) := by
  rw [tcCrc16?, loadLoop_eq crcOctet (by omega)]
  rfl

/-- **The parser reads within the packet**, whatever its length. -/
theorem tcParse?_eq (buf : Option Bytes) : tcParse? buf = some (tcParse buf) := by
  cases buf with
  | none => rfl
  | some buf =>
      by_cases hmin : buf.length < tcMinPacketLen
      · simp [tcParse?, tcParse, hmin]
      by_cases hmax : buf.length > tcMaxPacketLen
      · simp [tcParse?, tcParse, hmin, hmax]
      have hlen : 13 ≤ buf.length := by
        simp only [tcMinPacketLen, ccsdsPriHdrLen, pusTcSecHdrLen, tcPecLen] at hmin
        omega
      have hpri : ccsdsParsePrimary? buf = some (ccsdsParsePrimary buf) :=
        ccsdsParsePrimary?_eq (by rw [ccsdsPriHdrLen]; omega)
      have hpec : be16At? buf (buf.length - 2) =
          some (be16 (octet buf (buf.length - 2)) (octet buf (buf.length - 1))) := by
        rw [be16At?_eq (by omega), show buf.length - 2 + 1 = buf.length - 1 by omega]
      have hcrc : tcCrc16? buf (buf.length - tcPecLen) =
          some (tcCrc16 (buf.take (buf.length - tcPecLen))) := tcCrc16?_eq (Nat.sub_le _ _)
      have hsh : load buf ccsdsPriHdrLen = some (octet buf ccsdsPriHdrLen) :=
        load_octet (by rw [ccsdsPriHdrLen]; omega)
      have hservice : load buf (ccsdsPriHdrLen + 1) = some (octet buf 7) :=
        load_octet (by rw [ccsdsPriHdrLen]; omega)
      have hsubtype : load buf (ccsdsPriHdrLen + 2) = some (octet buf 8) :=
        load_octet (by rw [ccsdsPriHdrLen]; omega)
      have hsource : be16At? buf (ccsdsPriHdrLen + 3) =
          some (be16 (octet buf 9) (octet buf 10)) :=
        be16At?_eq (by rw [ccsdsPriHdrLen]; omega)
      have happ : slice buf (ccsdsPriHdrLen + pusTcSecHdrLen) (buf.length - tcMinPacketLen) =
          some (tcFields buf).appData := by
        apply slice_eq
        simp only [tcMinPacketLen, ccsdsPriHdrLen, pusTcSecHdrLen, tcPecLen]
        omega
      have hfields : tcFieldsOf? buf (ccsdsParsePrimary buf) (octet buf ccsdsPriHdrLen) =
          some (tcFields buf) := by
        simp only [tcFieldsOf?, hservice, hsubtype, hsource, happ]
        rfl
      simp only [tcParse?, tcParse, hmin, hmax, if_false, hpri, hpec, hcrc, hsh, hfields,
        Option.bind_eq_bind, Option.bind_some, Option.pure_def, apply_ite some]

/-! ## Reports and handlers -/

variable {ω : Type}

/-- A builder writing `src`: octet `k` goes to offset `k` of the slot `out->count`. -/
def TmOut.write? (o : TmOut) (src : Bytes) : Option TmOut :=
  if o.count < uplinkMaxTmPerTc ∧ ∀ k < src.length, k < uplinkMaxTmLen then some (o.write src)
  else none

/-- `emit_verification`. -/
def emitVerification? (s : UplinkState ω) (vSubtype : U8) (pktId seqCtrl : U16)
    (failureCode : U8) : Option (UplinkState ω) := do
  let (src, tmSeq) :=
    buildVerification ccsdsApidCmd s.ctx.tmSeq vSubtype pktId seqCtrl failureCode
  let out ← s.out.write? src
  return { s with ctx := { s.ctx with tmSeq := tmSeq }, out := (tmOutAdd out src.length).1 }

/-- `if (flag) { emit_verification(...); }`, for a success report. -/
def emitIf (s : UplinkState ω) (flag : Prop) [Decidable flag] (vSubtype : U8)
    (pktId seqCtrl : U16) : UplinkState ω :=
  if flag then emitVerification s vSubtype pktId seqCtrl vfailNone else s

def emitIf? (s : UplinkState ω) (flag : Prop) [Decidable flag] (vSubtype : U8)
    (pktId seqCtrl : U16) : Option (UplinkState ω) :=
  if flag then emitVerification? s vSubtype pktId seqCtrl vfailNone else some s

/-- `handle_connection_test`. -/
def handleConnectionTest? (s : UplinkState ω) : Option (U8 × UplinkState ω) := do
  let ctx := { s.ctx with connTests := s.ctx.connTests + 1 }
  let (src, tmSeq) := buildConnTestReport ccsdsApidCmd ctx.tmSeq
  let out ← s.out.write? src
  let (out, added) := tmOutAdd out src.length
  return (if added then vfailNone else vfailExecError,
    { s with ctx := { ctx with tmSeq := tmSeq }, out := out })

/-- `exit_safe_hook`, with its accesses checked. -/
abbrev Hook? (ω : Type) := UplinkCtx → ω → Option (ℤ × ω)

/-- `handle_exit_safe`. -/
def handleExitSafe? (hook : Hook? ω) (s : UplinkState ω) : Option (U8 × UplinkState ω) :=
  if !s.ctx.exitSafeHook then some (vfailExecError, s)
  else do
    let (r, world) ← hook s.ctx s.world
    return (if r ≠ 0 then vfailNone else vfailExecError, { s with world := world })

/-- The call through the table. -/
def CmdHandler.run? (hook : Hook? ω) : CmdHandler → UplinkState ω → Option (U8 × UplinkState ω)
  | .connectionTest => handleConnectionTest?
  | .exitSafe => handleExitSafe? hook

/-- Execution and completion in `uplink_handle_tc`, of a command that `cmd_find` has
looked up for the second time. -/
def executeTc (hook : Hook ω) (s : UplinkState ω) (p : TcParsed) (pktId seqCtrl : U16)
    (e : CmdEntry) : UplinkResult × UplinkState ω :=
  let s := { s with ctx := { s.ctx with executed := s.ctx.executed + 1 } }
  let (fail, s) := e.handler.run hook s
  if fail ≠ vfailNone then (.ok, emitVerification s pusVerCompleteFail pktId seqCtrl fail)
  else if p.tc.ackFlags &&& pusAckComplete ≠ 0 then
    (.ok, emitVerification s pusVerCompleteOk pktId seqCtrl vfailNone)
  else (.ok, s)

def executeTc? (hook : Hook? ω) (s : UplinkState ω) (p : TcParsed) (pktId seqCtrl : U16)
    (e : CmdEntry) : Option (UplinkResult × UplinkState ω) := do
  let s := { s with ctx := { s.ctx with executed := s.ctx.executed + 1 } }
  let (fail, s) ← e.handler.run? hook s
  if fail ≠ vfailNone then
    let s ← emitVerification? s pusVerCompleteFail pktId seqCtrl fail
    return (.ok, s)
  else if p.tc.ackFlags &&& pusAckComplete ≠ 0 then
    let s ← emitVerification? s pusVerCompleteOk pktId seqCtrl vfailNone
    return (.ok, s)
  else return (.ok, s)

/-- `uplink_handle_tc`. -/
def uplinkHandleTc? (hook : Hook? ω) (s : UplinkState ω) (buf : Option Bytes) :
    Option (UplinkResult × UplinkState ω) := do
  let s := { s with out := { s.out with count := 0 } }
  match ← tcParse? buf with
  | .error st =>
    match buf with
    | some b =>
      if 4 ≤ b.length then
        let s := { s with ctx := { s.ctx with rejected := s.ctx.rejected + 1 } }
        let pktId ← be16At? b 0
        let seqCtrl ← be16At? b 2
        let s ← emitVerification? s pusVerAcceptFail pktId seqCtrl (failureForParseError st)
        return (.parse st, s)
      else return (.parse st, { s with ctx := { s.ctx with dropped := s.ctx.dropped + 1 } })
    | none => return (.parse st, { s with ctx := { s.ctx with dropped := s.ctx.dropped + 1 } })
  | .ok p =>
    let b := buf.getD []
    let pktId ← be16At? b 0
    let seqCtrl ← be16At? b 2
    let d := dispatch (some p.tc) p.appData
    if d ≠ .ok then
      let s := { s with ctx := { s.ctx with rejected := s.ctx.rejected + 1 } }
      let s ← emitVerification? s pusVerAcceptFail pktId seqCtrl
        (if d = .unknown then vfailUnknownCmd else vfailBadAppData)
      return (if d = .unknown then .unknownCmd else .badAppData, s)
    else
      let s := { s with ctx := { s.ctx with accepted := s.ctx.accepted + 1 } }
      let s ← emitIf? s (p.tc.ackFlags &&& pusAckAccept ≠ 0) pusVerAcceptOk pktId seqCtrl
      let s ← emitIf? s (p.tc.ackFlags &&& pusAckStart ≠ 0) pusVerStartOk pktId seqCtrl
      -- `none` here is the call through a null entry
      let e ← cmdFind p.tc.service p.tc.subtype
      executeTc? hook s p pktId seqCtrl e

theorem TmOut.write?_eq {o : TmOut} {src : Bytes} (hc : o.count < uplinkMaxTmPerTc)
    (hs : src.length ≤ uplinkMaxTmLen) : o.write? src = some (o.write src) :=
  if_pos ⟨hc, fun _ hk => hk.trans_le hs⟩

theorem count_tmOutAdd_le (o : TmOut) (n : ℕ) : (tmOutAdd o n).1.count ≤ o.count + 1 := by
  unfold tmOutAdd
  split
  · exact Nat.le_succ _
  · exact le_rfl

/-- Every verification report fits a slot, also one that is not built. -/
theorem length_buildVerification_le (tmApid tmSeq : U16) (v : U8) (i c : U16) (f : U8) :
    (buildVerification tmApid tmSeq v i c f).1.length ≤ uplinkMaxTmLen := by
  by_cases hv : 1#8 ≤ v ∧ v ≤ 8#8
  · have hdata := length_verificationData_le v i c f
    rw [buildVerification_eq _ _ hv, length_tmPacket, uplinkMaxTmLen, verifyReportMaxLen]
    omega
  · have hrange : v < pusVerAcceptOk ∨ v > pusVerCompleteFail := by
      rw [not_and_or, BitVec.not_le, BitVec.not_le] at hv
      exact hv
    rw [buildVerification, if_pos hrange]
    exact Nat.zero_le _

theorem length_connTestReport_le {tmApid tmSeq : U16} :
    (buildConnTestReport tmApid tmSeq).1.length ≤ uplinkMaxTmLen := by
  rw [buildConnTestReport_eq, length_tmPacket]
  decide

section Reports

variable {s : UplinkState ω}

/-- **A report goes into a free slot**, all of it. -/
theorem emitVerification?_eq (hc : s.out.count < uplinkMaxTmPerTc) (v : U8) (i c : U16) (f : U8) :
    emitVerification? s v i c f = some (emitVerification s v i c f) := by
  have hlen := length_buildVerification_le ccsdsApidCmd s.ctx.tmSeq v i c f
  simp only [emitVerification?, TmOut.write?_eq hc hlen]
  rfl

theorem count_emitVerification_le (v : U8) (i c : U16) (f : U8) :
    (emitVerification s v i c f).out.count ≤ s.out.count + 1 := count_tmOutAdd_le _ _

theorem emitIf?_eq (hc : s.out.count < uplinkMaxTmPerTc) (flag : Prop) [Decidable flag] (v : U8)
    (i c : U16) : emitIf? s flag v i c = some (emitIf s flag v i c) := by
  rw [emitIf?, emitIf, emitVerification?_eq hc, apply_ite some]

theorem count_emitIf_le (flag : Prop) [Decidable flag] (v : U8) (i c : U16) :
    (emitIf s flag v i c).out.count ≤ s.out.count + 1 := by
  rw [emitIf]
  split
  · exact count_emitVerification_le v i c vfailNone
  · exact Nat.le_succ _

theorem run?_eq {hook? : Hook? ω} {hook : Hook ω} (hhook : ∀ c w, hook? c w = some (hook c w))
    (hc : s.out.count < uplinkMaxTmPerTc) (h : CmdHandler) :
    h.run? hook? s = some (h.run hook s) := by
  cases h with
  | connectionTest =>
      simp only [CmdHandler.run?, handleConnectionTest?, TmOut.write?_eq hc length_connTestReport_le]
      rfl
  | exitSafe =>
      simp only [CmdHandler.run?, CmdHandler.run, handleExitSafe?, handleExitSafe, hhook]
      split <;> rfl

theorem count_run_le (hook : Hook ω) (h : CmdHandler) :
    (h.run hook s).2.out.count ≤ s.out.count + 1 := by
  cases h with
  | connectionTest => exact count_tmOutAdd_le _ _
  | exitSafe =>
      simp only [CmdHandler.run, handleExitSafe]
      split <;> exact Nat.le_succ _

/-- Execution and completion need two slots. -/
theorem executeTc?_eq {hook? : Hook? ω} {hook : Hook ω} (hhook : ∀ c w, hook? c w = some (hook c w))
    (hc : s.out.count + 1 < uplinkMaxTmPerTc) (p : TcParsed) (i c : U16) (e : CmdEntry) :
    executeTc? hook? s p i c e = some (executeTc hook s p i c e) := by
  let s' : UplinkState ω := { s with ctx := { s.ctx with executed := s.ctx.executed + 1 } }
  have hrun : e.handler.run? hook? s' = some (e.handler.run hook s') :=
    run?_eq (s := s') hhook (Nat.lt_of_succ_lt hc) e.handler
  have hcount : (e.handler.run hook s').2.out.count < uplinkMaxTmPerTc :=
    (count_run_le (s := s') hook e.handler).trans_lt hc
  simp only [executeTc?, executeTc]
  change (e.handler.run? hook? s').bind _ = _
  rw [hrun, Option.bind_some]
  rw [emitVerification?_eq hcount, emitVerification?_eq hcount]
  split
  · rfl
  · split <;> rfl

/-- Two acknowledgements and an execution find the four slots they need, with the first
of them free. -/
theorem acknowledged?_eq {hook? : Hook? ω} {hook : Hook ω}
    (hhook : ∀ c w, hook? c w = some (hook c w)) (hc : s.out.count = 0) (start accept : Prop)
    [Decidable start] [Decidable accept] (p : TcParsed) (i c : U16) (e : CmdEntry) :
    ((emitIf? s accept pusVerAcceptOk i c).bind fun s =>
        (emitIf? s start pusVerStartOk i c).bind fun s => executeTc? hook? s p i c e) =
      some (executeTc hook
        (emitIf (emitIf s accept pusVerAcceptOk i c) start pusVerStartOk i c) p i c e) := by
  have hslots : uplinkMaxTmPerTc = 4 := rfl
  set s₁ := emitIf s accept pusVerAcceptOk i c with hs₁
  have h₁ : s₁.out.count ≤ s.out.count + 1 := count_emitIf_le accept pusVerAcceptOk i c
  set s₂ := emitIf s₁ start pusVerStartOk i c with hs₂
  have h₂ : s₂.out.count ≤ s₁.out.count + 1 := count_emitIf_le start pusVerStartOk i c
  rw [emitIf?_eq (by omega), Option.bind_some, ← hs₁, emitIf?_eq (by omega), Option.bind_some,
    ← hs₂]
  exact executeTc?_eq hhook (by omega) p i c e

end Reports

/-! ## The command path -/

/-- **The second look-up finds what the first has found**: after `dispatch` has
accepted a command, its entry is not null. -/
theorem exists_entry {p : TcParsed} (hd : dispatch (some p.tc) p.appData = .ok) :
    ∃ e, cmdFind p.tc.service p.tc.subtype = some e := by
  rcases Option.eq_none_or_eq_some (cmdFind p.tc.service p.tc.subtype) with hf | hf
  · rw [dispatch_unknown hf] at hd
    cases hd
  · exact hf

/-- An accepted command: at most two reports, then its execution. -/
theorem uplinkHandleTc_execute (hook : Hook ω) (s : UplinkState ω) {b : Bytes} {p : TcParsed}
    {e : CmdEntry} (hp : tcParse (some b) = .ok p) (hd : dispatch (some p.tc) p.appData = .ok)
    (he : cmdFind p.tc.service p.tc.subtype = some e) :
    uplinkHandleTc hook s (some b) =
      executeTc hook
        (emitIf
          (emitIf
            { s with
              ctx := { s.ctx with accepted := s.ctx.accepted + 1 }
              out := { s.out with count := 0 } }
            (p.tc.ackFlags &&& pusAckAccept ≠ 0) pusVerAcceptOk (be16 (octet b 0) (octet b 1))
            (be16 (octet b 2) (octet b 3)))
          (p.tc.ackFlags &&& pusAckStart ≠ 0) pusVerStartOk (be16 (octet b 0) (octet b 1))
          (be16 (octet b 2) (octet b 3)))
        p (be16 (octet b 0) (octet b 1)) (be16 (octet b 2) (octet b 3)) e := by
  simp only [uplinkHandleTc, hp, Option.getD_some, hd, ne_eq, not_true_eq_false, if_false, he]
  rfl

/-- **The command path stays in range**, for any bytes, with any hook that does. -/
theorem uplinkHandleTc?_eq {hook? : Hook? ω} {hook : Hook ω}
    (hhook : ∀ c w, hook? c w = some (hook c w)) (s : UplinkState ω) (buf : Option Bytes) :
    uplinkHandleTc? hook? s buf = some (uplinkHandleTc hook s buf) := by
  have hfree : 0 < uplinkMaxTmPerTc := by decide
  cases hp : tcParse buf with
  | error st =>
      unfold uplinkHandleTc? uplinkHandleTc
      rw [tcParse?_eq, hp]
      cases buf with
      | none => rfl
      | some b =>
          by_cases hlen : 4 ≤ b.length
          · have hpktId := be16At?_eq (show 0 + 1 < b.length by omega)
            have hseqCtrl := be16At?_eq (show 2 + 1 < b.length by omega)
            simp only [hlen, if_true, hpktId, hseqCtrl, Option.bind_eq_bind, Option.bind_some]
            rw [emitVerification?_eq hfree]
            rfl
          · simp only [hlen, if_false]
            rfl
  | ok p =>
      cases buf with
      | none => cases hp
      | some b =>
          have hmin := (wellFormedTc_of_ok hp).min_len
          simp only [tcMinPacketLen, ccsdsPriHdrLen, pusTcSecHdrLen, tcPecLen] at hmin
          have hpktId : be16At? b 0 = some (be16 (octet b 0) (octet b 1)) :=
            be16At?_eq (by omega)
          have hseqCtrl : be16At? b 2 = some (be16 (octet b 2) (octet b 3)) :=
            be16At?_eq (by omega)
          by_cases hd : dispatch (some p.tc) p.appData = .ok
          · obtain ⟨e, he⟩ := exists_entry hd
            rw [uplinkHandleTc_execute hook s hp hd he]
            unfold uplinkHandleTc?
            rw [tcParse?_eq, hp]
            simp only [Option.getD_some, hpktId, hseqCtrl, he, hd, Option.bind_eq_bind,
              Option.bind_some, ne_eq, not_true_eq_false, if_false]
            exact acknowledged?_eq hhook rfl _ _ p _ _ e
          · unfold uplinkHandleTc? uplinkHandleTc
            rw [tcParse?_eq, hp]
            simp only [Option.getD_some, hpktId, hseqCtrl, Option.bind_eq_bind, Option.bind_some,
              hd, ne_eq, not_false_eq_true, if_true]
            rw [emitVerification?_eq hfree]
            rfl

/-! ## Reading the reports back -/

/-- `out.pkt[i]`, `out.len[i]`: a report as the router takes it out. -/
def TmOut.report? (o : TmOut) (i : ℕ) : Option Bytes := do
  let slot ← o.pkt[i]?
  let n ← o.len[i]?
  if n ≤ uplinkMaxTmLen then slice slot 0 n else none

/-- The counted slots hold as many octets as `len` says, within their room. -/
structure TmOut.Filled (o : TmOut) : Prop where
  count_le : o.count ≤ uplinkMaxTmPerTc
  len_le : ∀ i < o.count, o.len[i]?.getD 0 ≤ (o.pkt[i]?.getD []).length
  len_le_max : ∀ i < o.count, o.len[i]?.getD 0 ≤ uplinkMaxTmLen

theorem TmOut.Filled.of_count_eq_zero {o : TmOut} (h : o.count = 0) : o.Filled :=
  ⟨h ▸ Nat.zero_le _, fun _ hi => absurd hi (h ▸ Nat.not_lt_zero _),
    fun _ hi => absurd hi (h ▸ Nat.not_lt_zero _)⟩

/-- **A report read back** stays within its slot. -/
theorem TmOut.Filled.report?_eq {o : TmOut} (h : o.Filled) {i : ℕ} (hi : i < o.count) :
    o.report? i = some (o.report i) := by
  have hin : i < uplinkMaxTmPerTc := hi.trans_le h.count_le
  have hlen := h.len_le i hi
  have hmax := h.len_le_max i hi
  rw [Vector.getElem?_eq_getElem hin, Option.getD_some] at hlen hmax
  rw [Vector.getElem?_eq_getElem hin, Option.getD_some] at hlen
  simp only [TmOut.report?, TmOut.report, Vector.getElem?_eq_getElem hin, Option.bind_eq_bind,
    Option.bind_some, Option.getD_some, hmax, if_true]
  exact slice_zero hlen

theorem TmOut.Filled.send {o : TmOut} (h : o.Filled) {src : Bytes}
    (hs : src.length ≤ uplinkMaxTmLen) : (o.send src).Filled := by
  have hwrite : (o.write src).Filled := by
    constructor
    · exact h.count_le
    · intro i hi
      have hne : o.count ≠ i := (show i < o.count from hi).ne'
      rw [TmOut.write, Vector.getElem?_setIfInBounds_ne hne]
      exact h.len_le i hi
    · exact h.len_le_max
  rw [TmOut.send, tmOutAdd]
  split
  · exact hwrite
  · rename_i hroom
    have hc : o.count < uplinkMaxTmPerTc := by
      rw [not_or, not_le] at hroom
      exact hroom.1
    -- the slots below keep what they had, and the new one holds `src`
    have hold : ∀ i < o.count + 1, i ≠ o.count → i < o.count := fun i hi hne => by omega
    constructor
    · exact hc
    · intro i hi
      by_cases hnew : i = o.count
      · subst hnew
        simp only [TmOut.write, Vector.getElem?_setIfInBounds_self_of_lt hc, Option.getD_some,
          List.length_append]
        omega
      · simp only [Vector.getElem?_setIfInBounds_ne (Ne.symm hnew), TmOut.write]
        exact h.len_le i (hold i hi hnew)
    · intro i hi
      by_cases hnew : i = o.count
      · subst hnew
        simp only [TmOut.write, Vector.getElem?_setIfInBounds_self_of_lt hc, Option.getD_some]
        exact hs
      · simp only [Vector.getElem?_setIfInBounds_ne (Ne.symm hnew), TmOut.write]
        exact h.len_le_max i (hold i hi hnew)

section Filled

variable {s : UplinkState ω} (h : s.out.Filled)

include h

theorem filled_emitVerification (v : U8) (i c : U16) (f : U8) :
    (emitVerification s v i c f).out.Filled :=
  h.send (length_buildVerification_le ccsdsApidCmd s.ctx.tmSeq v i c f)

theorem filled_emitIf (flag : Prop) [Decidable flag] (v : U8) (i c : U16) :
    (emitIf s flag v i c).out.Filled := by
  rw [emitIf]
  split
  · exact filled_emitVerification h v i c vfailNone
  · exact h

theorem filled_run (hook : Hook ω) (handler : CmdHandler) :
    (handler.run hook s).2.out.Filled := by
  cases handler with
  | connectionTest => exact h.send length_connTestReport_le
  | exitSafe =>
      simp only [CmdHandler.run, handleExitSafe]
      split <;> exact h

theorem filled_executeTc (hook : Hook ω) (p : TcParsed) (i c : U16) (e : CmdEntry) :
    (executeTc hook s p i c e).2.out.Filled := by
  let s' : UplinkState ω := { s with ctx := { s.ctx with executed := s.ctx.executed + 1 } }
  have hrun : (e.handler.run hook s').2.out.Filled := filled_run (s := s') h hook e.handler
  simp only [executeTc]
  split
  · exact filled_emitVerification hrun _ _ _ _
  · split
    · exact filled_emitVerification hrun _ _ _ _
    · exact hrun

end Filled

/-- **The reports the command path leaves behind** fill their slots. -/
theorem filled_uplinkHandleTc (hook : Hook ω) (s : UplinkState ω) (buf : Option Bytes) :
    (uplinkHandleTc hook s buf).2.out.Filled := by
  have hstart : ∀ o : TmOut, TmOut.Filled { o with count := 0 } := fun _ => .of_count_eq_zero rfl
  cases hp : tcParse buf with
  | error st =>
      simp only [uplinkHandleTc, hp]
      cases buf with
      | none => exact hstart s.out
      | some b =>
          simp only
          split
          · exact filled_emitVerification (hstart s.out) _ _ _ _
          · exact hstart s.out
  | ok p =>
      cases buf with
      | none => cases hp
      | some b =>
          by_cases hd : dispatch (some p.tc) p.appData = .ok
          · obtain ⟨e, he⟩ := exists_entry hd
            rw [uplinkHandleTc_execute hook s hp hd he]
            exact filled_executeTc (filled_emitIf (filled_emitIf (hstart s.out) _ _ _ _) _ _ _ _)
              hook p _ _ e
          · simp only [uplinkHandleTc, hp, hd, ne_eq, not_false_eq_true, if_true]
            exact filled_emitVerification (hstart s.out) _ _ _ _

end Tmtc
end SpacecraftFsw
