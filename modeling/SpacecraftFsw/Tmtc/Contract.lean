import SpacecraftFsw.Tmtc.Uplink

/-!
# The telecommand contract

What the ground can rely on when it sends a command, whatever bytes arrive.

* `tcChecks` — the checks of the command path as one ordered list, each with the
  result and the failure code it leads to.
* `verdict_eq` — the code's verdict is the first check of that list the
  packet fails.
* `uplinkHandleTc_contract` — counters, execution, return value and the exact
  sequence of reports of one call.
-/

namespace SpacecraftFsw
namespace Tmtc

variable {ω : Type}

/-! ## The checks, in order -/

/-- One check of the command path. -/
structure TcCheck where
  passes : Bytes → Bool
  result : UplinkResult
  code : U8

/-- The checks of `tc_parse`, with their failure codes. -/
def parseChecks : List ((Bytes → Bool) × TcError × U8) :=
  [(fun b => 13 ≤ b.length, .tooShort, 1),
    (fun b => b.length ≤ 256, .tooLong, 1),
    (fun b => (ccsdsParsePrimary b).dataLength.toNat + 7 = b.length, .length, 1),
    (fun b => tcCrc16 (b.take (b.length - 2)) =
      be16 (octet b (b.length - 2)) (octet b (b.length - 1)), .crc, 2),
    (fun b => (ccsdsParsePrimary b).version = 0 ∧ (ccsdsParsePrimary b).type = 1 ∧
      (ccsdsParsePrimary b).secHdrFlag = 1 ∧ (ccsdsParsePrimary b).seqFlags = 3, .type, 3),
    (fun b => (ccsdsParsePrimary b).apid = 0x065, .apid, 4),
    (fun b => octet b 6 >>> 4 = 2, .pusVersion, 3)]

/-- The checks of `dispatch`: a known service and subtype, and no application
data. -/
def commandChecks : List TcCheck :=
  [⟨fun b => (octet b 7, octet b 8) = (17, 1) ∨ (octet b 7, octet b 8) = (130, 1), .unknownCmd, 5⟩,
    ⟨fun b => b.length = 13, .badAppData, 6⟩]

/-- Every check, in the order it is made. -/
def tcChecks : List TcCheck :=
  parseChecks.map (fun c => ⟨c.1, .parse c.2.1, c.2.2⟩) ++ commandChecks

/-- The first check that `b` fails. -/
def firstFailure (b : Bytes) : Option TcCheck := tcChecks.find? fun c => !c.passes b

/-! ## The verdict is the first failed check -/

/-- Making checks one after the other, up to the first that fails. -/
def runChecks (b : Bytes) : List ((Bytes → Bool) × TcError × U8) → Except TcError TcParsed
  | [] => .ok (tcFields b)
  | c :: cs => if c.1 b then runChecks b cs else .error c.2.1

theorem runChecks_eq_find (b : Bytes) (cs : List ((Bytes → Bool) × TcError × U8)) :
    runChecks b cs =
      match cs.find? fun c => !c.1 b with
      | some c => .error c.2.1
      | none => .ok (tcFields b) := by
  induction cs with
  | nil => rfl
  | cons c cs ih =>
      rw [runChecks, List.find?_cons]
      cases h : c.1 b <;> simp [ih]

/-- The parser is its list of checks. -/
theorem tcParse_eq_runChecks (b : Bytes) : tcParse (some b) = runChecks b parseChecks := by
  unfold tcParse ccsdsApidCmd pusTcVersion ccsdsPriHdrLen
  simp only [tcMinPacketLen, tcMaxPacketLen, ccsdsPriHdrLen, pusTcSecHdrLen, tcPecLen,
    Nat.reduceAdd, Nat.add_assoc, gt_iff_lt, ← not_le, ne_eq, ← not_and_or, ite_not, parseChecks,
    runChecks, decide_eq_true_eq]

theorem parseChecks_code : ∀ c ∈ parseChecks, c.2.2 = failureForParseError c.2.1 := by
  simp [parseChecks, failureForParseError, vfailIllegalLen, vfailBadCrc, vfailBadHeader,
    vfailBadApid]

/-- Only the first check can fail on a packet too short to name. -/
theorem find?_parseChecks_short {b : Bytes} (h : b.length < 4) :
    ∃ c, parseChecks.find? (fun c => !c.1 b) = some c ∧ c.2.1 = .tooShort := by
  have hmin : ¬13 ≤ b.length := by omega
  refine ⟨_, List.find?_cons_of_pos ?_, rfl⟩
  simp only [hmin, decide_false, Bool.not_false]

theorem cmdFind_eq_some_iff {service subtype : U8} {e : CmdEntry} :
    cmdFind service subtype = some e ↔
      (service, subtype) = (17, 1) ∧ e = ⟨17, 1, 0, .connectionTest⟩ ∨
      (service, subtype) = (130, 1) ∧ e = ⟨130, 1, 0, .exitSafe⟩ := by
  simp only [cmdFind, cmdTable, List.find?_cons, List.find?_nil, Prod.mk.injEq, pusServiceTest,
    pusTestConnectionTest, cmdServiceFdirCtrl, cmdExitSafeMode]
  by_cases h17 : service = 17 ∧ subtype = 1
  · obtain ⟨rfl, rfl⟩ := h17
    simp [eq_comm]
  · by_cases h130 : service = 130 ∧ subtype = 1
    · obtain ⟨rfl, rfl⟩ := h130
      simp [eq_comm]
    · have hfind : ∀ a b : U8, ¬(service = a ∧ subtype = b) →
          (a == service && b == subtype) = false := by
        intro a b hab
        rw [← Bool.not_eq_true, Bool.and_eq_true, beq_iff_eq, beq_iff_eq]
        exact fun h => hab ⟨h.1.symm, h.2.symm⟩
      simp only [hfind 17 1 h17, hfind 130 1 h130, h17, h130, false_and, or_self, reduceCtorEq]

/-- **The verdict**: the first failed check decides a refusal, and a packet that
passes all of them is accepted with its fields. -/
theorem verdict_eq (b : Bytes) :
    verdict (some b) =
      match firstFailure b with
      | some c => if 4 ≤ b.length then .refused c.result c.code else .unidentified .tooShort
      | none => .accepted (tcFields b) (if octet b 7 = 17 then .connectionTest else .exitSafe) := by
  have hparse := tcParse_eq_runChecks b
  rw [runChecks_eq_find] at hparse
  rw [firstFailure, tcChecks, List.find?_append, List.find?_map]
  rcases Option.eq_none_or_eq_some (parseChecks.find? fun c => !c.1 b) with hnone | ⟨c, hc⟩
  · have happ : (tcFields b).appData.length = b.length - 13 := by
      simp only [tcFields, List.length_take, List.length_drop, tcMinPacketLen, ccsdsPriHdrLen,
        pusTcSecHdrLen, tcPecLen]
      omega
    have hmin : 13 ≤ b.length := (wellFormedTc_of_ok (hparse.trans (by rw [hnone]))).min_len
    have hfour : 4 ≤ b.length := by omega
    simp only [Function.comp_def, hnone, verdict, hparse, Option.map_none, Option.none_or,
      commandChecks, List.find?_cons, List.find?_nil]
    by_cases hcmd : (octet b 7, octet b 8) = (17, 1) ∨ (octet b 7, octet b 8) = (130, 1)
    swap
    · have hfind : cmdFind (tcFields b).tc.service (tcFields b).tc.subtype = none := by
        rw [Option.eq_none_iff_forall_ne_some]
        intro e he
        exact hcmd ((cmdFind_eq_some_iff.1 he).imp And.left And.left)
      simp only [hfind, hcmd, hfour, decide_false, Bool.not_false, if_true]
      rfl
    · have hfind : cmdFind (tcFields b).tc.service (tcFields b).tc.subtype = some ⟨octet b 7, 1, 0,
          if octet b 7 = 17 then .connectionTest else .exitSafe⟩ := by
        rw [cmdFind_eq_some_iff]
        refine hcmd.imp (fun h => ⟨h, ?_⟩) (fun h => ⟨h, ?_⟩)
        · rw [show octet b 7 = 17 from (Prod.mk.inj h).1]; rfl
        · rw [show octet b 7 = 130 from (Prod.mk.inj h).1]; rfl
      by_cases hlen : b.length = 13
      · simp only [hfind, hcmd, hlen, happ, decide_true, Bool.not_true, Nat.sub_self, ne_eq,
          not_true_eq_false, if_false]
      · have hsub : b.length - 13 ≠ 0 := by omega
        simp only [hfind, hcmd, hlen, happ, hsub, hfour, decide_true, decide_false, Bool.not_true,
          Bool.not_false, ne_eq, not_false_eq_true, if_true]
        rfl
  · rw [hc] at hparse
    have hcode := parseChecks_code c (List.mem_of_find?_eq_some hc)
    simp only [Function.comp_def, hc, verdict, hparse, Option.map_some, Option.some_or, hcode]
    split
    · rfl
    · rename_i hshort
      obtain ⟨c', hc', herr⟩ := find?_parseChecks_short (b := b) (by omega)
      rw [hc] at hc'
      rw [Option.some.inj hc', herr]

/-- A command with a handler, and nothing behind its header. -/
def IsCommand (p : TcParsed) : Prop :=
  ((p.tc.service, p.tc.subtype) = (17, 1) ∨ (p.tc.service, p.tc.subtype) = (130, 1)) ∧
    p.appData = []

/-- An accepted packet parses, carries no application data, and names the handler
that runs. -/
theorem verdict_accepted {buf : Option Bytes} {p : TcParsed} {handler : CmdHandler}
    (h : verdict buf = .accepted p handler) :
    tcParse buf = .ok p ∧ p.appData = [] ∧
      ((p.tc.service, p.tc.subtype) = (17, 1) ∧ handler = .connectionTest ∨
        (p.tc.service, p.tc.subtype) = (130, 1) ∧ handler = .exitSafe) := by
  unfold verdict at h
  split at h
  · cases h
  split at h
  · split at h <;> cases h
  rename_i b p' hp
  split at h
  · cases h
  rename_i e hf
  split at h
  · cases h
  rename_i happ
  obtain ⟨rfl, rfl⟩ := Verdict.accepted.inj h
  rcases cmdFind_eq_some_iff.1 hf with ⟨hpair, rfl⟩ | ⟨hpair, rfl⟩
  · exact ⟨hp, List.length_eq_zero_iff.1 (not_not.1 happ), .inl ⟨hpair, rfl⟩⟩
  · exact ⟨hp, List.length_eq_zero_iff.1 (not_not.1 happ), .inr ⟨hpair, rfl⟩⟩

theorem verdict_of_find {b : Bytes} {p : TcParsed} {e : CmdEntry} (hp : tcParse (some b) = .ok p)
    (happ : p.appData = []) (hf : cmdFind p.tc.service p.tc.subtype = some e)
    (hlen : e.appLen = 0) : verdict (some b) = .accepted p e.handler := by
  simp only [verdict, hp, hf, happ, hlen, List.length_nil, ne_eq, not_true_eq_false, if_false]

theorem verdict_connectionTest {b : Bytes} {p : TcParsed} (hp : tcParse (some b) = .ok p)
    (happ : p.appData = []) (hpair : (p.tc.service, p.tc.subtype) = (17, 1)) :
    verdict (some b) = .accepted p .connectionTest :=
  verdict_of_find hp happ (cmdFind_eq_some_iff.2 (.inl ⟨hpair, rfl⟩)) rfl

theorem verdict_exitSafe {b : Bytes} {p : TcParsed} (hp : tcParse (some b) = .ok p)
    (happ : p.appData = []) (hpair : (p.tc.service, p.tc.subtype) = (130, 1)) :
    verdict (some b) = .accepted p .exitSafe :=
  verdict_of_find hp happ (cmdFind_eq_some_iff.2 (.inr ⟨hpair, rfl⟩)) rfl

theorem verdict_unidentified {buf : Option Bytes} {e : TcError} (h : verdict buf = .unidentified e) :
    buf = none ∨ ∃ b, buf = some b ∧ b.length < 4 := by
  cases buf with
  | none => exact .inl rfl
  | some b =>
      rw [verdict_eq] at h
      split at h
      · split at h
        · cases h
        · exact .inr ⟨b, rfl, by omega⟩
      · cases h

theorem verdict_refused {buf : Option Bytes} {res : UplinkResult} {code : U8}
    (h : verdict buf = .refused res code) :
    ∃ b c, buf = some b ∧ 4 ≤ b.length ∧ firstFailure b = some c ∧ res = c.result ∧
      code = c.code := by
  cases buf with
  | none => cases h
  | some b =>
      rw [verdict_eq] at h
      split at h
      · rename_i c hc
        split at h
        · rename_i hlen
          obtain ⟨rfl, rfl⟩ := Verdict.refused.inj h
          exact ⟨b, c, rfl, hlen, hc, rfl, rfl⟩
        · cases h
      · cases h

/-! ## The contract -/

/-- The reports owed for an accepted command in `b`: acceptance and start on
request, the service report, then a completion failure whatever the flags say, or
a completion success on request. -/
def owedReports (b : Bytes) (p : TcParsed) (failed : Bool) : List Report :=
  (if p.tc.ackFlags.getLsbD 3 then [⟨1, 1, b.take 4⟩] else []) ++
  (if p.tc.ackFlags.getLsbD 2 then [⟨1, 3, b.take 4⟩] else []) ++
  (if p.tc.service = 17 then [⟨17, 2, []⟩] else []) ++
  (if failed then [⟨1, 8, b.take 4 ++ [7]⟩]
    else if p.tc.ackFlags.getLsbD 0 then [⟨1, 7, b.take 4⟩] else [])

theorem length_owedReports_le (b : Bytes) (p : TcParsed) (failed : Bool) :
    (owedReports b p failed).length ≤ 4 := by
  have hite : ∀ (q : Prop) [Decidable q] (r : Report), (if q then [r] else []).length ≤ 1 := by
    intro q _ r
    split <;> simp
  have hlast : (if failed = true then [(⟨1, 8, b.take 4 ++ [7]⟩ : Report)]
      else if p.tc.ackFlags.getLsbD 0 = true then [⟨1, 7, b.take 4⟩] else []).length ≤ 1 := by
    split
    · simp
    · exact hite _ _
  have h₁ := hite (p.tc.ackFlags.getLsbD 3 = true) ⟨1, 1, b.take 4⟩
  have h₂ := hite (p.tc.ackFlags.getLsbD 2 = true) ⟨1, 3, b.take 4⟩
  have h₃ := hite (p.tc.service = 17) ⟨17, 2, []⟩
  simp only [owedReports, List.length_append]
  omega

theorem length_data_owedReports (b : Bytes) (p : TcParsed) (failed : Bool) :
    ∀ r ∈ owedReports b p failed, r.data.length ≤ 5 := by
  intro r hr
  have htake : (b.take 4).length ≤ 4 := by simp
  simp only [owedReports, List.mem_append, List.mem_ite_nil_right, List.mem_singleton] at hr
  rcases hr with ((⟨-, rfl⟩ | ⟨-, rfl⟩) | ⟨-, rfl⟩) | hr
  · exact htake.trans (by omega)
  · exact htake.trans (by omega)
  · exact Nat.zero_le _
  · split at hr
    · rw [List.mem_singleton.1 hr, List.length_append, List.length_singleton]
      omega
    · rw [(List.mem_ite_nil_right.1 hr).2 |> List.mem_singleton.1]
      exact htake.trans (by omega)

theorem ack_bits : ∀ ack : U8, (ack &&& pusAckAccept ≠ 0 ↔ ack.getLsbD 3 = true) ∧
    (ack &&& pusAckStart ≠ 0 ↔ ack.getLsbD 2 = true) ∧
    (ack &&& pusAckComplete ≠ 0 ↔ ack.getLsbD 0 = true) := by
  decide +kernel

theorem take_four {b : Bytes} (hb : 4 ≤ b.length) :
    b.take 4 = [octet b 0, octet b 1, octet b 2, octet b 3] := by
  match b, hb with
  | _ :: _ :: _ :: _ :: _, _ => rfl

/-- A failure report quotes the first four octets of the command, and the code. -/
theorem verificationReport_failure {b : Bytes} (hb : 4 ≤ b.length) {v : U8} (hv : v % 2 = 0)
    (f : U8) : verificationReport b v f = ⟨1, v, b.take 4 ++ [f]⟩ := by
  rw [verificationReport, verificationData, if_pos hv, hi8_be16, lo8_be16, hi8_be16, lo8_be16,
    take_four hb]
  rfl

/-- A success report quotes the first four octets of the command. -/
theorem verificationReport_success {b : Bytes} (hb : 4 ≤ b.length) {v : U8} (hv : ¬v % 2 = 0)
    (f : U8) : verificationReport b v f = ⟨1, v, b.take 4⟩ := by
  rw [verificationReport, verificationData, if_neg hv, hi8_be16, lo8_be16, hi8_be16, lo8_be16,
    take_four hb]
  rfl

theorem openingReports_eq {b : Bytes} (hb : 4 ≤ b.length) (ack : U8) :
    openingReports b ack = (if ack.getLsbD 3 then [⟨1, 1, b.take 4⟩] else []) ++
      if ack.getLsbD 2 then [⟨1, 3, b.take 4⟩] else [] := by
  obtain ⟨haccept, hstart, -⟩ := ack_bits ack
  simp only [openingReports, haccept, hstart]
  rw [verificationReport_success hb (by decide), verificationReport_success hb (by decide)]
  rfl

theorem closingReports_eq {b : Bytes} (hb : 4 ≤ b.length) (ack : U8) (failed : Bool) :
    closingReports b ack (if failed then vfailExecError else vfailNone) =
      if failed then [⟨1, 8, b.take 4 ++ [7]⟩]
      else if ack.getLsbD 0 then [⟨1, 7, b.take 4⟩] else [] := by
  obtain ⟨-, -, hcomplete⟩ := ack_bits ack
  rw [closingReports, verificationReport_failure hb (by decide),
    verificationReport_success hb (by decide)]
  simp only [hcomplete]
  cases failed <;> rfl

theorem result_ne_ok : ∀ c ∈ tcChecks, c.result ≠ .ok := by
  simp [tcChecks, parseChecks, commandChecks]

theorem verdict_of_isCommand {buf : Option Bytes} {p : TcParsed} (hp : tcParse buf = .ok p)
    (h : IsCommand p) : ∃ handler, verdict buf = .accepted p handler := by
  cases buf with
  | none => cases hp
  | some b =>
      rcases h with ⟨hpair | hpair, happ⟩
      · exact ⟨_, verdict_connectionTest hp happ hpair⟩
      · exact ⟨_, verdict_exitSafe hp happ hpair⟩

theorem isCommand_of_verdict {buf : Option Bytes} {p : TcParsed} {handler : CmdHandler}
    (h : verdict buf = .accepted p handler) : tcParse buf = .ok p ∧ IsCommand p := by
  obtain ⟨hp, happ, hpair⟩ := verdict_accepted h
  exact ⟨hp, hpair.imp And.left And.left, happ⟩

theorem not_isCommand_of_verdict {buf : Option Bytes} {v : Verdict} (h : verdict buf = v)
    (hv : ∀ p handler, v ≠ .accepted p handler) : ¬∃ p, tcParse buf = .ok p ∧ IsCommand p := by
  rintro ⟨p, hp, hcmd⟩
  obtain ⟨handler, hacc⟩ := verdict_of_isCommand hp hcmd
  exact hv p handler (h.symm.trans hacc)

/-- Both handlers at once: what an accepted command leaves behind. -/
theorem uplinkHandleTc_accepted (hook : Hook ω) (s : UplinkState ω) {b : Bytes} {p : TcParsed}
    {handler : CmdHandler} (hv : verdict (some b) = .accepted p handler) :
    let r := uplinkHandleTc hook s (some b)
    let called := hook (ctxAtHandler s.ctx b p.tc.ackFlags) s.world
    let rs := owedReports b p
      (p.tc.service = 130 ∧ (s.ctx.exitSafeHook = false ∨ called.1 = 0))
    r.1 = .ok ∧
      r.2.world = (if p.tc.service = 130 ∧ s.ctx.exitSafeHook = true then called.2 else s.world) ∧
      r.2.ctx = { s.ctx with
        accepted := s.ctx.accepted + 1
        executed := s.ctx.executed + 1
        connTests := if p.tc.service = 17 then s.ctx.connTests + 1 else s.ctx.connTests
        tmSeq := seqNext^[rs.length] s.ctx.tmSeq } ∧
      Emitted s.ctx.tmSeq s.out.overrun rs r.2 := by
  intro r called rs
  obtain ⟨hp, -, hpair⟩ := verdict_accepted hv
  have hlen : 4 ≤ b.length := by
    have := (wellFormedTc_of_ok hp).min_len
    simp only [tcMinPacketLen, ccsdsPriHdrLen, pusTcSecHdrLen, tcPecLen] at this
    omega
  rcases hpair with ⟨hpair, rfl⟩ | ⟨hpair, rfl⟩
  · obtain ⟨hservice, -⟩ := Prod.mk.inj hpair
    have hrs : openingReports b p.tc.ackFlags ++ [connTestReport] ++
        closingReports b p.tc.ackFlags vfailNone = rs := by
      have hclose := closingReports_eq hlen p.tc.ackFlags false
      simp only [rs, owedReports, hservice, openingReports_eq hlen]
      rw [show vfailNone = if false then vfailExecError else vfailNone from rfl, hclose]
      rfl
    obtain ⟨hok, hworld, hctx, hem⟩ := uplinkHandleTc_connectionTest hook s hv
    rw [hrs] at hctx hem
    simp only [hservice, if_true]
    exact ⟨hok, hworld, hctx, hem⟩
  · obtain ⟨hservice, -⟩ := Prod.mk.inj hpair
    have hne : (130 : U8) ≠ 17 := by decide
    set failed : Bool := decide (s.ctx.exitSafeHook = false ∨ called.1 = 0) with hfailed
    have hfail : (if s.ctx.exitSafeHook = true ∧ called.1 ≠ 0 then vfailNone else vfailExecError)
        = if failed then vfailExecError else vfailNone := by
      by_cases hwired : s.ctx.exitSafeHook = true <;> by_cases hret : called.1 = 0 <;>
        simp [hfailed, hwired, hret]
    have hrs : openingReports b p.tc.ackFlags ++
        closingReports b p.tc.ackFlags (if failed then vfailExecError else vfailNone) = rs := by
      simp only [rs, owedReports, hservice, hne, openingReports_eq hlen,
        closingReports_eq hlen, true_and, ← hfailed, if_false, List.append_nil]
    obtain ⟨hok, hworld, hctx, hem⟩ := uplinkHandleTc_exitSafe hook s hv
    rw [hfail, hrs] at hctx hem
    simp only [hservice, hne, true_and, if_false]
    exact ⟨hok, hworld, hctx, hem⟩

/-- **The telecommand contract**, for every context, every hook and every input. -/
theorem uplinkHandleTc_contract (hook : Hook ω) (s : UplinkState ω) (buf : Option Bytes) :
    let r := uplinkHandleTc hook s buf
    let c := s.ctx
    let c' := r.2.ctx
    -- one call moves one counter, and `executed` follows `accepted`
    ([c'.accepted - c.accepted, c'.rejected - c.rejected, c'.dropped - c.dropped] ∈
        [[1, 0, 0], [0, 1, 0], [0, 0, 1]] ∧
      c'.executed - c.executed = c'.accepted - c.accepted) ∧
    (r.1 = .ok ↔ ∃ p, tcParse buf = .ok p ∧ IsCommand p) ∧
    -- a refused command is reported, if it can be named, and does nothing else
    (r.1 ≠ .ok → c'.connTests = c.connTests ∧ r.2.world = s.world ∧
      ((∃ b check, buf = some b ∧ 4 ≤ b.length ∧ firstFailure b = some check ∧
          r.1 = check.result ∧ c'.rejected = c.rejected + 1 ∧
          r.2.out.reports = [tmPacket ccsdsApidCmd c.tmSeq 1 2 (b.take 4 ++ [check.code])]) ∨
        ((∀ b, buf = some b → b.length < 4) ∧ c'.dropped = c.dropped + 1 ∧
          r.2.out.reports = []))) ∧
    -- an accepted command runs its handler once and is reported stage by stage
    (∀ b p, buf = some b → tcParse buf = .ok p → IsCommand p →
      let called := hook (ctxAtHandler c b p.tc.ackFlags) s.world
      r.2.world = (if p.tc.service = 130 ∧ c.exitSafeHook = true then called.2 else s.world) ∧
      c'.connTests = (if p.tc.service = 17 then c.connTests + 1 else c.connTests) ∧
      r.2.out.reports = numbered c.tmSeq (owedReports b p
        (p.tc.service = 130 ∧ (c.exitSafeHook = false ∨ called.1 = 0)))) ∧
    -- every report fits, and so does their number
    (r.2.out.count = r.2.out.reports.length ∧ r.2.out.count ≤ 4 ∧
      (∀ pkt ∈ r.2.out.reports, pkt.length ≤ 16) ∧ r.2.out.overrun = s.out.overrun) := by
  intro r c c'
  cases hv : verdict buf with
  | unidentified e =>
      have hr : r = _ := uplinkHandleTc_unidentified hook s hv
      have hctx : c' = { c with dropped := c.dropped + 1 } := by simp only [c', hr, c]
      have hem : Emitted c.tmSeq s.out.overrun [] r.2 := by
        rw [hr]
        exact Emitted.empty s _ rfl
      have hnot := not_isCommand_of_verdict hv (by simp)
      have hshort : ∀ b, buf = some b → b.length < 4 := by
        rintro b rfl
        rcases verdict_unidentified hv with h | ⟨b', h, hlen⟩
        · cases h
        · rwa [Option.some.inj h]
      have hfits := hem.fits fun r hr => absurd hr List.not_mem_nil
      refine ⟨⟨?_, ?_⟩, ⟨?_, ?_⟩, ?_, ?_, hfits.1, ?_, hfits.2, hem.overrun⟩
      · simp [hctx]
      · simp [hctx]
      · rw [hr]
        exact fun h => by cases h
      · exact fun h => absurd h hnot
      · intro _
        refine ⟨by rw [hctx], by rw [hr], .inr ⟨hshort, by rw [hctx], hem.reports⟩⟩
      · exact fun b p _ hp hcmd => absurd ⟨p, hp, hcmd⟩ hnot
      · rw [hem.count]
        exact Nat.zero_le _
  | refused res code =>
      obtain ⟨b, check, rfl, hlen, hcheck, rfl, rfl⟩ := verdict_refused hv
      obtain ⟨hres, hworld, hctx, hem⟩ := uplinkHandleTc_refused hook s hv
      have hctx : c' = { c with rejected := c.rejected + 1, tmSeq := seqNext c.tmSeq } := hctx
      have hnot := not_isCommand_of_verdict hv (by simp)
      have hne := result_ne_ok check (List.mem_of_find?_eq_some hcheck)
      rw [verificationReport_failure hlen (by decide)] at hem
      have hfits := hem.fits fun r hr => by
        rw [List.mem_singleton.1 hr]
        simp
      refine ⟨⟨?_, ?_⟩, ⟨?_, ?_⟩, ?_, ?_, hfits.1, ?_, hfits.2, hem.overrun⟩
      · simp [hctx]
      · simp [hctx]
      · exact fun h => absurd (hres.symm.trans h) hne
      · exact fun h => absurd h hnot
      · intro _
        exact ⟨by rw [hctx], hworld, .inl ⟨b, check, rfl, hlen, hcheck, hres, by rw [hctx],
          hem.reports⟩⟩
      · exact fun b p _ hp hcmd => absurd ⟨p, hp, hcmd⟩ hnot
      · rw [hem.count]
        simp
  | accepted p handler =>
      obtain ⟨hp, hcmd⟩ := isCommand_of_verdict hv
      obtain ⟨b, rfl⟩ : ∃ b, buf = some b := by
        cases buf with
        | none => cases hp
        | some b => exact ⟨b, rfl⟩
      obtain ⟨hok, hworld, hctx, hem⟩ := uplinkHandleTc_accepted hook s hv
      have hfits := hem.fits (length_data_owedReports _ _ _)
      refine ⟨⟨?_, ?_⟩, ⟨?_, ?_⟩, ?_, ?_, hfits.1, ?_, hfits.2, hem.overrun⟩
      · simp [c', r, hctx, c]
      · simp [c', r, hctx, c]
      · exact fun _ => ⟨p, hp, hcmd⟩
      · exact fun _ => hok
      · exact fun h => absurd hok h
      · rintro b' p' hb hp' -
        obtain rfl := Option.some.inj hb
        obtain rfl := Except.ok.inj (hp.symm.trans hp')
        exact ⟨hworld, by simp only [c', r, hctx]; rfl, hem.reports⟩
      · rw [hem.count]
        exact length_owedReports_le _ _ _

/-! ## What the router needs to know -/

/-- The world is left as it was, or as one call of the hook leaves it. -/
theorem uplinkHandleTc_world (hook : Hook ω) (s : UplinkState ω) (buf : Option Bytes) :
    (uplinkHandleTc hook s buf).2.world = s.world ∨
      ∃ c, (uplinkHandleTc hook s buf).2.world = (hook c s.world).2 := by
  cases hv : verdict buf with
  | unidentified e => exact .inl (by rw [uplinkHandleTc_unidentified hook s hv])
  | refused res code =>
      obtain ⟨b, -, rfl, -⟩ := verdict_refused hv
      exact .inl (uplinkHandleTc_refused hook s hv).2.1
  | accepted p handler =>
      cases buf with
      | none => cases hv
      | some b =>
          have hworld := (uplinkHandleTc_accepted hook s hv).2.1
          split at hworld
          · exact .inr ⟨_, hworld⟩
          · exact .inl hworld

/-- **Two worlds the hook cannot tell apart** give the same counters and the same
reports, and are left so. -/
theorem uplinkHandleTc_related {R : ω → ω → Prop} {hook : Hook ω}
    (hhook : ∀ c w w', R w w' → (hook c w).1 = (hook c w').1 ∧ R (hook c w).2 (hook c w').2)
    {s s' : UplinkState ω} (hctx : s.ctx = s'.ctx) (hworld : R s.world s'.world)
    (buf : Option Bytes) :
    let r := uplinkHandleTc hook s buf
    let r' := uplinkHandleTc hook s' buf
    r.2.ctx = r'.2.ctx ∧ r.2.out.reports = r'.2.out.reports ∧ R r.2.world r'.2.world := by
  intro r r'
  cases hv : verdict buf with
  | unidentified e =>
      have hr : r = _ := uplinkHandleTc_unidentified hook s hv
      have hr' : r' = _ := uplinkHandleTc_unidentified hook s' hv
      rw [hr, hr', hctx]
      exact ⟨rfl, rfl, hworld⟩
  | refused res code =>
      obtain ⟨b, -, rfl, -⟩ := verdict_refused hv
      obtain ⟨-, hw, hc, hem⟩ := uplinkHandleTc_refused hook s hv
      obtain ⟨-, hw', hc', hem'⟩ := uplinkHandleTc_refused hook s' hv
      refine ⟨?_, ?_, ?_⟩
      · rw [hc, hc', hctx]
      · rw [hem.reports, hem'.reports, hctx]
      · rwa [hw, hw']
  | accepted p handler =>
      cases buf with
      | none => cases hv
      | some b =>
          obtain ⟨-, hw, hc, hem⟩ := uplinkHandleTc_accepted hook s hv
          obtain ⟨-, hw', hc', hem'⟩ := uplinkHandleTc_accepted hook s' hv
          rw [← hctx] at hw' hc' hem'
          obtain ⟨hret, hafter⟩ :=
            hhook (ctxAtHandler s.ctx b p.tc.ackFlags) s.world s'.world hworld
          rw [← hret] at hc' hem'
          refine ⟨hc.trans hc'.symm, hem.reports.trans hem'.reports.symm, ?_⟩
          rw [hw, hw']
          split
          · exact hafter
          · exact hworld

/-- **What is in the slots afterwards**: a few short reports, numbered on from the
sequence count before. -/
theorem uplinkHandleTc_emitted (hook : Hook ω) (s : UplinkState ω) (buf : Option Bytes) :
    ∃ rs, Emitted s.ctx.tmSeq s.out.overrun rs (uplinkHandleTc hook s buf).2 ∧
      rs.length ≤ uplinkMaxTmPerTc ∧ ∀ r ∈ rs, r.data.length ≤ 5 := by
  cases hv : verdict buf with
  | unidentified e =>
      rw [uplinkHandleTc_unidentified hook s hv]
      exact ⟨[], Emitted.empty s _ rfl, Nat.zero_le _, by simp⟩
  | refused res code =>
      obtain ⟨b, -, rfl, -⟩ := verdict_refused hv
      refine ⟨_, (uplinkHandleTc_refused hook s hv).2.2.2, by simp [uplinkMaxTmPerTc], ?_⟩
      intro r hr
      rw [List.mem_singleton.1 hr]
      exact length_verificationData_le _ _ _ _
  | accepted p handler =>
      cases buf with
      | none => cases hv
      | some b =>
          exact ⟨_, (uplinkHandleTc_accepted hook s hv).2.2.2, length_owedReports_le _ _ _,
            length_data_owedReports _ _ _⟩

/-- Every report is a numbered packet of the command application, and short. -/
theorem uplinkHandleTc_reports (hook : Hook ω) (s : UplinkState ω) (buf : Option Bytes) :
    ∀ pkt ∈ (uplinkHandleTc hook s buf).2.out.reports,
      ∃ seq r, r.data.length ≤ 5 ∧ pkt = Report.packet seq r := by
  obtain ⟨rs, hem, -, hl⟩ := uplinkHandleTc_emitted hook s buf
  intro pkt hpkt
  rw [hem.reports] at hpkt
  obtain ⟨seq, r, hr, rfl⟩ := mem_numbered hpkt
  exact ⟨seq, r, hl r hr, rfl⟩

end Tmtc
end SpacecraftFsw
