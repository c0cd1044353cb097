import SpacecraftFsw.Lib.Replies
import SpacecraftFsw.Flight.Server

/-!
# Reports told apart

The command path quotes the first four octets of a command in every verification report
about it, for the ground to match the report to what it has sent.  Here the ground does so:
it builds its commands with `tc_build` under different sequence counts, and reads the
reports by the count they quote.

* `Telecommand`, `Telecommand.packet` — a command as the ground makes it out, and its packet.
* `Notice`, `readNotice` — what the ground reads in a report.
* `Telecommand.fate` — what it has to expect.
* `notices_answer` — the reports the server owes for a built packet.
* `reports_attributed` — every run.
-/

namespace SpacecraftFsw

open Tmtc Obdh Fdir

namespace Tmtc

/-! ## Commands and notices -/

/-- A command that `tc_build` takes. -/
structure Telecommand where
  seqCount : U16
  tc : PusTcHdr
  appData : Bytes
  fits : appData.length ≤ tcMaxAppLen

/-- What a verification report tells: the sequence count of the command, the stage that it
has reached or failed at, and the failure code behind it. -/
structure Notice where
  number : U16
  subtype : U8
  code : Bytes
  deriving DecidableEq, Repr

/-- The notice in a report: service 1 quotes the command's packet id and sequence control. -/
def noticeOf (service subtype : U8) (data : Bytes) : Option Notice :=
  if service = 1 then
    some ⟨be16 (octet data 2) (octet data 3) &&& 0x3FFF#16, subtype, data.drop 4⟩
  else none

/-- The notice in a packet of the command application. -/
def readNotice (p : Bytes) : Option Notice := noticeOf (octet p 7) (octet p 8) (p.drop 11)

/-- The notice in a report that is owed. -/
def Report.notice (r : Report) : Option Notice := noticeOf r.service r.subtype r.data

theorem notices_numbered (seq : U16) (rs : List Report) :
    (numbered seq rs).filterMap readNotice = rs.filterMap Report.notice := by
  induction rs generalizing seq with
  | nil => rfl
  | cons r rs ih =>
      have hread : readNotice (r.packet seq) = r.notice := rfl
      rw [numbered, List.filterMap_cons, List.filterMap_cons, ih, hread]

namespace Telecommand

/-- The sequence count in the header, 14 bits wide. -/
def number (t : Telecommand) : U16 := t.seqCount &&& 0x3FFF#16

theorem isSome_tcBuild (t : Telecommand) : (tcBuild t.seqCount t.tc t.appData).isSome := by
  rw [tcBuild_eq_some _ _ t.fits]
  rfl

/-- The packet of a command. -/
def packet (t : Telecommand) : Bytes := (tcBuild t.seqCount t.tc t.appData).get t.isSome_tcBuild

theorem tcParse_packet (t : Telecommand) :
    tcParse (some t.packet) = .ok (tcExpected t.seqCount t.tc t.appData) := by
  obtain ⟨pkt, hpkt, hparse⟩ := tcParse_tcBuild t.seqCount t.tc t.fits
  have hsame : t.packet = pkt := by
    rw [packet]
    exact Option.get_of_eq_some _ hpkt
  rw [hsame, hparse]

/-- A service and subtype with a handler. -/
def Known (t : Telecommand) : Prop :=
  (t.tc.service, t.tc.subtype) = (17, 1) ∨ (t.tc.service, t.tc.subtype) = (130, 1)

instance (t : Telecommand) : Decidable t.Known := inferInstanceAs (Decidable (_ ∨ _))

/-- The exit from SAFE, with nothing behind its header. -/
def IsExit (t : Telecommand) : Prop := (t.tc.service, t.tc.subtype) = (130, 1) ∧ t.appData = []

instance (t : Telecommand) : Decidable t.IsExit := inferInstanceAs (Decidable (_ ∧ _))

/-- **What the ground has to expect** for a command, with FDIR in SAFE when it comes or not. -/
def fate (t : Telecommand) (safe : Bool) : List Notice :=
  if ¬t.Known then [⟨t.number, 2, [5]⟩]
  else if t.appData ≠ [] then [⟨t.number, 2, [6]⟩]
  else
    (if t.tc.ackFlags.getLsbD 3 then [⟨t.number, 1, []⟩] else []) ++
    (if t.tc.ackFlags.getLsbD 2 then [⟨t.number, 3, []⟩] else []) ++
    (if t.tc.service = 130 ∧ safe = false then [⟨t.number, 8, [7]⟩]
      else if t.tc.ackFlags.getLsbD 0 then [⟨t.number, 7, []⟩] else [])

/-! ## The verdict on a built packet -/

theorem verdict_unknown {t : Telecommand} (h : ¬t.Known) :
    verdict (some t.packet) = .refused .unknownCmd 5 := by
  have hfind : cmdFind t.tc.service t.tc.subtype = none := by
    rw [Option.eq_none_iff_forall_ne_some]
    intro e he
    exact h ((cmdFind_eq_some_iff.1 he).imp And.left And.left)
  simp only [verdict, tcParse_packet, tcExpected, hfind]
  rfl

theorem verdict_known {t : Telecommand} (h : t.Known) :
    verdict (some t.packet) = if t.appData ≠ [] then .refused .badAppData 6
      else .accepted (tcExpected t.seqCount t.tc t.appData)
        (if t.tc.service = 17 then .connectionTest else .exitSafe) := by
  have hfind : cmdFind t.tc.service t.tc.subtype = some ⟨t.tc.service, 1, 0,
      if t.tc.service = 17 then .connectionTest else .exitSafe⟩ := by
    refine cmdFind_eq_some_iff.2 (h.imp (fun hpair => ⟨hpair, ?_⟩) fun hpair => ⟨hpair, ?_⟩)
    · rw [(Prod.mk.inj hpair).1]
      rfl
    · rw [(Prod.mk.inj hpair).1]
      rfl
  simp only [verdict, tcParse_packet, tcExpected, hfind, ne_eq, List.length_eq_zero_iff]
  rfl

/-- The count that a report about the packet quotes. -/
theorem noticeOf_quote (t : Telecommand) (subtype : U8) (code : Bytes) :
    noticeOf 1 subtype (t.packet.take 4 ++ code) = some ⟨t.number, subtype, code⟩ := by
  have hparse := tcParse_ok_iff.1 t.tcParse_packet
  have hmin := hparse.1.min_len
  have hcount : (ccsdsParsePrimary t.packet).seqCount = t.number :=
    congrArg (fun p : TcParsed => p.pri.seqCount) hparse.2.symm
  simp only [tcMinPacketLen, ccsdsPriHdrLen, pusTcSecHdrLen, tcPecLen] at hmin
  rw [take_four (by omega), ← hcount]
  rfl

/-- A success report on request. -/
theorem notices_ite (t : Telecommand) (q : Prop) [Decidable q] (subtype : U8) :
    (if q then [(⟨1, subtype, t.packet.take 4⟩ : Report)] else []).filterMap Report.notice =
      if q then [⟨t.number, subtype, []⟩] else [] := by
  have hquote := t.noticeOf_quote subtype []
  rw [List.append_nil] at hquote
  split
  · rw [List.filterMap_cons, Report.notice, hquote, List.filterMap_nil]
  · rfl

theorem ack_nibble : ∀ a : U8, (a &&& 0x0F#8).getLsbD 3 = a.getLsbD 3 ∧
    (a &&& 0x0F#8).getLsbD 2 = a.getLsbD 2 ∧ (a &&& 0x0F#8).getLsbD 0 = a.getLsbD 0 := by
  decide +kernel

/-- The notices in the reports owed for an accepted packet. -/
theorem notices_owedReports (t : Telecommand) (failed : Bool) :
    (owedReports t.packet (tcExpected t.seqCount t.tc t.appData) failed).filterMap
        Report.notice =
      (if t.tc.ackFlags.getLsbD 3 then [⟨t.number, 1, []⟩] else []) ++
      (if t.tc.ackFlags.getLsbD 2 then [⟨t.number, 3, []⟩] else []) ++
      (if failed then [⟨t.number, 8, [7]⟩]
        else if t.tc.ackFlags.getLsbD 0 then [⟨t.number, 7, []⟩] else []) := by
  set p := tcExpected t.seqCount t.tc t.appData
  obtain ⟨haccept, hstart, hdone⟩ : p.tc.ackFlags.getLsbD 3 = t.tc.ackFlags.getLsbD 3 ∧
      p.tc.ackFlags.getLsbD 2 = t.tc.ackFlags.getLsbD 2 ∧
      p.tc.ackFlags.getLsbD 0 = t.tc.ackFlags.getLsbD 0 := ack_nibble t.tc.ackFlags
  -- the test report names no command
  have htest : (if p.tc.service = 17 then [(⟨17, 2, []⟩ : Report)] else []).filterMap
      Report.notice = [] := by
    split <;> rfl
  rw [owedReports, List.filterMap_append, List.filterMap_append, List.filterMap_append, htest,
    List.append_nil, haccept, hstart, hdone, notices_ite, notices_ite]
  congr 1
  cases failed with
  | false => exact t.notices_ite _ 7
  | true =>
      rw [if_pos rfl, if_pos rfl, List.filterMap_cons, Report.notice, t.noticeOf_quote,
        List.filterMap_nil]

end Telecommand
end Tmtc

namespace Flight

open Tmtc.Telecommand

/-! ## What is owed and what is expected -/

/-- **One built packet**: what the server owes for it is what the ground expects. -/
theorem notices_answer (t : Telecommand) (safe : Bool) :
    (answer t.packet safe).filterMap Report.notice = t.fate safe := by
  have hrefused {res : UplinkResult} {code : U8}
      (hv : verdict (some t.packet) = .refused res code) :
      (answer t.packet safe).filterMap Report.notice = [⟨t.number, 2, [code]⟩] := by
    rw [answer_refused safe hv, List.filterMap_cons, Report.notice, t.noticeOf_quote,
      List.filterMap_nil]
  by_cases hknown : t.Known
  · have hv := verdict_known hknown
    rw [fate, if_neg (not_not.2 hknown)]
    by_cases happ : t.appData ≠ []
    · rw [if_pos happ] at hv
      rw [if_pos happ, hrefused hv]
    · rw [if_neg happ] at hv
      rw [if_neg happ, answer_accepted safe hv, notices_owedReports]
      refine congrArg _ (if_congr ?_ rfl rfl)
      rw [Bool.and_eq_true, decide_eq_true_iff, Bool.not_eq_true', tcExpected]
  · rw [fate, if_pos hknown, hrefused (verdict_unknown hknown)]

theorem addressed_fate :
    Replies.Addressed (fun e : Telecommand × Bool => e.1.number) (fun e => e.1.fate e.2)
      Notice.number := by
  rintro ⟨t, safe⟩ n hn
  change n.number = t.number
  have hite (q : Prop) [Decidable q] (c : Notice) (h : n ∈ if q then [c] else []) : n = c :=
    List.mem_singleton.1 (List.mem_ite_nil_right.1 h).2
  simp only [fate] at hn
  split at hn
  · rw [List.mem_singleton.1 hn]
  split at hn
  · rw [List.mem_singleton.1 hn]
  rcases List.mem_append.1 hn with hn | hn
  · rcases List.mem_append.1 hn with hn | hn
    · rw [hite _ _ hn]
    · rw [hite _ _ hn]
  · split at hn
    · rw [List.mem_singleton.1 hn]
    · rw [hite _ _ hn]

theorem executes_packet_iff (t : Telecommand) : executes t.packet = some .exitSafe ↔ t.IsExit := by
  rw [executes_exitSafe_iff]
  constructor
  · rintro ⟨parsed, hp, hpair, happ⟩
    rw [tcParse_packet] at hp
    rw [← Except.ok.inj hp] at hpair happ
    exact ⟨hpair, happ⟩
  · rintro ⟨hpair, happ⟩
    exact ⟨_, t.tcParse_packet, hpair, happ⟩

/-- An exit is heard to have failed exactly if it came outside SAFE. -/
theorem fate_exit_iff {t : Telecommand} (h : t.IsExit) (safe : Bool) :
    (∀ n ∈ t.fate safe, n.subtype ≠ 8) ↔ safe = true := by
  obtain ⟨hpair, happ⟩ := h
  have hservice : t.tc.service = 130 := (Prod.mk.inj hpair).1
  have hknown : t.Known := .inr hpair
  rw [fate, if_neg (not_not.2 hknown), if_neg (not_not.2 happ)]
  cases safe with
  | false =>
      refine iff_of_false (fun hall => hall ⟨t.number, 8, [7]⟩ ?_ rfl) (by decide)
      simp [hservice]
  | true =>
      refine iff_of_true (fun n hn => ?_) rfl
      simp only [List.mem_append, List.mem_ite_nil_right, List.mem_singleton, Bool.true_eq_false,
        and_false, if_false] at hn
      rcases hn with (⟨-, rfl⟩ | ⟨-, rfl⟩) | ⟨-, rfl⟩
      · exact (by decide : (1 : U8) ≠ 8)
      · exact (by decide : (3 : U8) ≠ 8)
      · exact (by decide : (7 : U8) ≠ 8)

/-! ## Every run -/

/-- The notices that the ground has. -/
def notices (b : Bus FdirMem) : List Notice := (commandPackets b).filterMap readNotice

/-- Those about the command with a given sequence count. -/
def about (number : U16) (b : Bus FdirMem) : List Notice :=
  Replies.naming Notice.number number (notices b)

theorem notices_run {b : Bus FdirMem} {sent : List (Telecommand × Bool)}
    (h : Serving true b (sent.map fun e => (e.1.packet, e.2))) :
    notices b = sent.flatMap fun e => e.1.fate e.2 := by
  rw [notices, h.sent, if_pos rfl, notices_numbered, answers, List.filterMap_flatMap,
    List.flatMap_map]
  simp only [notices_answer]

/-- **Reports told apart.**  Let the telecommands of a run be the packets of commands with
different sequence counts, `sent`, each with whether FDIR was in SAFE when it came.  Then,
whatever else happens on board:

* the notices on the ground about each command are exactly those it has to expect;
* there are none about any other sequence count;
* and FDIR has been let out of SAFE once for each exit command that is not heard to have
  failed. -/
theorem reports_attributed (inContact : Bool) (hooks : Option FdirHooks) (confirmCycles : U8)
    (w : Watchdog) (s : SpacecraftState) (ops : List VehicleOp)
    (hops : ∀ op ∈ ops, op.notCommandTm) (sent : List (Telecommand × Bool))
    (hsent : commandLog (vehicleInit true inContact hooks confirmCycles w s) ops =
      sent.map fun e => (e.1.packet, e.2))
    (hnumbers : (sent.map fun e => e.1.number).Nodup) :
    let v := vehicleRun (vehicleInit true inContact hooks confirmCycles w s) ops
    (∀ e ∈ sent, about e.1.number v.bus = e.1.fate e.2) ∧
    (∀ number ∉ sent.map fun e => e.1.number, about number v.bus = []) ∧
    countId evtSafeExit v.fdir.reports =
      sent.countP fun e => e.1.IsExit ∧ ∀ n ∈ about e.1.number v.bus, n.subtype ≠ 8 := by
  intro v
  have h := serving_run true inContact hooks confirmCycles w s hops
  rw [hsent] at h
  have hnotices : notices v.bus = sent.flatMap fun e => e.1.fate e.2 := notices_run h
  have habout : ∀ e ∈ sent, about e.1.number v.bus = e.1.fate e.2 := by
    intro e he
    rw [about, hnotices]
    exact addressed_fate.told_apart hnumbers he
  refine ⟨habout, fun number hnumber => ?_, ?_⟩
  · rw [about, hnotices]
    exact addressed_fate.unasked hnumber
  · have hexits : countId evtSafeExit v.fdir.reports =
        exits (sent.map fun e => (e.1.packet, e.2)) := h.exits
    rw [hexits, exits, List.countP_map]
    refine List.countP_congr fun e he => ?_
    rw [Function.comp_apply, decide_eq_true_iff, decide_eq_true_iff, habout e he,
      executes_packet_iff]
    exact and_congr_right fun hexit => (fate_exit_iff hexit e.2).symm

/-- The exit command, sent before SAFE and in it: the first is heard to have failed, of the
second, with no flag set, nothing is heard. -/
theorem reports_attributed_two_exits :
    let leave (n : U16) : Telecommand := ⟨n, ⟨0, 130, 1, 1⟩, [], Nat.zero_le _⟩
    let low : VehicleOp := .cycle ⟨0x41A00000, 80, 0x41C80000, 0x41A00000, .nominal⟩
    let w : Watchdog := ⟨Vector.replicate nTasks 0, Vector.replicate nTasks 0⟩
    let v := vehicleRun (vehicleInit true false none 1 w ⟨0, 0, 0, 0, .boot⟩)
      [.ingest (some (leave 1).packet), low, low, low, low, low, .ingest (some (leave 2).packet)]
    about 1 v.bus = [⟨1, 8, [7]⟩] ∧ about 2 v.bus = [] ∧ about 3 v.bus = [] := by
  intro leave low w
  have hops : ∀ op ∈ ([.ingest (some (leave 1).packet), low, low, low, low, low,
      .ingest (some (leave 2).packet)] : List VehicleOp), op.notCommandTm := by
    intro op hop
    simp only [List.mem_cons, List.not_mem_nil, or_false] at hop
    rcases hop with rfl | rfl | rfl | rfl | rfl | rfl | rfl
    all_goals first | exact trivial | exact fun hc => absurd hc (by decide +kernel)
  obtain ⟨habout, hnone, -⟩ := reports_attributed false none 1 w ⟨0, 0, 0, 0, .boot⟩ _ hops
    [(leave 1, false), (leave 2, true)] (by decide +kernel) (by decide +kernel)
  have hfirst : about (leave 1).number _ = (leave 1).fate false := habout (leave 1, false) (by simp)
  have hsecond : about (leave 2).number _ = (leave 2).fate true := habout (leave 2, true) (by simp)
  rw [show (leave 1).number = 1 by decide +kernel] at hfirst
  rw [show (leave 2).number = 2 by decide +kernel] at hsecond
  exact ⟨hfirst.trans (by decide +kernel), hsecond.trans (by decide +kernel),
    hnone 3 (by decide +kernel)⟩

end Flight
end SpacecraftFsw
