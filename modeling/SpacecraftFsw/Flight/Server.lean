import SpacecraftFsw.Flight.Commands

/-!
# The command path as a server

Seen from the ground the command path is a sequential server: it takes the telecommands
in the order in which they come, answers each before the next, and needs to know nothing
of the rest of the system but whether FDIR is in SAFE.

* `answer`, `serve` — that server: the reports owed for a packet, and the context after it.
* `commandLog` — what reaches it in a run of the system.
* `served_ingest` — one telecommand.
* `command_server` — every run.
* `balanced`, `command_ledger` — the counters of the command path against the reports on
  the ground, after every run.
-/

namespace SpacecraftFsw
namespace Flight

open Tmtc Obdh Fdir

/-! ## The server -/

/-- What a packet makes the command path execute. -/
def executes (p : Bytes) : Option CmdHandler :=
  match verdict (some p) with
  | .accepted _ handler => some handler
  | _ => none

/-- The reports owed for a packet, with FDIR in SAFE or not. -/
def answer (p : Bytes) (safe : Bool) : List Report :=
  match verdict (some p) with
  | .unidentified _ => []
  | .refused _ code => [⟨1, 2, p.take 4 ++ [code]⟩]
  | .accepted parsed _ => owedReports p parsed (decide (parsed.tc.service = 130) && !safe)

/-- The context after a packet. -/
def serve (c : UplinkCtx) (p : Bytes) (safe : Bool) : UplinkCtx :=
  let sent := { c with tmSeq := seqNext^[(answer p safe).length] c.tmSeq }
  match verdict (some p) with
  | .unidentified _ => { sent with dropped := c.dropped + 1 }
  | .refused _ _ => { sent with rejected := c.rejected + 1 }
  | .accepted parsed _ =>
    { sent with
      accepted := c.accepted + 1
      executed := c.executed + 1
      connTests := if parsed.tc.service = 17 then c.connTests + 1 else c.connTests }

section Cases

variable {p : Bytes} (c : UplinkCtx) (safe : Bool)

theorem answer_refused {res : UplinkResult} {code : U8}
    (hv : verdict (some p) = .refused res code) :
    answer p safe = [⟨1, 2, p.take 4 ++ [code]⟩] := by
  rw [answer, hv]

theorem serve_refused {res : UplinkResult} {code : U8} (hv : verdict (some p) = .refused res code) :
    serve c p safe = { c with rejected := c.rejected + 1, tmSeq := seqNext c.tmSeq } := by
  rw [serve, answer_refused safe hv, hv]
  rfl

theorem answer_accepted {parsed : TcParsed} {handler : CmdHandler}
    (hv : verdict (some p) = .accepted parsed handler) :
    answer p safe = owedReports p parsed (decide (parsed.tc.service = 130) && !safe) := by
  rw [answer, hv]

theorem serve_accepted {parsed : TcParsed} {handler : CmdHandler}
    (hv : verdict (some p) = .accepted parsed handler) :
    serve c p safe = { c with
      accepted := c.accepted + 1
      executed := c.executed + 1
      connTests := if parsed.tc.service = 17 then c.connTests + 1 else c.connTests
      tmSeq := seqNext^[(answer p safe).length] c.tmSeq } := by
  rw [serve, hv]

end Cases

/-- A telecommand is long enough for a report to name it. -/
theorem verdict_ne_unidentified {p : Bytes} (h : IsTc p) (e : TcError) :
    verdict (some p) ≠ .unidentified e := by
  intro hv
  have hlen := h.1
  rw [ccsdsPriHdrLen] at hlen
  rcases verdict_unidentified hv with hnone | ⟨b, hb, hshort⟩
  · cases hnone
  · rw [Option.some.inj hb] at hlen
    omega

/-- A telecommand, with whether FDIR was in SAFE when it came. -/
abbrev Request := Bytes × Bool

/-- The context after some requests, from that of `fdir_attach_uplink`. -/
def served (log : List Request) : UplinkCtx :=
  log.foldl (fun c e => serve c e.1 e.2) { uplinkInit with exitSafeHook := true }

/-- What they are answered by. -/
def answers (log : List Request) : List Report := log.flatMap fun e => answer e.1 e.2

/-- How often FDIR is let out of SAFE by them. -/
def exits (log : List Request) : ℕ :=
  log.countP fun e => executes e.1 = some .exitSafe ∧ e.2 = true

instance (p : Bytes) : Decidable (IsTc p) := inferInstanceAs (Decidable (_ ∧ _))

/-- The request in an operation. -/
def requestOf (v : Vehicle) : VehicleOp → List Request
  | .ingest (some p) => if IsTc p then [(p, decide (v.fdir.ctx.state = .safe))] else []
  | _ => []

/-- The requests of a run, in order. -/
def commandLog : Vehicle → List VehicleOp → List Request
  | _, [] => []
  | v, op :: ops => requestOf v op ++ commandLog (vehicleOp v op) ops

theorem requestOf_other {v : Vehicle} {op : VehicleOp}
    (hother : ∀ p, op = .ingest (some p) → ¬IsTc p) : requestOf v op = [] := by
  cases op with
  | ingest pkt =>
      cases pkt with
      | none => rfl
      | some p => exact if_neg (hother p rfl)
  | setContact | tick | obdhHk | fdirHk | kick | cycle => rfl

theorem served_concat (log : List Request) (e : Request) :
    served (log ++ [e]) = serve (served log) e.1 e.2 := List.foldl_concat ..

theorem answers_concat (log : List Request) (e : Request) :
    answers (log ++ [e]) = answers log ++ answer e.1 e.2 := by
  simp [answers]

theorem exits_concat (log : List Request) (e : Request) :
    exits (log ++ [e]) = exits log + exits [e] := List.countP_append

theorem tmSeq_serve (c : UplinkCtx) (p : Bytes) (safe : Bool) :
    (serve c p safe).tmSeq = seqNext^[(answer p safe).length] c.tmSeq := by
  unfold serve
  cases verdict (some p) <;> rfl

/-- The server numbers its answers from zero. -/
theorem tmSeq_served (log : List Request) :
    (served log).tmSeq = seqNext^[(answers log).length] 0 := by
  induction log using List.reverseRecOn with
  | nil => rfl
  | append_singleton log e ih =>
      rw [served_concat, tmSeq_serve, ih, answers_concat, List.length_append, Nat.add_comm,
        Function.iterate_add_apply]

/-! ## One telecommand -/

theorem executes_exitSafe_iff (p : Bytes) :
    executes p = some .exitSafe ↔ IsExitCommand (some p) := by
  constructor
  · intro h
    unfold executes at h
    split at h
    · rename_i parsed handler hv
      rw [Option.some.inj h] at hv
      exact isExitCommand_of_verdict hv
    · cases h
  · rintro ⟨parsed, hp, hpair, happ⟩
    rw [executes, verdict_exitSafe hp happ hpair]

/-- The ground exit tells whether it was in SAFE. -/
theorem fdirHook_result (b : Bus FdirMem) :
    (fdirHook.call b).1 = 0 ↔ b.user.ctx.state ≠ .safe := by
  by_cases hs : b.user.ctx.state = .safe
  · have hgranted := (fdirExitSafe_granted tmIngest_fdirIngest hs).1
    rw [fdirHook_call, hgranted]
    simp [hs]
  · rw [fdirHook_call, fdirExitSafe_refused _ hs]
    simp [hs]

/-- The exits reported over a telecommand. -/
theorem exitEvents_ingest {b : Bus FdirMem} (hwired : b.obdh.uplink.exitSafeHook = true)
    (p : Bytes) : exitEvents (fdirIngest b (some p)).2.user =
      exitEvents b.user + exits [(p, decide (b.user.ctx.state = .safe))] := by
  rw [exits, List.countP_singleton]
  by_cases hexit : IsExitCommand (some p)
  · have hexecutes := (executes_exitSafe_iff p).2 hexit
    by_cases hs : b.user.ctx.state = .safe
    · rw [fdirIngest_granted b hwired hexit hs, exitEvents_exitSafe]
      simp [hexecutes, hs]
    · obtain ⟨parsed, hp, hpair, happ⟩ := hexit
      rw [(fdirIngest_refused b hwired hp hpair happ hs).1]
      simp [hs]
  · rw [fdirIngest_other b hexit]
    simp [executes_exitSafe_iff, hexit]

/-- **One telecommand**, whatever its bytes, is answered and accounted for as the server
does it. -/
theorem served_ingest {b : Bus FdirMem} (hwired : b.obdh.uplink.exitSafeHook = true) {p : Bytes}
    (h : IsTc p) :
    ∃ m, Answered b (answer p (decide (b.user.ctx.state = .safe)))
      (serve b.obdh.uplink p (decide (b.user.ctx.state = .safe))) m
      (fdirIngest b (some p)).2 := by
  cases hv : verdict (some p) with
  | unidentified e => exact absurd hv (verdict_ne_unidentified h e)
  | refused res code =>
      obtain ⟨-, -, hctx, hem⟩ := uplinkHandleTc_refused (busHook fdirHook.call)
        ⟨(b.dispatched p).obdh.uplink, TmOut.blank, b.dispatched p⟩ hv
      have hlen := h.1
      rw [ccsdsPriHdrLen] at hlen
      rw [verificationReport_failure (by omega) (by decide)] at hem
      have hend := answered_ingest b h hem.reports
      rw [answer_refused _ hv, serve_refused _ _ hv]
      exact ⟨_, hend.sent, hend.uplink.trans hctx, hend.user, hend.link, hend.dispatched⟩
  | accepted parsed handler =>
      obtain ⟨-, -, hctx, hem⟩ := uplinkHandleTc_accepted (busHook fdirHook.call)
        ⟨(b.dispatched p).obdh.uplink, TmOut.blank, b.dispatched p⟩ hv
      have hwired' : (b.dispatched p).obdh.uplink.exitSafeHook = true := hwired
      have hresult : (busHook fdirHook.call
          (ctxAtHandler (b.dispatched p).obdh.uplink p parsed.tc.ackFlags) (b.dispatched p)).1 = 0 ↔
            ¬b.user.ctx.state = .safe := fdirHook_result (atHook b p parsed)
      simp only [hwired', Bool.true_eq_false, false_or, hresult, Bool.decide_and, decide_not]
        at hctx hem
      have hend := answered_ingest b h hem.reports
      have hserve := hctx.trans
        (show _ = serve b.obdh.uplink p (decide (b.user.ctx.state = .safe)) by
          rw [serve_accepted _ _ hv, answer_accepted _ hv, ← hwired]
          rfl)
      rw [answer_accepted _ hv]
      exact ⟨_, hend.sent, hend.uplink.trans hserve, hend.user, hend.link, hend.dispatched⟩

/-! ## Every run -/

/-- The requests so far, served: their answers are on the ground in order, the command
path is as the server is, and FDIR has been let out as often as it should. -/
structure Serving (downlink : Bool) (b : Bus FdirMem) (log : List Request) : Prop where
  wired : b.obdh.uplink.exitSafeHook = true
  link : b.obdh.downlink = downlink
  sent : commandPackets b = if downlink then numbered 0 (answers log) else []
  uplink : b.obdh.uplink = served log
  exits : exitEvents b.user = exits log
  dispatched : b.obdh.nDispatched = (log.length : U32)
  commands : ∀ e ∈ log, IsTc e.1

/-- **One operation of the system.** -/
theorem Serving.step {downlink : Bool} {v : Vehicle} {log : List Request}
    (h : Serving downlink v.bus log) (hclassed : Classed v.bus) {op : VehicleOp}
    (hop : op.notCommandTm) :
    Serving downlink (vehicleOp v op).bus (log ++ requestOf v op) := by
  have hwired := wired_vehicleOp h.wired op
  by_cases htc : ∃ p, op = .ingest (some p) ∧ IsTc p
  · obtain ⟨p, rfl, hp⟩ := htc
    obtain ⟨m, hend⟩ := served_ingest h.wired hp
    have hrequest : requestOf v (.ingest (some p)) =
        [(p, decide (v.bus.user.ctx.state = .safe))] := if_pos hp
    rw [hrequest]
    refine ⟨hwired, hend.link.trans h.link, ?_, ?_, ?_, ?_, ?_⟩
    · have hsent := hend.sent
      rw [h.sent, h.link] at hsent
      rw [vehicleOp, hsent, answers_concat, numbered_append, ← tmSeq_served, ← h.uplink]
      cases downlink <;> rfl
    · rw [vehicleOp, hend.uplink, served_concat, ← h.uplink]
    · rw [vehicleOp, exitEvents_ingest h.wired, h.exits, exits_concat]
    · rw [vehicleOp, hend.dispatched, h.dispatched, List.length_append, List.length_singleton,
        Nat.cast_succ]
    · intro e he
      rcases List.mem_append.1 he with he | he
      · exact h.commands e he
      · rw [List.mem_singleton.1 he]
        exact hp
  · have ha := aside_vehicleOp hclassed hop fun p hp hp' => htc ⟨p, hp, hp'⟩
    rw [requestOf_other fun p hp hp' => htc ⟨p, hp, hp'⟩, List.append_nil]
    refine ⟨hwired, ha.silent.link.trans h.link, ?_, ?_, ?_, ?_, h.commands⟩
    · rw [ha.silent.sent, h.sent]
    · rw [ha.silent.uplink, h.uplink]
    · rw [ha.exits, h.exits]
    · rw [ha.dispatched, h.dispatched]

theorem Serving.run {downlink : Bool} {v : Vehicle} {log : List Request}
    (h : Serving downlink v.bus log) (hclassed : Classed v.bus) {ops : List VehicleOp}
    (hops : ∀ op ∈ ops, op.notCommandTm) :
    Serving downlink (vehicleRun v ops).bus (log ++ commandLog v ops) := by
  induction ops generalizing v log with
  | nil =>
      rw [commandLog, List.append_nil]
      exact h
  | cons op ops ih =>
      have hhead := h.step hclassed (hops op List.mem_cons_self)
      have hrest := ih hhead (hclassed.steps (vehicleOp_steps v op))
        fun op' hop' => hops op' (List.mem_cons_of_mem _ hop')
      rwa [List.append_assoc] at hrest

theorem serving_run (downlink inContact : Bool) (hooks : Option FdirHooks) (confirmCycles : U8)
    (w : Watchdog) (s : SpacecraftState) {ops : List VehicleOp}
    (hops : ∀ op ∈ ops, op.notCommandTm) :
    Serving downlink
      (vehicleRun (vehicleInit downlink inContact hooks confirmCycles w s) ops).bus
      (commandLog (vehicleInit downlink inContact hooks confirmCycles w s) ops) := by
  have hstart : Serving downlink
      (vehicleInit downlink inContact hooks confirmCycles w s).bus [] := by
    refine ⟨rfl, rfl, ?_, rfl, rfl, rfl, fun e he => absurd he List.not_mem_nil⟩
    cases downlink <;> rfl
  exact hstart.run (classed_vehicleInit downlink inContact hooks confirmCycles w s) hops

/-- **The command path is a sequential server.**  In every run into which no foreign
telemetry of the command application is brought, whatever else happens on board:

* the reports on the ground are the answers to the telecommands, in their order and
  without a gap, each answer told by the packet's own octets and by whether FDIR was in
  SAFE when it came;
* the counters of the command path are those of the server;
* and FDIR has reported an exit from SAFE for each exit command that came in SAFE, and no
  other. -/
theorem command_server (downlink inContact : Bool) (hooks : Option FdirHooks)
    (confirmCycles : U8) (w : Watchdog) (s : SpacecraftState) (ops : List VehicleOp)
    (hops : ∀ op ∈ ops, op.notCommandTm) :
    let v₀ := vehicleInit downlink inContact hooks confirmCycles w s
    let v := vehicleRun v₀ ops
    commandPackets v.bus = (if downlink then numbered 0 (answers (commandLog v₀ ops)) else []) ∧
      v.bus.obdh.uplink = served (commandLog v₀ ops) ∧
      countId evtSafeExit v.fdir.reports = exits (commandLog v₀ ops) := by
  intro v₀ v
  have hend := serving_run downlink inContact hooks confirmCycles w s hops
  exact ⟨hend.sent, hend.uplink, hend.exits⟩

/-- The exit command, sent before SAFE and in it: a failure and an exit. -/
theorem command_server_two_exits :
    let leave : Bytes := [0x18, 0x65, 0xC0, 0x01, 0x00, 0x06, 0x20, 0x82, 0x01, 0x00, 0x00, 0x8F,
      0x56]
    let low : VehicleOp := .cycle ⟨0x41A00000, 80, 0x41C80000, 0x41A00000, .nominal⟩
    let w : Watchdog := ⟨Vector.replicate nTasks 0, Vector.replicate nTasks 0⟩
    let v₀ := vehicleInit true false none 1 w ⟨0, 0, 0, 0, .boot⟩
    let ops : List VehicleOp :=
      [.ingest (some leave), low, low, low, low, low, .ingest (some leave)]
    commandLog v₀ ops = [(leave, false), (leave, true)] ∧
      commandPackets (vehicleRun v₀ ops).bus =
        numbered 0 (answers [(leave, false), (leave, true)]) ∧
      countId evtSafeExit (vehicleRun v₀ ops).fdir.reports = 1 := by
  intro leave low w v₀ ops
  have hops : ∀ op ∈ ops, op.notCommandTm := by
    intro op hop
    simp only [ops, List.mem_cons, List.not_mem_nil, or_false] at hop
    rcases hop with rfl | rfl | rfl | rfl | rfl | rfl | rfl
    all_goals first | exact trivial | exact fun hc => absurd hc (by decide +kernel)
  have hlog : commandLog v₀ ops = [(leave, false), (leave, true)] := by decide +kernel
  obtain ⟨hsent, -, hexits⟩ := command_server true false none 1 w ⟨0, 0, 0, 0, .boot⟩ ops hops
  change commandPackets (vehicleRun v₀ ops).bus = numbered 0 (answers (commandLog v₀ ops)) at hsent
  change countId evtSafeExit (vehicleRun v₀ ops).fdir.reports = exits (commandLog v₀ ops) at hexits
  rw [hlog] at hsent hexits
  exact ⟨hlog, hsent, hexits.trans (by decide +kernel)⟩

/-! ## Balances -/

/-- The counters of the server against its answers. -/
structure Balanced (log : List Request) : Prop where
  dropped : (served log).dropped = 0
  executed : (served log).executed = (served log).accepted
  decided : (log.length : U32) = (served log).accepted + (served log).rejected
  rejected : (served log).rejected = (ofKind 1 2 (answers log) : U32)
  tests : (served log).connTests = (ofKind 17 2 (answers log) : U32)
  accepted : (served log).accepted =
    (served log).connTests + (exits log : U32) + (ofKind 1 8 (answers log) : U32)

/-- An accepted command is a test, an exit or a failure, and one of these only. -/
theorem one_of_three {p : Bytes} {parsed : TcParsed} {handler : CmdHandler}
    (hv : verdict (some p) = .accepted parsed handler) (safe : Bool) :
    ofKind 17 2 (answer p safe) + exits [(p, safe)] + ofKind 1 8 (answer p safe) = 1 := by
  obtain ⟨-, htest, hfail⟩ := ofKind_owedReports p parsed
    (decide (parsed.tc.service = 130) && !safe)
  have hexecutes : executes p = some handler := by rw [executes, hv]
  rw [answer_accepted safe hv, htest, hfail, exits, List.countP_singleton]
  obtain ⟨-, -, hpair⟩ := verdict_accepted hv
  rcases hpair with ⟨hpair, rfl⟩ | ⟨hpair, rfl⟩
  · have hs : parsed.tc.service = 17 := (Prod.mk.inj hpair).1
    simp [hs, hexecutes]
  · have hs : parsed.tc.service = 130 := (Prod.mk.inj hpair).1
    cases safe <;> simp [hs, hexecutes]

namespace Balanced

variable {log : List Request} {p : Bytes}

theorem ofKind_concat (service subtype : U8) (log : List Request) (p : Bytes) (safe : Bool) :
    ofKind service subtype (answers (log ++ [(p, safe)])) =
      ofKind service subtype (answers log) + ofKind service subtype (answer p safe) := by
  rw [answers_concat, ofKind_append]

theorem refused (h : Balanced log) {res : UplinkResult} {code : U8}
    (hv : verdict (some p) = .refused res code) (safe : Bool) :
    Balanced (log ++ [(p, safe)]) := by
  have hexits : exits [(p, safe)] = 0 := by
    simp [exits, executes, hv]
  have hkinds : ofKind 1 2 (answer p safe) = 1 ∧ ofKind 17 2 (answer p safe) = 0 ∧
      ofKind 1 8 (answer p safe) = 0 := by
    rw [answer_refused safe hv]
    exact ⟨rfl, rfl, rfl⟩
  obtain ⟨hone, htest, hfail⟩ := hkinds
  constructor
  · rw [served_concat, serve_refused _ _ hv, h.dropped]
  · rw [served_concat, serve_refused _ _ hv, h.executed]
  · rw [served_concat, serve_refused _ _ hv, List.length_append, List.length_singleton,
      Nat.cast_succ, h.decided, add_assoc]
  · rw [served_concat, serve_refused _ _ hv, ofKind_concat, hone, Nat.cast_succ, h.rejected]
  · rw [served_concat, serve_refused _ _ hv, ofKind_concat, htest, Nat.add_zero, h.tests]
  · rw [served_concat, serve_refused _ _ hv, ofKind_concat, exits_concat, hexits, hfail,
      Nat.add_zero, Nat.add_zero, h.accepted]

theorem accept (h : Balanced log) {parsed : TcParsed} {handler : CmdHandler}
    (hv : verdict (some p) = .accepted parsed handler) (safe : Bool) :
    Balanced (log ++ [(p, safe)]) := by
  obtain ⟨hnone, htest, -⟩ := ofKind_owedReports p parsed
    (decide (parsed.tc.service = 130) && !safe)
  rw [← answer_accepted safe hv] at hnone htest
  have hone : (ofKind 17 2 (answer p safe) : U32) + (exits [(p, safe)] : U32) +
      (ofKind 1 8 (answer p safe) : U32) = 1 := by
    rw [← Nat.cast_add, ← Nat.cast_add, one_of_three hv safe, Nat.cast_one]
  have hconn : (if parsed.tc.service = 17 then (served log).connTests + 1
      else (served log).connTests) =
        (served log).connTests + (ofKind 17 2 (answer p safe) : U32) := by
    rw [htest]
    split
    · rfl
    · exact (add_zero _).symm
  constructor
  · rw [served_concat, serve_accepted _ _ hv, h.dropped]
  · rw [served_concat, serve_accepted _ _ hv, h.executed]
  · rw [served_concat, serve_accepted _ _ hv, List.length_append, List.length_singleton,
      Nat.cast_succ, h.decided, add_right_comm]
  · rw [served_concat, serve_accepted _ _ hv, ofKind_concat, hnone, Nat.add_zero, h.rejected]
  · rw [served_concat, serve_accepted _ _ hv, ofKind_concat, Nat.cast_add, ← h.tests]
    exact hconn
  · rw [served_concat, serve_accepted _ _ hv, ofKind_concat, exits_concat, Nat.cast_add,
      Nat.cast_add]
    change (served log).accepted + 1 = (if _ then _ else _) + _ + _
    rw [hconn, h.accepted]
    linear_combination -hone

end Balanced

/-- **The server's books balance.** -/
theorem balanced (log : List Request) (hlog : ∀ e ∈ log, IsTc e.1) : Balanced log := by
  induction log using List.reverseRecOn with
  | nil => exact ⟨rfl, rfl, rfl, rfl, rfl, rfl⟩
  | append_singleton log e ih =>
      have h := ih fun e' he' => hlog e' (List.mem_append_left _ he')
      have hp : IsTc e.1 := hlog e (List.mem_append_right _ (List.mem_singleton_self e))
      cases hv : verdict (some e.1) with
      | unidentified err => exact absurd hv (verdict_ne_unidentified hp err)
      | refused res code => exact h.refused hv e.2
      | accepted parsed handler => exact h.accept hv e.2

/-- **Every command is accounted for, on board and on the ground.**  After every run of a
system with a downlink, in which no other telemetry of the command application has been
ingested, and modulo 2^32:

* the router has dispatched as many packets as the command path has accepted or
  rejected, it has dropped none, and each accepted one was executed;
* as many were rejected as the ground has reports of rejection, and as many connection
  tests run as it has their reports;
* and each command accepted shows as a test, as an exit that FDIR has reported, or as a
  report of failed execution, and as one of these only. -/
theorem command_ledger (inContact : Bool) (hooks : Option FdirHooks) (confirmCycles : U8)
    (w : Watchdog) (s : SpacecraftState) (ops : List VehicleOp)
    (hops : ∀ op ∈ ops, op.notCommandTm) :
    let v := vehicleRun (vehicleInit true inContact hooks confirmCycles w s) ops
    let u := v.bus.obdh.uplink
    (v.bus.obdh.nDispatched = u.accepted + u.rejected ∧ u.dropped = 0 ∧
      u.executed = u.accepted) ∧
    (u.rejected = (reported v.bus 1 2 : U32) ∧ u.connTests = (reported v.bus 17 2 : U32)) ∧
    u.accepted = ((reported v.bus 17 2 + countId evtSafeExit v.fdir.reports +
      reported v.bus 1 8 : ℕ) : U32) := by
  intro v u
  have h := serving_run true inContact hooks confirmCycles w s hops
  have hbooks := balanced _ h.commands
  have hreported : ∀ service subtype, reported v.bus service subtype =
      ofKind service subtype
        (answers (commandLog (vehicleInit true inContact hooks confirmCycles w s) ops)) := by
    intro service subtype
    rw [reported, h.sent, if_pos rfl, countP_numbered]
  have hexits : countId evtSafeExit v.fdir.reports =
      exits (commandLog (vehicleInit true inContact hooks confirmCycles w s) ops) := h.exits
  have hu : u = served _ := h.uplink
  rw [hu, h.dispatched, hreported, hreported, hreported, hexits]
  refine ⟨⟨hbooks.decided, hbooks.dropped, hbooks.executed⟩, ⟨hbooks.rejected, hbooks.tests⟩, ?_⟩
  rw [Nat.cast_add, Nat.cast_add, ← hbooks.tests]
  exact hbooks.accepted

/-- A connection test and an exit command outside SAFE. -/
theorem command_ledger_test_and_exit :
    let test : VehicleOp := .ingest (some [0x18, 0x65, 0xC0, 0x00, 0x00, 0x06, 0x20, 0x11, 0x01,
      0x00, 0x00, 0x95, 0xC6])
    let leave : VehicleOp := .ingest (some [0x18, 0x65, 0xC0, 0x01, 0x00, 0x06, 0x20, 0x82, 0x01,
      0x00, 0x00, 0x8F, 0x56])
    let w : Watchdog := ⟨Vector.replicate nTasks 0, Vector.replicate nTasks 0⟩
    let v := vehicleRun (vehicleInit true false none 2 w ⟨0, 0, 0, 0, .boot⟩) [test, leave]
    v.bus.obdh.uplink.accepted = 2 ∧
      v.bus.obdh.nDispatched = v.bus.obdh.uplink.accepted + v.bus.obdh.uplink.rejected := by
  intro test leave w
  have hops : ∀ op ∈ [test, leave], op.notCommandTm := by
    intro op hop
    rcases List.mem_pair.1 hop with rfl | rfl
    · exact fun hc => absurd hc (by decide +kernel)
    · exact fun hc => absurd hc (by decide +kernel)
  have hledger := command_ledger false none 2 w ⟨0, 0, 0, 0, .boot⟩ [test, leave] hops
  exact ⟨by decide +kernel, hledger.1.1⟩

end Flight
end SpacecraftFsw
