import SpacecraftFsw.Lib.Schedule
import SpacecraftFsw.Fdir.Runs

/-!
# The whole system

The router, the command path behind it and FDIR behind the command path, wired as
`fdir_attach_uplink` wires them and driven through every entry point.

* `fdirIngest_other`, `fdirIngest_granted`, `fdirIngest_refused` — what an ingest
  does to FDIR's memory: nothing, unless it is the exit command and FDIR is in SAFE.
* `Vehicle`, `vehicleRun` — the system and its runs; `wired_run` keeps the hook in
  place.
* `safe_exit_authorised` — leaving SAFE is the ground's decision and nobody
  else's, over every run and every next operation.
-/

namespace SpacecraftFsw
namespace Flight

open Tmtc Obdh Fdir

/-! ## The exit command -/

/-- A packet that `tc_parse` accepts, with service 130, subtype 1 and no
application data. -/
def IsExitCommand (pkt : Option Bytes) : Prop :=
  ∃ p, tcParse pkt = .ok p ∧ (p.tc.service, p.tc.subtype) = (130, 1) ∧ p.appData = []

theorem isTc_of_tcParse {b : Bytes} {p : TcParsed} (h : tcParse (some b) = .ok p) : IsTc b := by
  have hw := wellFormedTc_of_ok h
  have hmin := hw.min_len
  simp only [tcMinPacketLen, pusTcSecHdrLen, tcPecLen] at hmin
  exact ⟨by omega, hw.type⟩

theorem isExitCommand_of_verdict {buf : Option Bytes} {p : TcParsed}
    (h : verdict buf = .accepted p .exitSafe) : IsExitCommand buf := by
  obtain ⟨hp, happ, hpair⟩ := verdict_accepted h
  rcases hpair with ⟨_, hh⟩ | ⟨hpair, _⟩
  · cases hh
  · exact ⟨p, hp, hpair, happ⟩

/-- The command path keeps its hook. -/
theorem exitSafeHook_handleTc {ω : Type} (hook : Hook ω) (s : UplinkState ω) (buf : Option Bytes) :
    (uplinkHandleTc hook s buf).2.ctx.exitSafeHook = s.ctx.exitSafeHook := by
  cases hv : verdict buf with
  | unidentified e => rw [uplinkHandleTc_unidentified hook s hv]
  | refused res code =>
      obtain ⟨b, -, rfl, -⟩ := verdict_refused hv
      rw [(uplinkHandleTc_refused hook s hv).2.2.1]
  | accepted p handler =>
      cases buf with
      | none => cases hv
      | some b => rw [(uplinkHandleTc_accepted hook s hv).2.2.1]

/-- A packet that is not the exit command does not reach the hook. -/
theorem world_of_not_exit {ω : Type} (hook : Hook ω) (s : UplinkState ω) {buf : Option Bytes}
    (h : ¬IsExitCommand buf) : (uplinkHandleTc hook s buf).2.world = s.world := by
  cases hv : verdict buf with
  | unidentified e => rw [uplinkHandleTc_unidentified hook s hv]
  | refused res code =>
      obtain ⟨b, -, rfl, -⟩ := verdict_refused hv
      exact (uplinkHandleTc_refused hook s hv).2.1
  | accepted p handler =>
      cases buf with
      | none => cases hv
      | some b =>
          cases handler with
          | connectionTest => exact (uplinkHandleTc_connectionTest hook s hv).2.1
          | exitSafe => exact absurd (isExitCommand_of_verdict hv) h

/-- Anything but the exit command leaves FDIR alone. -/
theorem fdirIngest_other (b : Bus FdirMem) {pkt : Option Bytes} (h : ¬IsExitCommand pkt) :
    (fdirIngest b pkt).2.user = b.user := by
  rcases isTm_or_isTc pkt with htm | ⟨p, rfl, htc⟩
  · rw [tmIngest_fdirIngest b pkt htm]
    exact (tmFrame_obdhIngestTm b htm).user
  · rw [fdirIngest, (tmFrame_tc fdirHook b htc).user]
    have hworld := world_of_not_exit (busHook fdirHook.call)
      ⟨(b.dispatched p).obdh.uplink, TmOut.blank, b.dispatched p⟩ h
    have huser := congrArg Bus.user hworld
    exact huser

/-- The router at the moment the hook is called. -/
def atHook (b : Bus FdirMem) (c : Bytes) (p : TcParsed) : Bus FdirMem :=
  { b.dispatched c with
    obdh := { (b.dispatched c).obdh with uplink := ctxAtHandler b.obdh.uplink c p.tc.ackFlags } }

/-- **The exit command**: FDIR's ground exit is called once, its memory is what
that call leaves, and the reports owed go back through the router. -/
theorem fdirIngest_exit (b : Bus FdirMem) (hwired : b.obdh.uplink.exitSafeHook = true) {c : Bytes}
    {p : TcParsed} (hp : tcParse (some c) = .ok p)
    (hpair : (p.tc.service, p.tc.subtype) = (130, 1)) (happ : p.appData = []) :
    let called := fdirHook.call (atHook b c p)
    let b' := (fdirIngest b (some c)).2
    b'.user = called.2.user ∧ b'.ingested = called.2.ingested ++
      (numbered b.obdh.uplink.tmSeq (owedReports c p (called.1 = 0))).map some := by
  intro called b'
  have hv := verdict_exitSafe hp happ hpair
  have hservice : p.tc.service = 130 := (Prod.mk.inj hpair).1
  obtain ⟨_, hworld, _, hem⟩ := uplinkHandleTc_accepted (busHook fdirHook.call)
    ⟨(b.dispatched c).obdh.uplink, TmOut.blank, b.dispatched c⟩ hv
  have hframe := tmFrame_tc fdirHook b (isTc_of_tcParse hp)
  have hwired' : (b.dispatched c).obdh.uplink.exitSafeHook = true := hwired
  simp only [hservice, hwired', true_and, if_true, false_or, Bool.true_eq_false] at hworld hem
  have huser := congrArg Bus.user hworld
  have hingested := congrArg Bus.ingested hworld
  refine ⟨hframe.user.trans huser, hframe.ingested.trans ?_⟩
  exact congrArg₂ (fun pre reports => pre ++ reports.map some) hingested hem.reports

/-- In SAFE the exit command is granted. -/
theorem fdirIngest_granted (b : Bus FdirMem) (hwired : b.obdh.uplink.exitSafeHook = true)
    {pkt : Option Bytes} (h : IsExitCommand pkt) (hs : b.user.ctx.state = .safe) :
    (fdirIngest b pkt).2.user = b.user.exitSafe := by
  obtain ⟨p, hp, hpair, happ⟩ := h
  cases pkt with
  | none => cases hp
  | some c =>
      have hs' : (atHook b c p).user.ctx.state = .safe := hs
      rw [(fdirIngest_exit b hwired hp hpair happ).1]
      exact (fdirExitSafe_granted (fun _ _ _ => rfl) hs').2

/-- Outside SAFE it is refused: FDIR stays as it is, and the failure is reported. -/
theorem fdirIngest_refused (b : Bus FdirMem) (hwired : b.obdh.uplink.exitSafeHook = true)
    {c : Bytes} {p : TcParsed} (hp : tcParse (some c) = .ok p)
    (hpair : (p.tc.service, p.tc.subtype) = (130, 1)) (happ : p.appData = [])
    (hs : b.user.ctx.state ≠ .safe) :
    (fdirIngest b (some c)).2.user = b.user ∧ (fdirIngest b (some c)).2.ingested =
      b.ingested ++ some c :: (numbered b.obdh.uplink.tmSeq (owedReports c p true)).map some := by
  have hs' : (atHook b c p).user.ctx.state ≠ .safe := hs
  have hcall : fdirHook.call (atHook b c p) = (0, atHook b c p) := fdirExitSafe_refused _ hs'
  obtain ⟨huser, hingested⟩ := fdirIngest_exit b hwired hp hpair happ
  rw [hcall] at huser hingested
  refine ⟨huser, hingested.trans ?_⟩
  change (b.ingested ++ [some c]) ++ _ = _
  rw [List.append_assoc]
  rfl

/-- An ingest keeps the hook wired. -/
theorem wired_fdirIngest (b : Bus FdirMem) (hwired : b.obdh.uplink.exitSafeHook = true)
    (pkt : Option Bytes) : (fdirIngest b pkt).2.obdh.uplink.exitSafeHook = true := by
  rcases isTm_or_isTc pkt with htm | ⟨p, rfl, htc⟩
  · rw [tmIngest_fdirIngest b pkt htm, (tmFrame_obdhIngestTm b htm).uplink, hwired]
  · rw [fdirIngest, (tmFrame_tc fdirHook b htc).uplink]
    exact (exitSafeHook_handleTc _ _ _).trans hwired

/-! ## The system -/

/-- The flight software and the spacecraft it watches. -/
structure Vehicle where
  bus : Bus FdirMem
  watchdog : Watchdog
  spacecraft : SpacecraftState

/-- FDIR's memory. -/
def Vehicle.fdir (v : Vehicle) : FdirMem := v.bus.user

/-- Every entry point of the system. -/
inductive VehicleOp
  | ingest (pkt : Option Bytes)
  | setContact (inContact : Bool)
  | tick
  | obdhHk (cap : Option Size)
  | fdirHk (cap : Option Size)
  | kick (id : ℤ)
  | cycle (readings : SpacecraftState)

/-- The system after one operation. -/
def vehicleOp (v : Vehicle) : VehicleOp → Vehicle
  | .ingest pkt => { v with bus := (fdirIngest v.bus pkt).2 }
  | .setContact inContact => { v with bus := obdhSetContact v.bus inContact }
  | .tick => { v with bus := obdhTick v.bus }
  | .obdhHk cap => { v with bus := (obdhBuildHk v.bus cap).2 }
  | .fdirHk cap => { v with bus := (fdirBuildHk v.bus cap).2 }
  | .kick id => { v with watchdog := wdKick v.watchdog id }
  | .cycle readings =>
    let r := fdirCycle fdirIngest v.bus readings v.watchdog
    { bus := r.2.2.2, watchdog := r.2.2.1, spacecraft := r.2.1 }

/-- The system after its initialisation and `fdir_attach_uplink`, with
`confirm_cycles` set. -/
def vehicleInit (downlink inContact : Bool) (hooks : Option FdirHooks) (confirmCycles : U8)
    (w : Watchdog) (s : SpacecraftState) : Vehicle where
  bus := fdirAttachUplink (obdhInit downlink inContact (fdirStart hooks confirmCycles))
  watchdog := wdInit w
  spacecraft := s

/-- The system after a sequence of operations. -/
def vehicleRun (v : Vehicle) (ops : List VehicleOp) : Vehicle := ops.foldl vehicleOp v

/-- `fdir_build_hk` moves its own sequence count and nothing else. -/
theorem fdirBuildHk_frame (b : Bus FdirMem) (cap : Option Size) :
    (fdirBuildHk b cap).2.obdh = b.obdh ∧
      ∃ n, (fdirBuildHk b cap).2.user = b.user.withCtx { b.user.ctx with hkSeq := n } := by
  simp only [fdirBuildHk]
  split
  · exact ⟨rfl, b.user.ctx.hkSeq, rfl⟩
  · exact ⟨rfl, _, rfl⟩

/-- The hook stays wired. -/
theorem wired_vehicleOp {v : Vehicle} (h : v.bus.obdh.uplink.exitSafeHook = true)
    (op : VehicleOp) : (vehicleOp v op).bus.obdh.uplink.exitSafeHook = true := by
  cases op with
  | ingest pkt => exact wired_fdirIngest v.bus h pkt
  | setContact inContact => rw [vehicleOp, (obdhSetContact_frame v.bus inContact).uplink, h]
  | tick => exact h
  | obdhHk cap => rw [vehicleOp, (obdhBuildHk_frame v.bus cap).1, h]
  | fdirHk cap => rw [vehicleOp, (fdirBuildHk_frame v.bus cap).1, h]
  | kick id => exact h
  | cycle readings =>
      have hsteps := fdirCycle_steps tmIngest_fdirIngest v.bus readings v.watchdog
      exact (congrArg UplinkCtx.exitSafeHook (uplink_of_steps hsteps)).trans h

theorem wired_run {v : Vehicle} (h : v.bus.obdh.uplink.exitSafeHook = true) (ops : List VehicleOp) :
    (vehicleRun v ops).bus.obdh.uplink.exitSafeHook = true :=
  Schedule.invariant_run (P := fun v : Vehicle => v.bus.obdh.uplink.exitSafeHook = true)
    (fun _ op h => wired_vehicleOp h op) h ops

/-! ## SAFE and the ground -/

/-- The fields of FDIR's context that SAFE freezes. -/
structure Frozen (c c' : FdirCtx) : Prop where
  state : c'.state = c.state
  attempts : c'.attempts = c.attempts
  sourceMask : c'.sourceMask = c.sourceMask
  taskMask : c'.taskMask = c.taskMask
  faultStreak : c'.faultStreak = c.faultStreak
  evSeq : c'.evSeq = c.evSeq
  nFaults : c'.nFaults = c.nFaults
  nSafeEntries : c'.nSafeEntries = c.nSafeEntries
  nFiltered : c'.nFiltered = c.nFiltered

/-- FDIR stays as it is: no event, no call, no change to the frozen fields. -/
structure Undisturbed (m m' : FdirMem) : Prop where
  events : m'.events = m.events
  calls : m'.calls = m.calls
  frozen : Frozen m.ctx m'.ctx

theorem Undisturbed.refl (m : FdirMem) : Undisturbed m m :=
  ⟨rfl, rfl, rfl, rfl, rfl, rfl, rfl, rfl, rfl, rfl, rfl⟩

/-- In SAFE a cycle records its verdict and does nothing. -/
theorem undisturbed_of_trans {m m' : FdirMem} {stalled : U8} {worst : Health} {sources : U8}
    (h : FdirTrans (m.stall stalled) worst sources m') (hs : m.ctx.state = .safe) :
    Undisturbed m m' := by
  cases h with
  | confirmed hn _ _ | filtered hn _ _ | warned hn _ _ | calm hn _ _ | recovered hn _
  | safeEntered hn _ _ | attempted hn _ _ => exact FdirState.noConfusion (hs.symm.trans hn)
  | safe _ => exact ⟨rfl, rfl, rfl, rfl, rfl, rfl, rfl, rfl, rfl, rfl, rfl⟩

/-- **In SAFE every operation but the exit command leaves FDIR undisturbed.** -/
theorem undisturbed_in_safe {v : Vehicle} (hs : v.fdir.ctx.state = .safe) {op : VehicleOp}
    (hop : ∀ pkt, op = .ingest pkt → ¬IsExitCommand pkt) :
    Undisturbed v.fdir (vehicleOp v op).fdir := by
  cases op with
  | ingest pkt =>
      have huser : (vehicleOp v (.ingest pkt)).fdir = v.fdir :=
        fdirIngest_other v.bus (hop pkt rfl)
      rw [huser]
      exact .refl _
  | setContact inContact =>
      have huser : (vehicleOp v (.setContact inContact)).fdir = v.fdir :=
        (obdhSetContact_frame v.bus inContact).user
      rw [huser]
      exact .refl _
  | tick => exact .refl _
  | obdhHk cap =>
      have huser : (vehicleOp v (.obdhHk cap)).fdir = v.fdir := (obdhBuildHk_frame v.bus cap).2
      rw [huser]
      exact .refl _
  | fdirHk cap =>
      obtain ⟨n, hn⟩ := (fdirBuildHk_frame v.bus cap).2
      have huser : (vehicleOp v (.fdirHk cap)).fdir =
          v.fdir.withCtx { v.fdir.ctx with hkSeq := n } := hn
      rw [huser]
      exact ⟨rfl, rfl, rfl, rfl, rfl, rfl, rfl, rfl, rfl, rfl, rfl⟩
  | kick id => exact .refl _
  | cycle readings =>
      have htrans := fdirCycle_trans tmIngest_fdirIngest v.bus readings v.watchdog
      exact undisturbed_of_trans htrans hs

/-- **SAFE is left on the ground's authority only.**  For every state `v` of every
run from the initialisation, and every next operation:

* if FDIR leaves SAFE, the operation ingests an exit command;
* an exit command ingested in SAFE moves FDIR to NOMINAL and emits one event, the
  SAFE exit, in or out of contact;
* any other operation in SAFE leaves FDIR undisturbed;
* an exit command ingested outside SAFE leaves FDIR as it is, and the reports sent
  back are those of a failed execution. -/
theorem safe_exit_authorised (downlink inContact : Bool) (hooks : Option FdirHooks)
    (confirmCycles : U8) (w : Watchdog) (s : SpacecraftState) (ops : List VehicleOp)
    (op : VehicleOp) :
    let v := vehicleRun (vehicleInit downlink inContact hooks confirmCycles w s) ops
    let v' := vehicleOp v op
    (v.fdir.ctx.state = .safe → v'.fdir.ctx.state ≠ .safe →
      ∃ pkt, op = .ingest pkt ∧ IsExitCommand pkt) ∧
    (v.fdir.ctx.state = .safe → ∀ pkt, op = .ingest pkt → IsExitCommand pkt →
      v'.fdir.ctx.state = .nominal ∧ v'.fdir.calls = v.fdir.calls ∧
        ∃ e, v'.fdir.reports = v.fdir.reports ++ [e] ∧ e.id = evtSafeExit) ∧
    (v.fdir.ctx.state = .safe → (∀ pkt, op = .ingest pkt → ¬IsExitCommand pkt) →
      Undisturbed v.fdir v'.fdir) ∧
    (v.fdir.ctx.state ≠ .safe → ∀ c p, op = .ingest (some c) → tcParse (some c) = .ok p →
      (p.tc.service, p.tc.subtype) = (130, 1) → p.appData = [] →
      v'.fdir = v.fdir ∧ v'.bus.ingested = v.bus.ingested ++
        some c :: (numbered v.bus.obdh.uplink.tmSeq (owedReports c p true)).map some) := by
  intro v v'
  have hwired : v.bus.obdh.uplink.exitSafeHook = true := wired_run rfl ops
  refine ⟨?_, ?_, ?_, ?_⟩
  · intro hs hs'
    by_contra hnone
    have hsame : Undisturbed v.fdir v'.fdir := by
      apply undisturbed_in_safe hs
      intro pkt hpkt hexit
      exact hnone ⟨pkt, hpkt, hexit⟩
    exact hs' (hsame.frozen.state.trans hs)
  · rintro hs pkt rfl hexit
    have huser : v'.fdir = v.fdir.exitSafe := fdirIngest_granted v.bus hwired hexit hs
    rw [huser]
    refine ⟨rfl, rfl, v.fdir.ctx.exitSafe.event evtSafeExit .info v.fdir.ctx.prevWorst, ?_, rfl⟩
    rw [FdirMem.exitSafe, FdirMem.clearMasks_reports, FdirMem.emit_reports]
    rfl
  · intro hs hop
    exact undisturbed_in_safe hs hop
  · rintro hs c p rfl hp hpair happ
    exact fdirIngest_refused v.bus hwired hp hpair happ hs

end Flight
end SpacecraftFsw
