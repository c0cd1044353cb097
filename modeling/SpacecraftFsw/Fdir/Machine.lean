import SpacecraftFsw.Fdir.Watchdog
import SpacecraftFsw.Obdh.Housekeeping

/-!
# The graduated FDIR state machine

`labs/05-fdir/fdir.c`: event emission, the state machine with its recovery
ladder, the ground exit, the full cycle and the housekeeping report.

FDIR is the unit behind the router's exit-safe hook.  Its memory is the context
together with two logs, of the calls of its hooks and of the events it emits; the
hooks themselves touch neither the router nor the context.  Every function that
emits an event takes the router's entry point as a parameter, since the ground
exit is part of the hook that the router is built from.

* `emitEvent_user` — an emitted event changes FDIR's memory in one way only,
  whatever the router does with it.
* `FdirTrans`, `fdirStep_trans` — everything one step can do, with the condition
  for each case; `fdirExitSafe_refused` and `fdirExitSafe_granted` are the same for
  the ground exit.
* `fdirCycle_trans` — a cycle is one such step.
* `fdirHook`, `fdirHook_call` — the ground exit as the router's hook.
-/

namespace SpacecraftFsw
namespace Fdir

open Tmtc Obdh
open Relation (ReflTransGen)

/-! ## Constants and state -/

/-- `FDIR_MAX_ATTEMPTS`. -/
def fdirMaxAttempts : U8 := 3

/-- `FDIR_CONFIRM_CYCLES`. -/
def fdirConfirmCycles : U8 := 2

/-- `PUS_SERVICE_EVENT`. -/
def pusServiceEvent : U8 := 5

/-- `EVT_WARN` and its siblings. -/
def evtWarn : U16 := 0x1001
def evtFault : U16 := 0x1002
def evtRecoveryAction : U16 := 0x1003
def evtRecovered : U16 := 0x1004
def evtSafeEnter : U16 := 0x1005
def evtSafeExit : U16 := 0x1006

/-- `fdir_sev_t`. -/
inductive FdirSev
  | info
  | low
  | medium
  | high
  deriving DecidableEq, Repr

/-- `fdir_event_subtype`. -/
def fdirEventSubtype : FdirSev → U8
  | .info => 1
  | .low => 2
  | .medium => 3
  | .high => 4

/-- `fdir_state_t`. -/
inductive FdirState
  | nominal
  | recovering
  | safe
  deriving DecidableEq, Repr

/-- `(uint8_t) c->state`. -/
def FdirState.code : FdirState → U8
  | .nominal => 0
  | .recovering => 1
  | .safe => 2

/-- `recovery_action_t`. -/
inductive RecoveryAction
  | retry
  | resetDevice
  | switchRedundant
  deriving DecidableEq, Repr

/-- `fdir_hooks`: which of the callbacks are wired. -/
structure FdirHooks where
  recover : Bool
  enterSafe : Bool
  deriving DecidableEq, Repr

/-- `fdir_ctx`. -/
structure FdirCtx where
  hooks : FdirHooks
  state : FdirState
  attempts : U8
  faultStreak : U8
  confirmCycles : U8
  prevWorst : Health
  sourceMask : U8
  taskMask : U8
  stalledNow : U8
  evSeq : U16
  hkSeq : U16
  nEvents : U32
  nEventLost : U32
  nFaults : U16
  nSafeEntries : U16
  nFiltered : U16
  deriving DecidableEq, Repr

/-- A call of one of the hooks. -/
inductive HookCall
  | recover (action : RecoveryAction) (sources : U8)
  | enterSafe (sources : U8)
  deriving DecidableEq, Repr

/-- The context, the calls of its hooks and the events handed to the router. -/
structure FdirMem where
  ctx : FdirCtx
  calls : List HookCall
  events : List Bytes
  deriving DecidableEq, Repr

/-- `fdir_init`; `none` is a null `hooks`. -/
def fdirInit (hooks : Option FdirHooks) : FdirMem where
  ctx :=
    { hooks := hooks.getD ⟨false, false⟩
      state := .nominal
      attempts := 0
      faultStreak := 0
      confirmCycles := fdirConfirmCycles
      prevWorst := .ok
      sourceMask := 0
      taskMask := 0
      stalledNow := 0
      evSeq := 0
      hkSeq := 0
      nEvents := 0
      nEventLost := 0
      nFaults := 0
      nSafeEntries := 0
      nFiltered := 0 }
  calls := []
  events := []

/-- The router's entry point, as FDIR calls it. -/
abbrev Ingest := Bus FdirMem → Option Bytes → ObdhDest × Bus FdirMem

/-- `b` with FDIR's context changed. -/
def setCtx (b : Bus FdirMem) (c : FdirCtx) : Bus FdirMem :=
  { b with user := { b.user with ctx := c } }

/-- `b` with a hook call logged. -/
def logCall (b : Bus FdirMem) (call : HookCall) : Bus FdirMem :=
  { b with user := { b.user with calls := b.user.calls ++ [call] } }

/-! ## Events -/

/-- The payload `emit_event` writes. -/
def eventPayload (c : FdirCtx) (evt : U16) (worst : Health) : Bytes :=
  [hi8 evt, lo8 evt, c.state.code, c.attempts, BitVec.ofNat 8 worst.code, c.sourceMask, c.taskMask]

/-- `emit_event`. -/
def emitEvent (ingest : Ingest) (b : Bus FdirMem) (evt : U16) (sev : FdirSev) (worst : Health) :
    Bus FdirMem :=
  let c := b.user.ctx
  match obdhPackTm (some (BitVec.ofNat 64 maxPkt)) apidEvent c.evSeq pusServiceEvent
      (fdirEventSubtype sev) (eventPayload c evt worst) with
  | none => setCtx b { c with nEventLost := c.nEventLost + 1 }
  | some pkt =>
    let c := { c with evSeq := (c.evSeq + 1) % 16384, nEvents := c.nEvents + 1 }
    let b := { b with user := { b.user with ctx := c, events := b.user.events ++ [pkt] } }
    let (dest, b) := ingest b (some pkt)
    if dest = .drop then
      setCtx b { b.user.ctx with nEventLost := b.user.ctx.nEventLost + 1 }
    else b

/-! ## The state machine -/

/-- `action_for_attempt`. -/
def actionForAttempt (attempt : U8) : RecoveryAction :=
  if attempt ≤ 1 then .retry else if attempt = 2 then .resetDevice else .switchRedundant

/-- The `FDIR_NOMINAL` case of `fdir_step`. -/
def stepNominal (ingest : Ingest) (b : Bus FdirMem) (worst : Health) (sources : U8) : Bus FdirMem :=
  let c := b.user.ctx
  if worst = .fault then
    let c := if c.faultStreak < 255 then { c with faultStreak := c.faultStreak + 1 } else c
    let need := if c.confirmCycles = 0 then 1 else c.confirmCycles
    if c.faultStreak ≥ need then
      -- confirmed: latch which monitors are responsible; recovery starts on the next cycle
      let c := { c with
        faultStreak := 0
        nFaults := c.nFaults + 1
        attempts := 0
        sourceMask := sources
        taskMask := c.stalledNow
        state := .recovering }
      emitEvent ingest (setCtx b c) evtFault .medium worst
    else setCtx b { c with nFiltered := c.nFiltered + 1 }
  else
    let c := { c with faultStreak := 0 }
    if worst = .warn ∧ c.prevWorst = .ok then emitEvent ingest (setCtx b c) evtWarn .low worst
    else setCtx b c

/-- The `FDIR_RECOVERING` case of `fdir_step`. -/
def stepRecovering (ingest : Ingest) (b : Bus FdirMem) (worst : Health) (sources : U8) :
    Bus FdirMem :=
  let c := b.user.ctx
  let c := { c with
    sourceMask := c.sourceMask ||| sources
    taskMask := c.taskMask ||| c.stalledNow }
  if worst = .ok then
    -- checked first: a fault that clears is believed even when the attempts have run out
    let b := emitEvent ingest (setCtx b { c with state := .nominal }) evtRecovered .low worst
    setCtx b { b.user.ctx with sourceMask := 0, taskMask := 0 }
  else if c.attempts ≥ fdirMaxAttempts then
    let c := { c with state := .safe, nSafeEntries := c.nSafeEntries + 1 }
    let b := emitEvent ingest (setCtx b c) evtSafeEnter .high worst
    if b.user.ctx.hooks.enterSafe then logCall b (.enterSafe b.user.ctx.sourceMask) else b
  else
    let c := { c with attempts := c.attempts + 1 }
    let b := setCtx b c
    let b := if c.hooks.recover then
      logCall b (.recover (actionForAttempt c.attempts) c.sourceMask) else b
    emitEvent ingest b evtRecoveryAction .info worst

/-- `fdir_step`: the new state, and what it leaves behind. -/
def fdirStep (ingest : Ingest) (b : Bus FdirMem) (worst : Health) (sources : U8) :
    FdirState × Bus FdirMem :=
  let raw := worst
  let b := match b.user.ctx.state with
    | .nominal => stepNominal ingest b worst sources
    | .recovering => stepRecovering ingest b worst sources
    | .safe => b
  let b := setCtx b { b.user.ctx with prevWorst := raw }
  (b.user.ctx.state, b)

/-- `fdir_exit_safe`. -/
def fdirExitSafe (ingest : Ingest) (b : Bus FdirMem) : ℤ × Bus FdirMem :=
  let c := b.user.ctx
  if c.state ≠ .safe then (0, b)
  else
    let c := { c with state := .nominal, attempts := 0, faultStreak := 0 }
    let b := emitEvent ingest (setCtx b c) evtSafeExit .info c.prevWorst
    (1, setCtx b { b.user.ctx with sourceMask := 0, taskMask := 0 })

/-- `fdir_cycle`: the new state, the spacecraft state with its mode set, the
watchdog after its check, and the router. -/
def fdirCycle (ingest : Ingest) (b : Bus FdirMem) (s : SpacecraftState) (w : Watchdog) :
    FdirState × SpacecraftState × Watchdog × Bus FdirMem :=
  let (wd, stalled, w) := watchdogCheck w
  let b := setCtx b { b.user.ctx with stalledNow := stalled }
  let (worst, sources) := fdirEvaluate s wd
  let (st, b) := fdirStep ingest b worst sources
  (st, { s with mode := if st = .safe then .safe else .nominal }, w, b)

/-- `fdir_attach_uplink`. -/
def fdirAttachUplink {υ : Type} (b : Bus υ) : Bus υ :=
  { b with obdh := { b.obdh with uplink := { b.obdh.uplink with exitSafeHook := true } } }

/-- The payload of `fdir_build_hk`. -/
def fdirHkPayload (c : FdirCtx) : Bytes :=
  [c.state.code, c.attempts, BitVec.ofNat 8 c.prevWorst.code, c.sourceMask, hi8 c.nFaults,
    lo8 c.nFaults, hi8 c.nSafeEntries, lo8 c.nSafeEntries, hi8 c.nFiltered, lo8 c.nFiltered]

/-- `fdir_build_hk`. -/
def fdirBuildHk (b : Bus FdirMem) (cap : Option Size) : Option Bytes × Bus FdirMem :=
  let c := b.user.ctx
  match obdhPackTm cap apidFdirHk c.hkSeq pusServiceHousekeeping pusHkSubtype (fdirHkPayload c) with
  | none => (none, b)
  | some pkt => (some pkt, setCtx b { c with hkSeq := (c.hkSeq + 1) % 16384 })

/-! ## One event -/

/-- The packet of an event. -/
def eventPacket (c : FdirCtx) (evt : U16) (sev : FdirSev) (worst : Health) : Bytes :=
  tmPacket apidEvent (c.evSeq &&& 0x3FFF#16) pusServiceEvent (fdirEventSubtype sev)
    (eventPayload c evt worst)

/-- FDIR's memory after it has handed an event to the router. -/
def FdirMem.emit (m : FdirMem) (evt : U16) (sev : FdirSev) (worst : Health) : FdirMem :=
  { m with
    ctx := { m.ctx with evSeq := (m.ctx.evSeq + 1) % 16384, nEvents := m.ctx.nEvents + 1 }
    events := m.events ++ [eventPacket m.ctx evt sev worst] }

/-- An entry point that treats telemetry as the router does. -/
def TmIngest (ingest : Ingest) : Prop :=
  ∀ (b : Bus FdirMem) (pkt : Option Bytes), IsTm pkt → ingest b pkt = obdhIngestTm b pkt

theorem isTm_eventPacket (c : FdirCtx) (evt : U16) (sev : FdirSev) (worst : Health) :
    IsTm (some (eventPacket c evt sev worst)) := isTm_tmPacket _ _ _ _ _

/-- An event is consistent telemetry of the event class. -/
theorem tmClass_eventPacket (c : FdirCtx) (evt : U16) (sev : FdirSev) (worst : Health) :
    tmClass (eventPacket c evt sev worst) = some .ev := by
  have hc : Consistent (eventPacket c evt sev worst) := by
    refine ⟨?_, tmPacket_type _ _ _ _ _, ?_⟩
    · rw [eventPacket, length_tmPacket, ccsdsPriHdrLen]
      omega
    · refine tmPacket_dataLength _ _ _ _ ?_
      simp [eventPayload]
  have hapid : (ccsdsParsePrimary (eventPacket c evt sev worst)).apid = 0x066 := by
    rw [eventPacket, tmPacket_apid]
    decide
  rw [tmClass, if_neg (not_not.2 hc), if_pos hapid]

/-- The router never drops an event. -/
theorem obdhIngestTm_event_ne_drop (b : Bus FdirMem) (c : FdirCtx) (evt : U16) (sev : FdirSev)
    (worst : Health) : (obdhIngestTm b (some (eventPacket c evt sev worst))).1 ≠ .drop := by
  have hclass := tmClass_eventPacket c evt sev worst
  have hout := obdhIngestTm_outcome b (isTm_eventPacket c evt sev worst)
  generalize obdhIngestTm b (some (eventPacket c evt sev worst)) = r at hout ⊢
  cases hout with
  | malformed h => exact absurd (consistent_of_class hclass) (h _ rfl)
  | unknown p hp hc hnone | response p hp hc hnone =>
      rw [← Option.some.inj hp, hclass] at hnone
      cases hnone
  | downlink | store => exact ObdhDest.noConfusion

/-- An event always fits `MAX_PKT`. -/
theorem obdhPackTm_event (c : FdirCtx) (evt : U16) (sev : FdirSev) (worst : Health) :
    obdhPackTm (some (BitVec.ofNat 64 maxPkt)) apidEvent c.evSeq pusServiceEvent
      (fdirEventSubtype sev) (eventPayload c evt worst) =
      some (eventPacket c evt sev worst) := by
  have hlen : (eventPayload c evt worst).length = 7 := rfl
  apply obdhPackTm_eq_some
  · rw [hlen, BitVec.toNat_ofNat, maxPkt]
    omega
  · rw [hlen]
    omega

theorem emitEvent_eq {ingest : Ingest} (hi : TmIngest ingest) (b : Bus FdirMem) (evt : U16)
    (sev : FdirSev) (worst : Health) :
    emitEvent ingest b evt sev worst =
      (obdhIngestTm { b with user := b.user.emit evt sev worst }
        (some (eventPacket b.user.ctx evt sev worst))).2 := by
  set b' : Bus FdirMem := { b with user := b.user.emit evt sev worst } with hb'
  have hingest := hi b' _ (isTm_eventPacket b.user.ctx evt sev worst)
  have hkept := obdhIngestTm_event_ne_drop b' b.user.ctx evt sev worst
  have hemit : emitEvent ingest b evt sev worst =
      let r := ingest b' (some (eventPacket b.user.ctx evt sev worst))
      if r.1 = .drop then
        setCtx r.2 { r.2.user.ctx with nEventLost := r.2.user.ctx.nEventLost + 1 }
      else r.2 := by
    unfold emitEvent
    simp only [obdhPackTm_event]
    rfl
  simp only [hemit, hingest, hkept, if_false]

/-- **What an event does to FDIR's memory**, whatever the router does with it. -/
theorem emitEvent_user {ingest : Ingest} (hi : TmIngest ingest) (b : Bus FdirMem) (evt : U16)
    (sev : FdirSev) (worst : Health) :
    (emitEvent ingest b evt sev worst).user = b.user.emit evt sev worst := by
  rw [emitEvent_eq hi, (tmFrame_obdhIngestTm _ (isTm_eventPacket _ _ _ _)).user]

/-- One move of FDIR: within its own memory, where it neither logs nor loses an event,
or an event through the router. -/
inductive EventStep : Bus FdirMem → Bus FdirMem → Prop
  | own (b : Bus FdirMem) (u : FdirMem) (hevents : u.events = b.user.events)
      (hlost : u.ctx.nEventLost = b.user.ctx.nEventLost) : EventStep b { b with user := u }
  | emit (b : Bus FdirMem) (evt : U16) (sev : FdirSev) (worst : Health) :
      EventStep b (obdhIngestTm { b with user := b.user.emit evt sev worst }
        (some (eventPacket b.user.ctx evt sev worst))).2

theorem emitEvent_step {ingest : Ingest} (hi : TmIngest ingest) (b : Bus FdirMem) (evt : U16)
    (sev : FdirSev) (worst : Health) : EventStep b (emitEvent ingest b evt sev worst) := by
  rw [emitEvent_eq hi]
  exact .emit b evt sev worst

/-- To the router they are telemetry. -/
theorem telemetry_of_events {b b' : Bus FdirMem} (h : ReflTransGen EventStep b b') :
    ReflTransGen TelemetryStep b b' := by
  induction h with
  | refl => exact .refl
  | tail _ hstep ih =>
      refine ih.trans ?_
      cases hstep with
      | own u hevents hlost => exact .single (.user _ u)
      | emit evt sev worst =>
          rename_i c _
          refine .head (.user c (c.user.emit evt sev worst)) ?_
          exact .single (.ingest _ _ (isTm_eventPacket _ _ _ _))

/-! ## What a step can do -/

namespace FdirMem

/-- `m` with the context `c`. -/
def withCtx (m : FdirMem) (c : FdirCtx) : FdirMem := { m with ctx := c }

/-- `m` with `call` logged, if the hook is wired. -/
def callIf (m : FdirMem) (wired : Bool) (call : HookCall) : FdirMem :=
  { m with calls := m.calls ++ if wired then [call] else [] }

/-- `m` with the masks cleared. -/
def clearMasks (m : FdirMem) : FdirMem :=
  m.withCtx { m.ctx with sourceMask := 0, taskMask := 0 }

/-- `m` with `worst` as the previous verdict. -/
def saw (m : FdirMem) (worst : Health) : FdirMem := m.withCtx { m.ctx with prevWorst := worst }

variable (m : FdirMem) (c : FdirCtx) (evt : U16) (sev : FdirSev) (worst : Health)
  (wired : Bool) (call : HookCall)

@[simp] theorem withCtx_ctx : (m.withCtx c).ctx = c := rfl
@[simp] theorem withCtx_calls : (m.withCtx c).calls = m.calls := rfl
@[simp] theorem withCtx_events : (m.withCtx c).events = m.events := rfl

@[simp] theorem emit_ctx : (m.emit evt sev worst).ctx =
    { m.ctx with evSeq := (m.ctx.evSeq + 1) % 16384, nEvents := m.ctx.nEvents + 1 } := rfl
@[simp] theorem emit_calls : (m.emit evt sev worst).calls = m.calls := rfl
@[simp] theorem emit_events :
    (m.emit evt sev worst).events = m.events ++ [eventPacket m.ctx evt sev worst] := rfl

@[simp] theorem callIf_ctx : (m.callIf wired call).ctx = m.ctx := rfl
@[simp] theorem callIf_calls :
    (m.callIf wired call).calls = m.calls ++ if wired then [call] else [] := rfl
@[simp] theorem callIf_events : (m.callIf wired call).events = m.events := rfl

@[simp] theorem callIf_false : m.callIf false call = m := by
  have hnone : m.calls ++ [] = m.calls := List.append_nil _
  simp only [callIf, Bool.false_eq_true, if_false, hnone]

@[simp] theorem clearMasks_ctx :
    m.clearMasks.ctx = { m.ctx with sourceMask := 0, taskMask := 0 } := rfl
@[simp] theorem clearMasks_calls : m.clearMasks.calls = m.calls := rfl
@[simp] theorem clearMasks_events : m.clearMasks.events = m.events := rfl

@[simp] theorem saw_ctx : (m.saw worst).ctx = { m.ctx with prevWorst := worst } := rfl
@[simp] theorem saw_calls : (m.saw worst).calls = m.calls := rfl
@[simp] theorem saw_events : (m.saw worst).events = m.events := rfl

end FdirMem

/-- The streak after one more faulty reading. -/
def streakUp (n : U8) : U8 := if n < 255 then n + 1 else n

/-- The number of faulty readings a confirmation takes. -/
def FdirCtx.need (c : FdirCtx) : U8 := if c.confirmCycles = 0 then 1 else c.confirmCycles

/-- The context a confirmation latches. -/
def FdirCtx.confirm (c : FdirCtx) (sources : U8) : FdirCtx :=
  { c with
    faultStreak := 0
    nFaults := c.nFaults + 1
    attempts := 0
    sourceMask := sources
    taskMask := c.stalledNow
    state := .recovering }

/-- The context with a cycle's masks added. -/
def FdirCtx.merge (c : FdirCtx) (sources : U8) : FdirCtx :=
  { c with sourceMask := c.sourceMask ||| sources, taskMask := c.taskMask ||| c.stalledNow }

/-- The context of a cycle on which the attempts have run out. -/
def FdirCtx.enterSafe (c : FdirCtx) (sources : U8) : FdirCtx :=
  { c.merge sources with state := .safe, nSafeEntries := c.nSafeEntries + 1 }

/-- The context of a cycle on which one more action is tried. -/
def FdirCtx.attempt (c : FdirCtx) (sources : U8) : FdirCtx :=
  { c.merge sources with attempts := c.attempts + 1 }

/-- **Everything one `fdir_step` can do**, with the condition for each case. -/
inductive FdirTrans (m : FdirMem) (worst : Health) (sources : U8) : FdirMem → Prop
  | confirmed (hs : m.ctx.state = .nominal) (hw : worst = .fault)
      (hneed : m.ctx.need ≤ streakUp m.ctx.faultStreak) :
      FdirTrans m worst sources
        (((m.withCtx (m.ctx.confirm sources)).emit evtFault .medium worst).saw worst)
  | filtered (hs : m.ctx.state = .nominal) (hw : worst = .fault)
      (hneed : streakUp m.ctx.faultStreak < m.ctx.need) :
      FdirTrans m worst sources
        ((m.withCtx { m.ctx with
          faultStreak := streakUp m.ctx.faultStreak
          nFiltered := m.ctx.nFiltered + 1 }).saw worst)
  | warned (hs : m.ctx.state = .nominal) (hw : worst = .warn) (hprev : m.ctx.prevWorst = .ok) :
      FdirTrans m worst sources
        (((m.withCtx { m.ctx with faultStreak := 0 }).emit evtWarn .low worst).saw worst)
  | calm (hs : m.ctx.state = .nominal) (hw : worst ≠ .fault)
      (hprev : ¬(worst = .warn ∧ m.ctx.prevWorst = .ok)) :
      FdirTrans m worst sources ((m.withCtx { m.ctx with faultStreak := 0 }).saw worst)
  | recovered (hs : m.ctx.state = .recovering) (hw : worst = .ok) :
      FdirTrans m worst sources
        (((m.withCtx { m.ctx.merge sources with state := .nominal }).emit
          evtRecovered .low worst).clearMasks.saw worst)
  | safeEntered (hs : m.ctx.state = .recovering) (hw : worst ≠ .ok)
      (hattempts : fdirMaxAttempts ≤ m.ctx.attempts) :
      FdirTrans m worst sources
        ((((m.withCtx (m.ctx.enterSafe sources)).emit evtSafeEnter .high worst).callIf
          m.ctx.hooks.enterSafe (.enterSafe (m.ctx.merge sources).sourceMask)).saw worst)
  | attempted (hs : m.ctx.state = .recovering) (hw : worst ≠ .ok)
      (hattempts : m.ctx.attempts < fdirMaxAttempts) :
      FdirTrans m worst sources
        ((((m.withCtx (m.ctx.attempt sources)).callIf m.ctx.hooks.recover
          (.recover (actionForAttempt (m.ctx.attempts + 1)) (m.ctx.merge sources).sourceMask)).emit
            evtRecoveryAction .info worst).saw worst)
  | safe (hs : m.ctx.state = .safe) : FdirTrans m worst sources (m.saw worst)

@[simp] theorem setCtx_user (b : Bus FdirMem) (c : FdirCtx) :
    (setCtx b c).user = b.user.withCtx c := rfl

theorem logCall_user (b : Bus FdirMem) (wired : Bool) (call : HookCall) :
    (if wired then logCall b call else b).user = b.user.callIf wired call := by
  cases wired
  · exact (FdirMem.callIf_false b.user call).symm
  · rfl

theorem count_streak (c : FdirCtx) :
    (if c.faultStreak < 255 then { c with faultStreak := c.faultStreak + 1 } else c) =
      { c with faultStreak := streakUp c.faultStreak } := by
  unfold streakUp
  split <;> rfl

section Step

variable {ingest : Ingest} (hi : TmIngest ingest) (b : Bus FdirMem) (worst : Health) (sources : U8)
include hi

theorem stepNominal_trans (hs : b.user.ctx.state = .nominal) :
    FdirTrans b.user worst sources ((stepNominal ingest b worst sources).user.saw worst) := by
  unfold stepNominal
  by_cases hw : worst = .fault
  · simp only [hw, if_true, count_streak]
    by_cases hneed : b.user.ctx.need ≤ streakUp b.user.ctx.faultStreak
    · have hconfirm : FdirTrans b.user worst sources _ := .confirmed hs hw hneed
      unfold FdirCtx.need at hneed
      rw [if_pos (show _ ≥ _ from hneed), emitEvent_user hi]
      rwa [hw] at hconfirm
    · have hfilter : FdirTrans b.user worst sources _ := .filtered hs hw (BitVec.not_le.1 hneed)
      unfold FdirCtx.need at hneed
      rw [if_neg (show ¬_ ≥ _ from hneed)]
      rwa [hw] at hfilter
  · simp only [hw, if_false]
    by_cases hprev : worst = .warn ∧ b.user.ctx.prevWorst = .ok
    · rw [if_pos hprev, emitEvent_user hi]
      exact .warned hs hprev.1 hprev.2
    · rw [if_neg hprev]
      exact .calm hs hw hprev

theorem stepRecovering_trans (hs : b.user.ctx.state = .recovering) :
    FdirTrans b.user worst sources ((stepRecovering ingest b worst sources).user.saw worst) := by
  unfold stepRecovering
  by_cases hw : worst = .ok
  · simp only [hw, if_true, setCtx_user, emitEvent_user hi]
    exact .recovered hs rfl
  · simp only [hw, if_false]
    by_cases hattempts : fdirMaxAttempts ≤ b.user.ctx.attempts
    · rw [if_pos (show _ ≥ _ from hattempts), logCall_user, emitEvent_user hi]
      exact .safeEntered hs hw hattempts
    · rw [if_neg (show ¬_ ≥ _ from hattempts), emitEvent_user hi, logCall_user]
      exact .attempted hs hw (BitVec.not_le.1 hattempts)

/-- **A step is one of the listed transitions** of FDIR's memory. -/
theorem fdirStep_trans :
    FdirTrans b.user worst sources (fdirStep ingest b worst sources).2.user := by
  unfold fdirStep
  cases hs : b.user.ctx.state with
  | nominal => exact stepNominal_trans hi b worst sources hs
  | recovering => exact stepRecovering_trans hi b worst sources hs
  | safe => exact .safe hs

theorem fdirStep_events : ReflTransGen EventStep b (fdirStep ingest b worst sources).2 := by
  have hcase : ∀ b', ReflTransGen EventStep b b' → ∀ c,
      c.nEventLost = b'.user.ctx.nEventLost → ReflTransGen EventStep b (setCtx b' c) := by
    intro b' h c hlost
    exact h.tail (.own b' (b'.user.withCtx c) rfl hlost)
  have hemit : ∀ b', ReflTransGen EventStep b b' → ∀ evt sev,
      ReflTransGen EventStep b (emitEvent ingest b' evt sev worst) := by
    intro b' h evt sev
    exact h.tail (emitEvent_step hi b' evt sev worst)
  have hcall : ∀ b', ReflTransGen EventStep b b' → ∀ call,
      ReflTransGen EventStep b (logCall b' call) := by
    intro b' h call
    exact h.tail (.own b' _ rfl rfl)
  have hite : ∀ (p : Prop) [Decidable p] (b₁ b₂ : Bus FdirMem), ReflTransGen EventStep b b₁ →
      ReflTransGen EventStep b b₂ → ReflTransGen EventStep b (if p then b₁ else b₂) := by
    intro p _ b₁ b₂ h₁ h₂
    split
    · exact h₁
    · exact h₂
  have hevent : ∀ c evt sev, c.nEventLost = b.user.ctx.nEventLost →
      ReflTransGen EventStep b (emitEvent ingest (setCtx b c) evt sev worst) := by
    intro c evt sev hlost
    exact hemit _ (hcase b .refl c hlost) evt sev
  unfold fdirStep
  refine hcase _ ?_ _ rfl
  cases b.user.ctx.state with
  | nominal =>
      apply hite
      · apply hite
        · refine hevent _ _ _ ?_
          split <;> rfl
        · refine hcase _ .refl _ ?_
          split <;> rfl
      · apply hite
        · refine hevent _ _ _ ?_
          rfl
        · refine hcase _ .refl _ ?_
          rfl
  | recovering =>
      apply hite
      · refine hcase _ (hevent _ _ _ ?_) _ ?_
        · rfl
        · rfl
      · apply hite
        · refine hite _ _ _ (hcall _ (hevent _ _ _ ?_) _) (hevent _ _ _ ?_)
          · rfl
          · rfl
        · refine hemit _ (hite _ _ _ (hcall _ (hcase _ .refl _ ?_) _) (hcase _ .refl _ ?_)) _ _
          · rfl
          · rfl
  | safe => exact .refl

end Step

/-! ## Cycles and the ground exit -/

/-- FDIR's memory with the stalled tasks of this cycle in it. -/
def FdirMem.stall (m : FdirMem) (stalled : U8) : FdirMem :=
  m.withCtx { m.ctx with stalledNow := stalled }

/-- The router and FDIR after a cycle. -/
def cycleBus (ingest : Ingest) (b : Bus FdirMem) (s : SpacecraftState) (w : Watchdog) :
    Bus FdirMem := (fdirCycle ingest b s w).2.2.2

/-- A cycle is a step on what the watchdog and the monitors report. -/
theorem fdirCycle_trans {ingest : Ingest} (hi : TmIngest ingest) (b : Bus FdirMem)
    (s : SpacecraftState) (w : Watchdog) :
    FdirTrans (b.user.stall (watchdogCheck w).2.1) (fdirEvaluate s (watchdogCheck w).1).1
      (fdirEvaluate s (watchdogCheck w).1).2 (cycleBus ingest b s w).user :=
  fdirStep_trans hi (setCtx b _) _ _

/-- A cycle sets the mode by the state it leaves, and the other fields as they were. -/
theorem fdirCycle_mode (ingest : Ingest) (b : Bus FdirMem) (s : SpacecraftState) (w : Watchdog) :
    (fdirCycle ingest b s w).2.1 =
      { s with mode :=
        if (cycleBus ingest b s w).user.ctx.state = .safe then .safe else .nominal } := rfl

theorem fdirCycle_events {ingest : Ingest} (hi : TmIngest ingest) (b : Bus FdirMem)
    (s : SpacecraftState) (w : Watchdog) : ReflTransGen EventStep b (cycleBus ingest b s w) :=
  .head (.own b (b.user.stall (watchdogCheck w).2.1) rfl rfl)
    (fdirStep_events hi (setCtx b _) _ _)

theorem fdirCycle_steps {ingest : Ingest} (hi : TmIngest ingest) (b : Bus FdirMem)
    (s : SpacecraftState) (w : Watchdog) :
    ReflTransGen TelemetryStep b (cycleBus ingest b s w) :=
  telemetry_of_events (fdirCycle_events hi b s w)

/-- The context the ground exit leaves, before its event. -/
def FdirCtx.exitSafe (c : FdirCtx) : FdirCtx :=
  { c with state := .nominal, attempts := 0, faultStreak := 0 }

/-- FDIR's memory after a granted ground exit. -/
def FdirMem.exitSafe (m : FdirMem) : FdirMem :=
  ((m.withCtx m.ctx.exitSafe).emit evtSafeExit .info m.ctx.prevWorst).clearMasks

/-- Outside SAFE the ground exit is refused and changes nothing. -/
theorem fdirExitSafe_refused (ingest : Ingest) {b : Bus FdirMem} (hs : b.user.ctx.state ≠ .safe) :
    fdirExitSafe ingest b = (0, b) := if_pos hs

/-- **The ground exit from SAFE.** -/
theorem fdirExitSafe_granted {ingest : Ingest} (hi : TmIngest ingest) {b : Bus FdirMem}
    (hs : b.user.ctx.state = .safe) :
    (fdirExitSafe ingest b).1 = 1 ∧ (fdirExitSafe ingest b).2.user = b.user.exitSafe := by
  unfold fdirExitSafe
  simp only [hs, ne_eq, not_true_eq_false, if_false]
  refine ⟨trivial, ?_⟩
  rw [setCtx_user, emitEvent_user hi]
  rfl

theorem fdirExitSafe_events {ingest : Ingest} (hi : TmIngest ingest) (b : Bus FdirMem) :
    ReflTransGen EventStep b (fdirExitSafe ingest b).2 := by
  by_cases hs : b.user.ctx.state = .safe
  · simp only [fdirExitSafe, hs, ne_eq, not_true_eq_false, if_false]
    refine .head (.own b (b.user.withCtx b.user.ctx.exitSafe) rfl rfl) ?_
    exact .tail (.single (emitEvent_step hi _ _ _ _)) (.own _ _ rfl rfl)
  · rw [fdirExitSafe_refused ingest hs]

/-- Any entry point that treats telemetry as the router does will do for the ground
exit. -/
theorem fdirExitSafe_congr {ingest ingest' : Ingest} (hi : TmIngest ingest)
    (hi' : TmIngest ingest') : fdirExitSafe ingest = fdirExitSafe ingest' := by
  funext b
  simp only [fdirExitSafe, emitEvent_eq hi, emitEvent_eq hi']

/-! ## FDIR behind the router -/

/-- The exit-safe hook that `fdir_attach_uplink` installs. -/
def fdirHook : ExitSafeHook FdirMem where
  call := fdirExitSafe obdhIngestTm
  telemetry b := telemetry_of_events (fdirExitSafe_events (fun _ _ _ => rfl) b)

/-- The router with FDIR behind it. -/
def fdirIngest : Ingest := obdhIngest fdirHook

theorem tmIngest_fdirIngest : TmIngest fdirIngest := fun b _ h => obdhIngest_of_tm fdirHook b h

/-- **The recursion of the source**: the hook emits its event through the router
it is called from. -/
theorem fdirHook_call (b : Bus FdirMem) : fdirHook.call b = fdirExitSafe fdirIngest b :=
  congrFun (fdirExitSafe_congr (fun _ _ _ => rfl) tmIngest_fdirIngest) b

end Fdir
end SpacecraftFsw
