import SpacecraftFsw.Flight
import SpacecraftFsw.Obdh.Bounds

/-!
# Accesses of the whole system

FDIR and the entry points of the system over the router of `Obdh.Bounds`, so that a
run of the system fails at the first access out of range.  The watchdog and the
housekeeping builders read no packet and no store slot, and are taken as they are.

* `fdirExitSafe?_eq`, `fdirCycle?_eq` — FDIR's own functions stay in range when the
  router does.
* `fdirIngest?_eq` — the router with FDIR behind it.
* `accesses_in_range` — no run of the system makes an access out of range.
-/

namespace SpacecraftFsw
namespace Flight

open Tmtc Obdh Fdir

/-- The router's entry point with its accesses checked. -/
abbrev Ingest? := Bus FdirMem → Option Bytes → Option (ObdhDest × Bus FdirMem)

/-! ## FDIR -/

/-- `emit_event`; the packet is built in a buffer of `MAX_PKT` octets. -/
def emitEvent? (ingest : Ingest?) (b : Bus FdirMem) (evt : U16) (sev : FdirSev) (worst : Health) :
    Option (Bus FdirMem) :=
  let c := b.user.ctx
  match obdhPackTm (some (BitVec.ofNat 64 maxPkt)) apidEvent c.evSeq pusServiceEvent
      (fdirEventSubtype sev) (eventPayload c evt worst) with
  | none => some (setCtx b { c with nEventLost := c.nEventLost + 1 })
  | some pkt => do
    if pkt.length > maxPkt then none
    else
      let c := { c with evSeq := (c.evSeq + 1) % 16384, nEvents := c.nEvents + 1 }
      let b := { b with user := { b.user with ctx := c, events := b.user.events ++ [pkt] } }
      let (dest, b) ← ingest b (some pkt)
      if dest = .drop then
        return setCtx b { b.user.ctx with nEventLost := b.user.ctx.nEventLost + 1 }
      else return b

/-- The `FDIR_NOMINAL` case of `fdir_step`. -/
def stepNominal? (ingest : Ingest?) (b : Bus FdirMem) (worst : Health) (sources : U8) :
    Option (Bus FdirMem) :=
  let c := b.user.ctx
  if worst = .fault then
    let c := if c.faultStreak < 255 then { c with faultStreak := c.faultStreak + 1 } else c
    let need := if c.confirmCycles = 0 then 1 else c.confirmCycles
    if c.faultStreak ≥ need then
      let c := { c with
        faultStreak := 0
        nFaults := c.nFaults + 1
        attempts := 0
        sourceMask := sources
        taskMask := c.stalledNow
        state := .recovering }
      emitEvent? ingest (setCtx b c) evtFault .medium worst
    else some (setCtx b { c with nFiltered := c.nFiltered + 1 })
  else
    let c := { c with faultStreak := 0 }
    if worst = .warn ∧ c.prevWorst = .ok then emitEvent? ingest (setCtx b c) evtWarn .low worst
    else some (setCtx b c)

/-- The `FDIR_RECOVERING` case of `fdir_step`. -/
def stepRecovering? (ingest : Ingest?) (b : Bus FdirMem) (worst : Health) (sources : U8) :
    Option (Bus FdirMem) :=
  let c := b.user.ctx
  let c := { c with
    sourceMask := c.sourceMask ||| sources
    taskMask := c.taskMask ||| c.stalledNow }
  if worst = .ok then do
    let b ← emitEvent? ingest (setCtx b { c with state := .nominal }) evtRecovered .low worst
    return setCtx b { b.user.ctx with sourceMask := 0, taskMask := 0 }
  else if c.attempts ≥ fdirMaxAttempts then do
    let c := { c with state := .safe, nSafeEntries := c.nSafeEntries + 1 }
    let b ← emitEvent? ingest (setCtx b c) evtSafeEnter .high worst
    return if b.user.ctx.hooks.enterSafe then logCall b (.enterSafe b.user.ctx.sourceMask) else b
  else
    let c := { c with attempts := c.attempts + 1 }
    let b := setCtx b c
    let b := if c.hooks.recover then
      logCall b (.recover (actionForAttempt c.attempts) c.sourceMask) else b
    emitEvent? ingest b evtRecoveryAction .info worst

/-- `fdir_step`. -/
def fdirStep? (ingest : Ingest?) (b : Bus FdirMem) (worst : Health) (sources : U8) :
    Option (FdirState × Bus FdirMem) := do
  let raw := worst
  let b ← match b.user.ctx.state with
    | .nominal => stepNominal? ingest b worst sources
    | .recovering => stepRecovering? ingest b worst sources
    | .safe => some b
  let b := setCtx b { b.user.ctx with prevWorst := raw }
  return (b.user.ctx.state, b)

/-- `fdir_exit_safe`. -/
def fdirExitSafe? (ingest : Ingest?) (b : Bus FdirMem) : Option (ℤ × Bus FdirMem) :=
  let c := b.user.ctx
  if c.state ≠ .safe then some (0, b)
  else do
    let c := { c with state := .nominal, attempts := 0, faultStreak := 0 }
    let b ← emitEvent? ingest (setCtx b c) evtSafeExit .info c.prevWorst
    return (1, setCtx b { b.user.ctx with sourceMask := 0, taskMask := 0 })

/-- `fdir_cycle`. -/
def fdirCycle? (ingest : Ingest?) (b : Bus FdirMem) (s : SpacecraftState) (w : Watchdog) :
    Option (FdirState × SpacecraftState × Watchdog × Bus FdirMem) := do
  let (wd, stalled, w) := watchdogCheck w
  let b := setCtx b { b.user.ctx with stalledNow := stalled }
  let (worst, sources) := fdirEvaluate s wd
  let (st, b) ← fdirStep? ingest b worst sources
  return (st, { s with mode := if st = .safe then .safe else .nominal }, w, b)

section Fdir

variable {ingest? : Ingest?} {ingest : Ingest}
  (hi : ∀ b pkt, IsTm pkt → ingest? b pkt = some (ingest b pkt))

include hi

/-- **An event stays in range**: it fits its buffer, and the router takes it. -/
theorem emitEvent?_eq (b : Bus FdirMem) (evt : U16) (sev : FdirSev) (worst : Health) :
    emitEvent? ingest? b evt sev worst = some (emitEvent ingest b evt sev worst) := by
  have hfit : ¬(eventPacket b.user.ctx evt sev worst).length > maxPkt := by
    have hlen : (eventPayload b.user.ctx evt worst).length = 7 := rfl
    rw [eventPacket, length_tmPacket, hlen, maxPkt]
    omega
  have htm := isTm_eventPacket b.user.ctx evt sev worst
  unfold emitEvent? emitEvent
  simp only [obdhPackTm_event, hfit, if_false]
  rw [hi _ _ htm, apply_ite some]
  rfl

theorem stepNominal?_eq (b : Bus FdirMem) (worst : Health) (sources : U8) :
    stepNominal? ingest? b worst sources = some (stepNominal ingest b worst sources) := by
  simp only [stepNominal?, stepNominal, emitEvent?_eq hi, apply_ite some]

theorem stepRecovering?_eq (b : Bus FdirMem) (worst : Health) (sources : U8) :
    stepRecovering? ingest? b worst sources = some (stepRecovering ingest b worst sources) := by
  simp only [stepRecovering?, stepRecovering, emitEvent?_eq hi, Option.bind_eq_bind,
    Option.bind_some, Option.pure_def, apply_ite some]

theorem fdirStep?_eq (b : Bus FdirMem) (worst : Health) (sources : U8) :
    fdirStep? ingest? b worst sources = some (fdirStep ingest b worst sources) := by
  unfold fdirStep? fdirStep
  rw [stepNominal?_eq hi, stepRecovering?_eq hi]
  cases b.user.ctx.state <;> rfl

theorem fdirExitSafe?_eq (b : Bus FdirMem) :
    fdirExitSafe? ingest? b = some (fdirExitSafe ingest b) := by
  simp only [fdirExitSafe?, fdirExitSafe, emitEvent?_eq hi, Option.bind_eq_bind, Option.bind_some,
    Option.pure_def, apply_ite some]

theorem fdirCycle?_eq (b : Bus FdirMem) (s : SpacecraftState) (w : Watchdog) :
    fdirCycle? ingest? b s w = some (fdirCycle ingest b s w) := by
  simp only [fdirCycle?, fdirCycle, fdirStep?_eq hi, Option.bind_eq_bind, Option.bind_some]
  rfl

end Fdir

/-! ## The system -/

/-- `obdh_ingest`, with FDIR behind the exit-safe hook. -/
def fdirIngest? : Ingest? := obdhIngestBody? (fdirExitSafe? obdhIngestTm?) obdhIngestTm?

theorem fdirHook?_eq (b : Bus FdirMem) :
    fdirExitSafe? obdhIngestTm? b = some (fdirHook.call b) :=
  fdirExitSafe?_eq (fun b _ h => obdhIngestTm?_eq h b) b

/-- **An ingest stays in range**, whatever the bytes and the state of the system. -/
theorem fdirIngest?_eq (b : Bus FdirMem) (pkt : Option Bytes) :
    fdirIngest? b pkt = some (fdirIngest b pkt) :=
  obdhIngestBody?_eq fdirHook?_eq b pkt

/-- The system after one operation. -/
def vehicleOp? (v : Vehicle) : VehicleOp → Option Vehicle
  | .ingest pkt => (fdirIngest? v.bus pkt).map fun r => { v with bus := r.2 }
  | .setContact inContact => (obdhSetContact? v.bus inContact).map fun b => { v with bus := b }
  | .cycle readings =>
    (fdirCycle? fdirIngest? v.bus readings v.watchdog).map fun r =>
      { bus := r.2.2.2, watchdog := r.2.2.1, spacecraft := r.2.1 }
  | op => some (vehicleOp v op)

/-- The system after a sequence of operations. -/
def vehicleRun? (v : Vehicle) (ops : List VehicleOp) : Option Vehicle := ops.foldlM vehicleOp? v

theorem vehicleOp?_eq (v : Vehicle) (op : VehicleOp) : vehicleOp? v op = some (vehicleOp v op) := by
  cases op with
  | ingest pkt => rw [vehicleOp?, fdirIngest?_eq]; rfl
  | setContact inContact => rw [vehicleOp?, obdhSetContact?_eq]; rfl
  | cycle readings => rw [vehicleOp?, fdirCycle?_eq fun b pkt _ => fdirIngest?_eq b pkt]; rfl
  | tick | obdhHk | fdirHk | kick => rfl

/-- **No access out of range.**  With every access checked (a packet octet below the
length, a report octet below 16 of one of 4 slots, a store slot below 16 and at most
64 octets copied to or from it, the 64 octets of the buffer of `drain`, the command
entry looked up for execution), no run of the system fails, and in every state it
reaches neither do the parser, the command path, the router and a change of contact,
for any bytes of any length and for a null buffer. -/
theorem accesses_in_range (downlink inContact : Bool) (hooks : Option FdirHooks)
    (confirmCycles : U8) (w : Watchdog) (s : SpacecraftState) (ops : List VehicleOp) :
    let v₀ := vehicleInit downlink inContact hooks confirmCycles w s
    let v := vehicleRun v₀ ops
    (uplinkMaxTmPerTc = 4 ∧ uplinkMaxTmLen = 16 ∧ storeCap = 16 ∧ maxPkt = 64) ∧
    vehicleRun? v₀ ops = some v ∧
    (∀ buf, tcParse? buf = some (tcParse buf)) ∧
    (∀ out buf,
      uplinkHandleTc? (busHook? (fdirExitSafe? obdhIngestTm?)) ⟨v.bus.obdh.uplink, out, v.bus⟩ buf =
        some (uplinkHandleTc (busHook fdirHook.call) ⟨v.bus.obdh.uplink, out, v.bus⟩ buf)) ∧
    (∀ pkt, fdirIngest? v.bus pkt = some (fdirIngest v.bus pkt)) ∧
    ∀ contact, obdhSetContact? v.bus contact = some (obdhSetContact v.bus contact) := by
  intro v₀ v
  refine ⟨⟨rfl, rfl, rfl, rfl⟩, ?_, tcParse?_eq, ?_, fdirIngest?_eq v.bus,
    obdhSetContact?_eq v.bus⟩
  · exact Access.foldlM_eq (fun op _ v => vehicleOp?_eq v op) v₀
  · intro out buf
    exact uplinkHandleTc?_eq (fun _ b => fdirHook?_eq _) _ buf

end Flight
end SpacecraftFsw
