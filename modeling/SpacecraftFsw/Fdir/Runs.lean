import SpacecraftFsw.Fdir.Machine

/-!
# Runs of the state machine

FDIR driven through its two entry points, and its events as the ground reads
them.

* `readEvent`, `readEvent_eventPacket` — the fields of a Service 5 report, out of
  its bytes.
* `FdirOp`, `fdirRun` — any sequence of health steps and ground exits, from
  `fdir_init`.
* `OpTrans`, `fdirRun_induct` — a property of FDIR's memory that every transition
  keeps holds after every run, whatever the router does meanwhile.
-/

namespace SpacecraftFsw
namespace Fdir

open Tmtc Obdh

/-! ## Reading events -/

/-- A Service 5 report. -/
structure Event where
  seqCount : U16
  service : U8
  subtype : U8
  id : U16
  state : U8
  attempts : U8
  worst : U8
  sources : U8
  tasks : U8
  deriving DecidableEq, Repr

/-- The report in a packet. -/
def readEvent (pkt : Bytes) : Event where
  seqCount := (ccsdsParsePrimary pkt).seqCount
  service := octet pkt 7
  subtype := octet pkt 8
  id := be16 (octet pkt 11) (octet pkt 12)
  state := octet pkt 13
  attempts := octet pkt 14
  worst := octet pkt 15
  sources := octet pkt 16
  tasks := octet pkt 17

/-- The report FDIR makes of its context. -/
def FdirCtx.event (c : FdirCtx) (evt : U16) (sev : FdirSev) (worst : Health) : Event where
  seqCount := c.evSeq &&& 0x3FFF#16
  service := pusServiceEvent
  subtype := fdirEventSubtype sev
  id := evt
  state := c.state.code
  attempts := c.attempts
  worst := BitVec.ofNat 8 worst.code
  sources := c.sourceMask
  tasks := c.taskMask

/-- **What FDIR puts into a packet is what the ground reads out of it.** -/
@[simp] theorem readEvent_eventPacket (c : FdirCtx) (evt : U16) (sev : FdirSev) (worst : Health) :
    readEvent (eventPacket c evt sev worst) = c.event evt sev worst := by
  have hseq : (ccsdsParsePrimary (eventPacket c evt sev worst)).seqCount =
      c.evSeq &&& 0x3FFF#16 := by
    rw [eventPacket, tmPacket_seqCount, seqMask_idem]
  have hid : be16 (octet (eventPacket c evt sev worst) 11) (octet (eventPacket c evt sev worst) 12)
      = evt := be16_hi8_lo8 evt
  rw [readEvent, hseq, hid]
  rfl

/-- The reports FDIR has made so far. -/
def FdirMem.reports (m : FdirMem) : List Event := m.events.map readEvent

namespace FdirMem

variable (m : FdirMem) (c : FdirCtx) (evt : U16) (sev : FdirSev) (worst : Health)
  (wired : Bool) (call : HookCall)

@[simp] theorem withCtx_reports : (m.withCtx c).reports = m.reports := rfl
@[simp] theorem clearMasks_reports : m.clearMasks.reports = m.reports := rfl
@[simp] theorem saw_reports : (m.saw worst).reports = m.reports := rfl

@[simp] theorem callIf_reports : (m.callIf wired call).reports = m.reports := rfl

@[simp] theorem emit_reports :
    (m.emit evt sev worst).reports = m.reports ++ [m.ctx.event evt sev worst] := by
  rw [reports, emit_events, List.map_append, List.map_singleton, readEvent_eventPacket, reports]

end FdirMem

/-! ## Runs -/

/-- A call of one of FDIR's two entry points. -/
inductive FdirOp
  | step (worst : Health) (sources : U8)
  | exitSafe
  deriving DecidableEq, Repr

/-- The router and FDIR after one call. -/
def fdirOp (b : Bus FdirMem) : FdirOp → Bus FdirMem
  | .step worst sources => (fdirStep fdirIngest b worst sources).2
  | .exitSafe => (fdirExitSafe fdirIngest b).2

/-- FDIR after `fdir_init`, with `confirm_cycles` set. -/
def fdirStart (hooks : Option FdirHooks) (confirmCycles : U8) : FdirMem :=
  let m := fdirInit hooks
  m.withCtx { m.ctx with confirmCycles := confirmCycles }

/-- FDIR initialised behind the router of `b`, after a sequence of calls. -/
def fdirRun (b : Bus FdirMem) (hooks : Option FdirHooks) (confirmCycles : U8)
    (ops : List FdirOp) : Bus FdirMem :=
  ops.foldl fdirOp { b with user := fdirStart hooks confirmCycles }

theorem fdirRun_append (b : Bus FdirMem) (hooks : Option FdirHooks) (confirmCycles : U8)
    (ops : List FdirOp) (op : FdirOp) :
    fdirRun b hooks confirmCycles (ops ++ [op]) =
      fdirOp (fdirRun b hooks confirmCycles ops) op := by
  rw [fdirRun, List.foldl_append]
  rfl

/-- Everything one call can do to FDIR's memory. -/
inductive OpTrans (m : FdirMem) : FdirOp → FdirMem → Prop
  | step (worst : Health) (sources : U8) (m' : FdirMem) (h : FdirTrans m worst sources m') :
      OpTrans m (.step worst sources) m'
  | refused (hs : m.ctx.state ≠ .safe) : OpTrans m .exitSafe m
  | granted (hs : m.ctx.state = .safe) : OpTrans m .exitSafe m.exitSafe

theorem OpTrans.of_step {m m' : FdirMem} {worst : Health} {sources : U8}
    (h : OpTrans m (.step worst sources) m') : FdirTrans m worst sources m' := by
  cases h with
  | step _ _ _ h => exact h

theorem OpTrans.of_exitSafe {m m' : FdirMem} (h : OpTrans m .exitSafe m') :
    (m.ctx.state ≠ .safe ∧ m' = m) ∨ (m.ctx.state = .safe ∧ m' = m.exitSafe) := by
  cases h with
  | refused hs => exact .inl ⟨hs, rfl⟩
  | granted hs => exact .inr ⟨hs, rfl⟩

theorem fdirOp_trans (b : Bus FdirMem) (op : FdirOp) : OpTrans b.user op (fdirOp b op).user := by
  cases op with
  | step worst sources => exact .step _ _ _ (fdirStep_trans tmIngest_fdirIngest b worst sources)
  | exitSafe =>
      by_cases hs : b.user.ctx.state = .safe
      · rw [fdirOp, (fdirExitSafe_granted tmIngest_fdirIngest hs).2]
        exact .granted hs
      · rw [fdirOp, fdirExitSafe_refused fdirIngest hs]
        exact .refused hs

/-- The last call of a run, as a transition. -/
theorem fdirRun_trans (b : Bus FdirMem) (hooks : Option FdirHooks) (confirmCycles : U8)
    (ops : List FdirOp) (op : FdirOp) :
    OpTrans (fdirRun b hooks confirmCycles ops).user op
      (fdirRun b hooks confirmCycles (ops ++ [op])).user := by
  rw [fdirRun_append]
  exact fdirOp_trans _ op

/-- **Induction over runs**: what holds of FDIR after its initialisation and is
kept by every transition holds after every sequence of calls. -/
theorem fdirRun_induct {P : FdirMem → Prop} (b : Bus FdirMem) (hooks : Option FdirHooks)
    (confirmCycles : U8) (hinit : P (fdirStart hooks confirmCycles))
    (hstep : ∀ m op m', P m → OpTrans m op m' → P m') (ops : List FdirOp) :
    P (fdirRun b hooks confirmCycles ops).user := by
  induction ops using List.reverseRecOn with
  | nil => exact hinit
  | append_singleton ops op ih => exact hstep _ op _ ih (fdirRun_trans b hooks confirmCycles ops op)

end Fdir
end SpacecraftFsw
