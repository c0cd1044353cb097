import SpacecraftFsw.Obdh.Congruence
import SpacecraftFsw.Fdir.Machine

/-!
# No feedback from the router into FDIR

What FDIR does depends on its own memory and on the verdicts it is given, and not
on what the router does with its events.  Stated as a congruence: a relation
between two routers that telemetry keeps is kept by every call of FDIR, and so by
every ingest of the router with FDIR behind it.
-/

namespace SpacecraftFsw
namespace Fdir

open Tmtc Obdh

section Calls

variable {R : Bus FdirMem → Bus FdirMem → Prop} (h : Congruence R)
include h

theorem related_setCtx {b c : Bus FdirMem} (hbc : R b c) (x : FdirCtx) :
    R (setCtx b x) (setCtx c x) := by
  rw [setCtx, setCtx, ← h.user hbc]
  exact h.setUser hbc _

/-- A change to the context that depends on the context only. -/
theorem related_modify {b c : Bus FdirMem} (hbc : R b c) (f : FdirCtx → FdirCtx) :
    R (setCtx b (f b.user.ctx)) (setCtx c (f c.user.ctx)) := by
  rw [← h.user hbc]
  exact related_setCtx h hbc _

theorem related_logCall {b c : Bus FdirMem} (hbc : R b c) (call : HookCall) :
    R (logCall b call) (logCall c call) := by
  rw [logCall, logCall, ← h.user hbc]
  exact h.setUser hbc _

variable {ingest : Ingest} (hi : TmIngest ingest)
include hi

theorem related_emitEvent {b c : Bus FdirMem} (hbc : R b c) (evt : U16) (sev : FdirSev)
    (worst : Health) : R (emitEvent ingest b evt sev worst) (emitEvent ingest c evt sev worst) := by
  rw [emitEvent_eq hi, emitEvent_eq hi, ← h.user hbc]
  exact h.telemetry (h.setUser hbc _) (isTm_eventPacket _ _ _ _)

/-- A step takes the same branch on both sides. -/
theorem related_fdirStep {b c : Bus FdirMem} (hbc : R b c) (worst : Health) (sources : U8) :
    R (fdirStep ingest b worst sources).2 (fdirStep ingest c worst sources).2 := by
  have hite : ∀ (p : Prop) [Decidable p] {b₁ b₂ c₁ c₂ : Bus FdirMem}, R b₁ c₁ → R b₂ c₂ →
      R (if p then b₁ else b₂) (if p then c₁ else c₂) := by
    intro p _ b₁ b₂ c₁ c₂ h₁ h₂
    split
    · exact h₁
    · exact h₂
  have hevent : ∀ x evt sev, R (emitEvent ingest (setCtx b x) evt sev worst)
      (emitEvent ingest (setCtx c x) evt sev worst) := by
    intro x evt sev
    exact related_emitEvent h hi (related_setCtx h hbc x) evt sev worst
  have hnominal : R (stepNominal ingest b worst sources) (stepNominal ingest c worst sources) := by
    unfold stepNominal
    rw [← h.user hbc]
    apply hite
    · exact hite _ (hevent _ _ _) (related_setCtx h hbc _)
    · exact hite _ (hevent _ _ _) (related_setCtx h hbc _)
  have hrecovering :
      R (stepRecovering ingest b worst sources) (stepRecovering ingest c worst sources) := by
    unfold stepRecovering
    rw [← h.user hbc]
    apply hite
    · exact related_modify h (hevent _ _ _) fun x => { x with sourceMask := 0, taskMask := 0 }
    · apply hite
      · have hsent := hevent { b.user.ctx with
          sourceMask := b.user.ctx.sourceMask ||| sources
          taskMask := b.user.ctx.taskMask ||| b.user.ctx.stalledNow
          state := .safe
          nSafeEntries := b.user.ctx.nSafeEntries + 1 } evtSafeEnter .high
        dsimp only
        rw [← h.user hsent]
        exact hite _ (related_logCall h hsent _) hsent
      · refine related_emitEvent h hi (hite _ ?_ ?_) _ _ _
        · exact related_logCall h (related_setCtx h hbc _) _
        · exact related_setCtx h hbc _
  unfold fdirStep
  rw [← h.user hbc]
  cases b.user.ctx.state with
  | nominal => exact related_modify h hnominal fun x => { x with prevWorst := worst }
  | recovering => exact related_modify h hrecovering fun x => { x with prevWorst := worst }
  | safe => exact related_modify h hbc fun x => { x with prevWorst := worst }

/-- So does the ground exit, and it answers the same. -/
theorem related_fdirExitSafe : RelatedHook R (fdirExitSafe ingest) := by
  intro b c hbc
  by_cases hs : b.user.ctx.state = .safe
  · have hsent := related_emitEvent h hi (related_setCtx h hbc b.user.ctx.exitSafe)
      evtSafeExit .info b.user.ctx.prevWorst
    unfold fdirExitSafe
    rw [← h.user hbc]
    simp only [hs, ne_eq, not_true_eq_false, if_false]
    exact ⟨trivial, related_modify h hsent fun x => { x with sourceMask := 0, taskMask := 0 }⟩
  · have hs' : c.user.ctx.state ≠ .safe := by
      rw [← h.user hbc]
      exact hs
    rw [fdirExitSafe_refused ingest hs, fdirExitSafe_refused ingest hs']
    exact ⟨rfl, hbc⟩

/-- **A cycle keeps the relation.** -/
theorem related_cycleBus {b c : Bus FdirMem} (hbc : R b c) (s : SpacecraftState) (w : Watchdog) :
    R (cycleBus ingest b s w) (cycleBus ingest c s w) := by
  have hstall := related_setCtx h hbc { b.user.ctx with stalledNow := (watchdogCheck w).2.1 }
  unfold cycleBus fdirCycle
  dsimp only
  rw [← h.user hbc]
  exact related_fdirStep h hi hstall _ _

end Calls

/-- **An ingest of the router with FDIR behind it keeps the relation.** -/
theorem related_fdirIngest {R : Bus FdirMem → Bus FdirMem → Prop} (h : Congruence R)
    {b c : Bus FdirMem} (hbc : R b c) (pkt : Option Bytes) :
    R (fdirIngest b pkt).2 (fdirIngest c pkt).2 :=
  h.ingest (related_fdirExitSafe h fun _ _ _ => rfl) hbc pkt

end Fdir
end SpacecraftFsw
