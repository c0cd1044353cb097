import SpacecraftFsw.Rtos.Ending
import SpacecraftFsw.Rtos.Modes

/-!
# Which schedules lose frames

Whether a frame is dropped, and whether the program comes to its end, as a property of
the schedule alone: how the turns of the sampler and of the telemetry task are mixed.
What the tasks sample plays no part in it.

* `Pipeline.Inv.finished_iff` — the two tasks are done once all is sent and nothing lost.
* `Ipc.progress_step` — the four tasks, where a frame takes the sampler eight turns.
* `schedule_decides` — the results for both programs.
-/

namespace SpacecraftFsw
namespace Rtos

open Backlog

/-! ## The two tasks -/

/-- Finished is everything sent, nothing lost and nothing waiting. -/
theorem Pipeline.Inv.finished_iff {w : World} {total : ℕ} {p : Pipeline} (h : p.Inv w total)
    (htotal : 0 < total) : p.channel.Finished total ↔
      p.channel.dropped = [] ∧ p.frame = total ∧ p.channel.queue = [] := by
  have hmissing := h.sound.accounted.missing
  have hsent := h.sent
  have hbound := h.bound
  have hends := h.sound.ends
  simp only [List.length_map] at hmissing
  rw [h.sound.counted] at hends
  rw [Channel.Finished, h.sound.counted, hends, ← List.length_eq_zero_iff,
    ← List.length_eq_zero_iff]
  omega

/-! ## The four tasks -/

/-- How far the sampler is on its way from one send to the next. -/
def SamplerAt.progress : SamplerAt → ℤ
  | .signalling => 0
  | .sampling => 1
  | .taking => 2
  | .counting => 3
  | .lowering => 4
  | .raising => 5
  | .giving => 6
  | .sending => 7

/-- The turns of the sampler behind what waits and what it is about to send. -/
def Ipc.progress (c : Ipc) : ℤ := 8 * c.channel.queue.length + c.sampler.progress

/-- A frame is worth eight turns. -/
def ipcWeight : IpcTask → ℤ
  | .sampler => 1
  | .telemetry => -8
  | .safeMode | .reporter => 0

theorem net_ipcWeight (x : List IpcTask) :
    net ipcWeight x = x.count .sampler - 8 * x.count .telemetry := by
  induction x using List.reverseRecOn with
  | nil => rfl
  | append_singleton x t ih =>
      rw [net_concat, ih, List.count_append, List.count_append]
      cases t <;> simp [ipcWeight] <;> omega

/-- A turn of the sampler is one step of progress at most: it may have to wait for the
mutex, and a send may find the queue full. -/
theorem Ipc.progress_sampler (w : World) (c : Ipc) :
    (c.vSamplerTask w).progress ≤ c.progress + 1 := by
  unfold Ipc.vSamplerTask Ipc.progress
  cases hat : c.sampler with
  | taking =>
      simp only
      split <;> simp only [hat, SamplerAt.progress] <;> omega
  | sending =>
      have hlength : (c.channel.send ⟨c.s, c.frame, w.tick c.frame⟩).queue.length ≤
          c.channel.queue.length + 1 := by
        unfold Channel.send xQueueSend
        split_ifs <;> simp
      simp only [SamplerAt.progress]
      omega
  | sampling | counting | lowering | raising | giving | signalling =>
      simp only [SamplerAt.progress]
      omega

/-- **One turn.**  The telemetry task takes a frame away, or none is there. -/
theorem Ipc.Inv.progress_step {w : World} {total : ℕ} {c : Ipc} (h : c.Inv w total)
    (t : IpcTask) : (c.step w total t).progress ≤ 7 ∨
      (c.step w total t).progress ≤ c.progress + ipcWeight t := by
  have hplace : c.sampler.progress ≤ 7 := by cases c.sampler <;> decide
  cases hended : c.channel.ended with
  | true =>
      have hempty := (h.sound.ended (h.sent.trans_le h.sent_le) hended).2
      refine .inl ?_
      simpa [Ipc.step, hended, Ipc.progress, hempty] using hplace
  | false =>
      cases t with
      | sampler =>
          refine .inr ?_
          have hrise := c.progress_sampler w
          simp only [Ipc.step, hended, Bool.false_eq_true, if_false, ipcWeight]
          split <;> omega
      | telemetry =>
          have hlength := Channel.length_receive total hended
          simp only [Ipc.step, hended, Bool.false_eq_true, if_false, Ipc.vTelemetryTask,
            Ipc.progress, ipcWeight]
          omega
      | safeMode =>
          refine .inr (le_of_eq ?_)
          simp only [Ipc.step, hended, Bool.false_eq_true, if_false, Ipc.vSafeModeTask]
          split <;> simp [Ipc.progress, ipcWeight]
      | reporter =>
          refine .inr (le_of_eq ?_)
          simp only [Ipc.step, hended, Bool.false_eq_true, if_false, Ipc.vReporterTask]
          split
          · split <;> simp [Ipc.progress, ipcWeight]
          · simp [Ipc.progress, ipcWeight]
          · simp [Ipc.progress, ipcWeight]

/-- **No losses**, where the sampler is never more turns ahead than the queue is worth. -/
theorem runIpc_keepsUp (w : World) (total : ℕ) {plan : List IpcTask}
    (hplan : ∀ x, x <:+: plan → x.count .sampler ≤ 8 * (x.count .telemetry + hkQueueLength)) :
    (runIpc w total plan).channel.dropped = [] := by
  have hlevel : ∀ p, p <+: plan → level ipcWeight p ≤ 8 * hkQueueLength := by
    refine (never_above_iff ipcWeight plan _).2 fun x hx => ?_
    have hstretch := hplan x hx
    rw [net_ipcWeight]
    omega
  clear hplan
  induction plan using List.reverseRecOn with
  | nil => rfl
  | append_singleton plan t ih =>
      have hclean := ih fun p hp => hlevel p (hp.trans (List.prefix_append plan [t]))
      rw [runIpc, List.foldl_concat, ← runIpc, Ipc.dropped_step]
      refine ⟨hclean, ?_⟩
      rintro rfl - - hat
      have hstart : (Ipc.main w).progress = 1 := rfl
      have hbound : (runIpc w total plan).progress ≤ 7 + level ipcWeight plan :=
        bounded_run ipcWeight Ipc.progress 7 (fun c t h => h.step t)
          (fun c t h => h.progress_step t) (Ipc.inv_main w total) (by omega) plan
      have hlast := hlevel (plan ++ [.sampler]) List.prefix_rfl
      rw [level_concat, ipcWeight] at hlast
      rw [Ipc.progress, hat, SamplerAt.progress] at hbound
      omega

/-! ## Both programs -/

/-- **The schedule decides.**  Whatever is sampled:

* the two tasks drop no frame exactly if in no stretch of the schedule the sampler has
  over four turns more than the telemetry task, its turns after the last frame left out;
* they come to their end exactly if, moreover, the sampler has had a turn for every
  frame, and in no last stretch more turns than the telemetry task;
* the four tasks drop no frame if in no stretch the sampler has over eight times four
  turns more than eight times those of the telemetry task, however the reporter and the
  handler come in between. -/
theorem schedule_decides (w : World) :
    (∀ plan, (runPipeline w totalFramesToRun plan).channel.dropped = [] ↔
      KeepsUp (liveTurns totalFramesToRun plan)) ∧
    (∀ plan, (runPipeline w totalFramesToRun plan).channel.Finished totalFramesToRun ↔
      KeepsUp (liveTurns totalFramesToRun plan) ∧
        (liveTurns totalFramesToRun plan).count .sampler = totalFramesToRun ∧
        ∀ x, x <:+ liveTurns totalFramesToRun plan → x.count .sampler ≤ x.count .telemetry) ∧
    (∀ plan, (∀ x, x <:+: plan → x.count .sampler ≤ 8 * (x.count .telemetry + hkQueueLength)) →
      (runIpc w totalFramesToRun plan).channel.dropped = []) := by
  have hclean := runPipeline_dropped_iff w totalFramesToRun
  refine ⟨hclean, ?_, fun plan => runIpc_keepsUp w totalFramesToRun⟩
  intro plan
  have hlevel := runPipeline_keepsUp w totalFramesToRun plan
  rw [(runPipeline_inv w totalFramesToRun plan).finished_iff (by decide), ← hclean, hlevel.frame]
  refine and_congr_right fun hnone => and_congr_right fun _ => ?_
  have hqueue := hlevel.queue hnone
  have hlow := level_nonneg turnWeight (liveTurns totalFramesToRun plan)
  have hlast := level_le_iff turnWeight (liveTurns totalFramesToRun plan) 0
  simp only [net_turnWeight] at hlast
  rw [← List.length_eq_zero_iff]
  constructor
  · intro hempty x hx
    have hx' := hlast.1 (by omega) x hx
    omega
  · intro hall
    have hzero := hlast.2 fun x hx => by
      have hx' := hall x hx
      omega
    omega

end Rtos
end SpacecraftFsw
