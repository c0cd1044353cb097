import SpacecraftFsw.Rtos.Modes
import SpacecraftFsw.Rtos.Ending

/-!
# What can still end

Wherever the tasks of either program have got to, waiting for the queue or for each
other: as long as no frame has been dropped there is a way to the end, and once one
has been there is none.

* `Channel.Sound.unfinished` — a channel that is short of its end has a sample waiting
  or one to come.
* `Pipeline.advance`, `Ipc.advance` — some task comes closer to the end.
* `can_finish_iff` — the result for both programs, with the number of steps.
-/

namespace SpacecraftFsw
namespace Rtos

open Foundation

/-! ## The channel -/

/-- **Short of the end**, with nothing dropped, a sample is waiting or one is still to be
sent; and as long as one waits, a frame is still to be emitted. -/
theorem Channel.Sound.unfinished {w : World} {total : ℕ} {c : Channel} (h : c.Sound w total)
    (htotal : 0 < total) (hsent : c.sent.length ≤ total) (hdropped : c.dropped = [])
    (hgoal : ¬ c.Finished total) :
    c.ended = false ∧ (c.queue = [] → c.sent.length < total) ∧
      (c.queue ≠ [] → c.emitted.length < total) := by
  have hmissing := h.accounted.missing
  have hends := h.ends
  simp only [List.length_map, hdropped, List.length_nil] at hmissing
  rw [Channel.Finished, h.counted] at hgoal
  rw [h.counted] at hends
  refine ⟨?_, ?_, ?_⟩
  · rw [← Bool.not_eq_true, hends]
    rintro ⟨hpos, hle⟩
    exact hgoal ⟨by omega, by omega, hends.2 ⟨hpos, hle⟩⟩
  · intro hempty
    by_contra hall
    rw [hempty, List.length_nil] at hmissing
    exact hgoal ⟨by omega, by omega, hends.2 (by omega)⟩
  · intro hsome
    have hpos := List.length_pos_iff.2 hsome
    omega

/-- A finished channel has dropped nothing. -/
theorem Channel.Sound.dropped_of_finished {w : World} {total : ℕ} {c : Channel}
    (h : c.Sound w total) (hsent : c.sent.length ≤ total) (hgoal : c.Finished total) :
    c.dropped = [] := by
  have hmissing := h.accounted.missing
  have hemitted := hgoal.1
  simp only [List.length_map] at hmissing
  exact List.length_eq_zero_iff.1 (by omega)

theorem Channel.emitted_receive (total : ℕ) {c : Channel} (hended : c.ended = false)
    (hsome : c.queue ≠ []) : (c.receive total).emitted.length = c.emitted.length + 1 := by
  unfold Channel.receive
  rw [hended]
  cases hq : c.queue with
  | nil => exact absurd hq hsome
  | cons x queue => simp [xQueueReceive]

/-! ## The two tasks -/

/-- The samples to be sent, and the frames to be emitted. -/
def Pipeline.ahead (total : ℕ) (p : Pipeline) : ℕ :=
  (total - p.frame) + (total - p.channel.emitted.length)

/-- A state on the way to the end. -/
structure Pipeline.OnTheWay (w : World) (total : ℕ) (p : Pipeline) : Prop where
  inv : p.Inv w total
  dropped : p.channel.dropped = []

/-- **Some task comes closer.** -/
theorem Pipeline.OnTheWay.advance {w : World} {total : ℕ} (htotal : 0 < total) {p : Pipeline}
    (h : p.OnTheWay w total) (hgoal : ¬ p.channel.Finished total) :
    ∃ t, (p.step w total t).OnTheWay w total ∧ (p.step w total t).ahead total < p.ahead total := by
  have hsent := h.inv.sent
  obtain ⟨hended, hmore, hleft⟩ := h.inv.sound.unfinished htotal (hsent.trans_le h.inv.bound)
    h.dropped hgoal
  by_cases hempty : p.channel.queue = []
  · -- the sampler has room
    have hrun : p.frame < total := hsent ▸ hmore hempty
    have hroom : p.Room total .sampler := by
      intro _ _ _
      rw [hempty]
      decide
    refine ⟨.sampler, ⟨h.inv.step _, (p.dropped_step w total _).2 ⟨h.dropped, hroom⟩⟩, ?_⟩
    simp only [Pipeline.step, Pipeline.vSamplerTask, hended, hrun, and_self, if_true,
      Pipeline.ahead, Channel.emitted_send]
    omega
  · have hleft := hleft hempty
    have hone := Channel.emitted_receive total hended hempty
    refine ⟨.telemetry, ⟨h.inv.step _, ?_⟩, ?_⟩
    · simpa [Pipeline.step, Pipeline.vTelemetryTask] using h.dropped
    · simp only [Pipeline.step, Pipeline.vTelemetryTask, Pipeline.ahead]
      omega

/-! ## The four tasks -/

/-- How far the sampler is in its iteration. -/
def SamplerAt.rank : SamplerAt → ℕ
  | .sampling => 0
  | .taking => 1
  | .counting => 2
  | .lowering => 3
  | .raising => 4
  | .giving => 5
  | .sending => 6
  | .signalling => 7

/-- How far the reporter is from giving the mutex back. -/
def ReporterAt.rank : ReporterAt → ℕ
  | .taking => 0
  | .printing => 2
  | .giving => 1

/-- The steps of the sampler and of the telemetry task that are left, and those of a
reporter that has the mutex. -/
def Ipc.ahead (total : ℕ) (c : Ipc) : ℕ :=
  (8 * (total - c.frame) - c.sampler.rank) + (total - c.channel.emitted.length) + c.reporter.rank

/-- A state on the way to the end. -/
structure Ipc.OnTheWay (w : World) (total : ℕ) (c : Ipc) : Prop where
  inv : c.Inv w total
  dropped : c.channel.dropped = []

/-- A sampler that has sent fewer samples than it should is not done. -/
theorem Ipc.Inv.unsent {w : World} {total : ℕ} {c : Ipc} (h : c.Inv w total)
    (hfew : c.channel.sent.length < total) : c.frame < total := by
  rcases h.running with hrun | ⟨hdone, hat⟩
  · exact hrun
  · have hsent : c.channel.sent.length = c.frame := by
      rw [h.sent, hat]
      rfl
    omega

/-- A step of the sampler that is not blocked comes closer. -/
theorem Ipc.ahead_vSamplerTask (w : World) {total : ℕ} {c : Ipc} (hrun : c.frame < total)
    (hfree : c.sampler = .taking → c.mutex = none) :
    (c.vSamplerTask w).ahead total < c.ahead total := by
  unfold Ipc.vSamplerTask Ipc.ahead
  cases hat : c.sampler with
  | taking =>
      simp only [hfree hat, if_true, SamplerAt.rank]
      omega
  | sending =>
      simp only [Channel.emitted_send, SamplerAt.rank]
      omega
  | sampling | counting | lowering | raising | giving | signalling =>
      simp only [SamplerAt.rank]
      omega

/-- A reporter that has the mutex comes closer to giving it back. -/
theorem Ipc.ahead_vReporterTask (total : ℕ) {c : Ipc} (hbusy : c.reporter ≠ .taking) :
    c.vReporterTask.ahead total < c.ahead total := by
  unfold Ipc.vReporterTask Ipc.ahead
  cases hat : c.reporter with
  | taking => exact absurd hat hbusy
  | printing | giving =>
      simp only [ReporterAt.rank]
      omega

/-- **Some task comes closer**: whoever is waited for. -/
theorem Ipc.OnTheWay.advance {w : World} {total : ℕ} (htotal : 0 < total) {c : Ipc}
    (h : c.OnTheWay w total) (hgoal : ¬ c.channel.Finished total) :
    ∃ t, (c.step w total t).OnTheWay w total ∧ (c.step w total t).ahead total < c.ahead total := by
  have hsent := h.inv.sent
  obtain ⟨hended, hmore, hleft⟩ := h.inv.sound.unfinished htotal (hsent.trans_le h.inv.sent_le)
    h.dropped hgoal
  by_cases hempty : c.channel.queue = []
  · have hrun : c.frame < total := h.inv.unsent (hmore hempty)
    by_cases hblocked : c.sampler = .taking ∧ c.mutex ≠ none
    · -- the reporter has the mutex
      obtain ⟨hat, hheld⟩ := hblocked
      have howns := h.inv.samplerOwns
      have hbusy : c.reporter ≠ .taking := by
        refine h.inv.reporterOwns.1 ?_
        cases hm : c.mutex with
        | none => exact absurd hm hheld
        | some owner =>
            cases owner with
            | reporter => rfl
            | sampler => simp [hm, hat, SamplerAt.inside] at howns
      refine ⟨.reporter, ⟨h.inv.step _, (c.dropped_step w total _).2 ⟨h.dropped, ?_⟩⟩, ?_⟩
      · rintro ⟨⟩
      · simpa [Ipc.step, hended] using Ipc.ahead_vReporterTask total hbusy
    · have hroom : c.Room total .sampler := by
        intro _ _ _ _
        rw [hempty]
        decide
      refine ⟨.sampler, ⟨h.inv.step _, (c.dropped_step w total _).2 ⟨h.dropped, hroom⟩⟩, ?_⟩
      have hcloser := Ipc.ahead_vSamplerTask w hrun fun hat => by
        by_contra hheld
        exact hblocked ⟨hat, hheld⟩
      simpa [Ipc.step, hended, hrun] using hcloser
  · have hleft := hleft hempty
    have hone := Channel.emitted_receive total hended hempty
    refine ⟨.telemetry, ⟨h.inv.step _, ?_⟩, ?_⟩
    · simpa [Ipc.step, hended, Ipc.vTelemetryTask] using h.dropped
    · simp only [Ipc.step, hended, Bool.false_eq_true, if_false, Ipc.vTelemetryTask, Ipc.ahead]
      omega

/-! ## The end -/

/-- A frame dropped stays dropped. -/
theorem runPipeline_dropped_before {w : World} {total : ℕ} {plan later : List Task}
    (h : (runPipeline w total (plan ++ later)).channel.dropped = []) :
    (runPipeline w total plan).channel.dropped = [] := by
  have hlater := Schedule.throughout_iff (fun p : Pipeline => p.channel.dropped = [])
    (Pipeline.dropped_step w total) (runPipeline w total plan) later
  rw [runPipeline, List.foldl_append] at h
  exact (hlater.1 h).1

theorem runIpc_dropped_before {w : World} {total : ℕ} {plan later : List IpcTask}
    (h : (runIpc w total (plan ++ later)).channel.dropped = []) :
    (runIpc w total plan).channel.dropped = [] := by
  have hlater := Schedule.throughout_iff (fun c : Ipc => c.channel.dropped = [])
    (Ipc.dropped_step w total) (runIpc w total plan) later
  rw [runIpc, List.foldl_append] at h
  exact (hlater.1 h).1

/-- **The end can be reached as long as nothing has been dropped, and no longer.**  After
any schedule of either program: if no frame has been dropped the tasks can still be
scheduled to the end, within two or nine steps for each frame and two for a reporter
that is in the way; and if the end can be reached then no frame has been dropped. -/
theorem can_finish_iff (w : World) :
    (∀ plan, (runPipeline w totalFramesToRun plan).channel.dropped = [] →
      ∃ later, later.length ≤ 2 * totalFramesToRun ∧
        (runPipeline w totalFramesToRun (plan ++ later)).channel.Finished totalFramesToRun) ∧
    (∀ plan later,
      (runPipeline w totalFramesToRun (plan ++ later)).channel.Finished totalFramesToRun →
        (runPipeline w totalFramesToRun plan).channel.dropped = []) ∧
    (∀ plan, (runIpc w totalFramesToRun plan).channel.dropped = [] →
      ∃ later, later.length ≤ 9 * totalFramesToRun + 2 ∧
        (runIpc w totalFramesToRun (plan ++ later)).channel.Finished totalFramesToRun) ∧
    (∀ plan later,
      (runIpc w totalFramesToRun (plan ++ later)).channel.Finished totalFramesToRun →
        (runIpc w totalFramesToRun plan).channel.dropped = []) := by
  have htotal : 0 < totalFramesToRun := by decide
  refine ⟨?_, ?_, ?_, ?_⟩
  · intro plan hdropped
    have hstart : (runPipeline w totalFramesToRun plan).OnTheWay w totalFramesToRun :=
      ⟨runPipeline_inv w totalFramesToRun plan, hdropped⟩
    obtain ⟨later, hlen, hend⟩ := Schedule.reaches_of_measure (Pipeline.ahead totalFramesToRun)
      (fun p h hgoal => Pipeline.OnTheWay.advance htotal h hgoal) hstart
    refine ⟨later, hlen.trans ?_, ?_⟩
    · unfold Pipeline.ahead
      omega
    · rwa [runPipeline, List.foldl_append]
  · intro plan later hend
    have hinv := runPipeline_inv w totalFramesToRun (plan ++ later)
    exact runPipeline_dropped_before
      (hinv.sound.dropped_of_finished (hinv.sent.trans_le hinv.bound) hend)
  · intro plan hdropped
    have hstart : (runIpc w totalFramesToRun plan).OnTheWay w totalFramesToRun :=
      ⟨runIpc_inv w totalFramesToRun plan, hdropped⟩
    obtain ⟨later, hlen, hend⟩ := Schedule.reaches_of_measure (Ipc.ahead totalFramesToRun)
      (fun c h hgoal => Ipc.OnTheWay.advance htotal h hgoal) hstart
    refine ⟨later, hlen.trans ?_, ?_⟩
    · have hrank : (runIpc w totalFramesToRun plan).reporter.rank ≤ 2 := by
        cases (runIpc w totalFramesToRun plan).reporter <;> decide
      unfold Ipc.ahead
      omega
    · rwa [runIpc, List.foldl_append]
  · intro plan later hend
    have hinv := runIpc_inv w totalFramesToRun (plan ++ later)
    exact runIpc_dropped_before
      (hinv.sound.dropped_of_finished (hinv.sent.trans_le hinv.sent_le) hend)

end Rtos
end SpacecraftFsw
