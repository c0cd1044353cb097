import SpacecraftFsw.Rtos.Ipc
import SpacecraftFsw.Rtos.Turns

/-!
# How the RTOS programs end

The telemetry task ends the scheduler after `TOTAL_FRAMES_TO_RUN` receptions.  The
sampler offers that many samples and no more, and drops one that finds the queue
full; a frame dropped is one reception too few.

* `emitted_in_order` — what is emitted has been sampled, in order and once.
* `Channel.Sound.ends_iff` — with the sampler done and the queue empty, the end has
  come exactly if nothing was dropped.
* `scheduler_ends_iff` — for both programs and every schedule: exactly if each send
  found room.
* `waits_forever` — what happens otherwise.
-/

namespace SpacecraftFsw
namespace Rtos

open Foundation

/-! ## Emission -/

/-- The frames emitted are among those sampled, in their order, and no number comes
twice. -/
structure Channel.Faithful (w : World) (c : Channel) : Prop where
  sampled : List.Sublist c.emitted
    ((List.range c.sent.length).map fun k => emitHkFrame (w.sample k))
  increasing : (c.emitted.map HkFrame.frame).Pairwise (· < ·)

theorem Channel.Sound.faithful {w : World} {total : ℕ} {c : Channel} (h : c.Sound w total) :
    c.Faithful w := by
  have hsub : List.Sublist c.emitted
      ((List.range c.sent.length).map fun k => emitHkFrame (w.sample k)) := by
    have hout := (List.sublist_append_left _ _).trans h.accounted.sublist
    rw [h.sampled, List.map_map] at hout
    exact hout
  refine ⟨hsub, ?_⟩
  have hnumbers := hsub.map HkFrame.frame
  rw [List.map_map] at hnumbers
  refine List.Pairwise.sublist hnumbers ?_
  have hrange : HkFrame.frame ∘ (fun k => emitHkFrame (w.sample k)) = id := rfl
  rw [hrange, List.map_id]
  exact List.pairwise_lt_range

/-- The telemetry task has emitted all its frames and left its loop. -/
def Channel.Finished (total : ℕ) (c : Channel) : Prop :=
  c.emitted.length = total ∧ c.framesEmitted = total ∧ c.ended = true

/-- **The account at the end.**  With `total` samples sent and none waiting, what is
missing is what was dropped. -/
theorem Channel.Sound.ends_iff {w : World} {total : ℕ} {c : Channel} (h : c.Sound w total)
    (htotal : 0 < total) (hsent : c.sent.length = total) (hempty : c.queue = []) :
    c.Finished total ↔ c.dropped = [] := by
  have hmissing := h.accounted.missing
  simp only [List.length_map, hempty, List.length_nil] at hmissing
  rw [Channel.Finished, h.ends, h.counted, ← List.length_eq_zero_iff]
  omega

/-! ## Room in the queue -/

/-- A task may run: it is not the sampler about to send into a full queue. -/
def Pipeline.Room (total : ℕ) (p : Pipeline) (t : Task) : Prop :=
  t = .sampler → p.channel.ended = false → p.frame < total →
    p.channel.queue.length < hkQueueLength

def Ipc.Room (total : ℕ) (c : Ipc) (t : IpcTask) : Prop :=
  t = .sampler → c.channel.ended = false → c.frame < total → c.sampler = .sending →
    c.channel.queue.length < hkQueueLength

/-- One step: a frame is dropped exactly where there is no room. -/
theorem Pipeline.dropped_step (w : World) (total : ℕ) (p : Pipeline) (t : Task) :
    (p.step w total t).channel.dropped = [] ↔ p.channel.dropped = [] ∧ p.Room total t := by
  cases t with
  | telemetry => simp [Pipeline.step, vTelemetryTask, Room]
  | sampler =>
      simp only [Pipeline.step, vSamplerTask, Room]
      split
      · rename_i hrun
        rw [Channel.dropped_send]
        simp [hrun]
      · rename_i hidle
        have hnever : ¬ (p.channel.ended = false ∧ p.frame < total) := hidle
        tauto

theorem Ipc.dropped_step (w : World) (total : ℕ) (c : Ipc) (t : IpcTask) :
    (c.step w total t).channel.dropped = [] ↔ c.channel.dropped = [] ∧ c.Room total t := by
  unfold Ipc.step Room
  split
  · rename_i hended
    simp [hended]
  cases t with
  | telemetry => simp [vTelemetryTask]
  | safeMode =>
      simp only [vSafeModeTask]
      split <;> simp
  | reporter =>
      simp only [vReporterTask]
      split
      · split <;> simp
      · simp
      · simp
  | sampler =>
      rename_i hended
      by_cases hrun : c.frame < total
      · simp only [hrun, if_true, vSamplerTask]
        cases hat : c.sampler with
        | sending =>
            rw [Channel.dropped_send]
            simp [hended]
        | taking => by_cases hfree : c.mutex = none <;> simp [hfree]
        | sampling | counting | lowering | raising | giving | signalling => simp
      · simp [hrun]

/-- Each send of the run finds room in the queue. -/
def PipelineRoomy (w : World) (plan : List Task) : Prop :=
  Schedule.Throughout (Pipeline.step w totalFramesToRun) (Pipeline.Room totalFramesToRun)
    Pipeline.main plan

def IpcRoomy (w : World) (plan : List IpcTask) : Prop :=
  Schedule.Throughout (Ipc.step w totalFramesToRun) (Ipc.Room totalFramesToRun)
    (Ipc.main w) plan

theorem runPipeline_dropped (w : World) (plan : List Task) :
    (runPipeline w totalFramesToRun plan).channel.dropped = [] ↔ PipelineRoomy w plan := by
  have hrun := Schedule.throughout_iff (fun p : Pipeline => p.channel.dropped = [])
    (Pipeline.dropped_step w totalFramesToRun) Pipeline.main plan
  exact hrun.trans (and_iff_right rfl)

theorem runIpc_dropped (w : World) (plan : List IpcTask) :
    (runIpc w totalFramesToRun plan).channel.dropped = [] ↔ IpcRoomy w plan := by
  have hrun := Schedule.throughout_iff (fun c : Ipc => c.channel.dropped = [])
    (Ipc.dropped_step w totalFramesToRun) (Ipc.main w) plan
  exact hrun.trans (and_iff_right rfl)

/-! ## The end -/

/-- The four-task system has the channel of a run of the two tasks. -/
theorem runIpc_channel (w : World) (total : ℕ) (plan : List IpcTask) :
    ∃ plan', (runIpc w total plan).channel = (runPipeline w total plan').channel := by
  obtain ⟨plan', h⟩ := runIpc_refines w total plan
  exact ⟨plan', congrArg Pipeline.channel h⟩

/-- **The emitted frames**, after any schedule of either program. -/
theorem emitted_in_order (w : World) (total : ℕ) :
    (∀ plan, (runPipeline w total plan).channel.Faithful w) ∧
      ∀ plan, (runIpc w total plan).channel.Faithful w := by
  have hpipeline : ∀ plan, (runPipeline w total plan).channel.Faithful w :=
    fun plan => (runPipeline_inv w total plan).sound.faithful
  refine ⟨hpipeline, ?_⟩
  intro plan
  obtain ⟨plan', h⟩ := runIpc_channel w total plan
  rw [h]
  exact hpipeline plan'

/-- A sampler done has sent a sample for every frame. -/
theorem Ipc.Inv.sent_all {w : World} {total : ℕ} {c : Ipc} (h : c.Inv w total)
    (hdone : c.frame = total) : c.channel.sent.length = total := by
  have hat : c.sampler = .sampling := by
    rcases h.running with hrun | ⟨-, hat⟩
    · omega
    · exact hat
  have hsent := h.sent
  rw [hat] at hsent
  exact hsent.trans hdone

/-- **When the programs end.**  The emitted frames are always frames sampled, in order
and once.  Where the sampler is done and the queue empty, the telemetry task has
emitted its frames and left its loop exactly if each send of the run found room; with
the two tasks, that is to say whenever the schedule keeps up, whatever is sampled. -/
theorem scheduler_ends_iff (w : World) :
    (∀ plan, (runPipeline w totalFramesToRun plan).channel.Faithful w ∧
      ((runPipeline w totalFramesToRun plan).frame = totalFramesToRun →
        (runPipeline w totalFramesToRun plan).channel.queue = [] →
        ((runPipeline w totalFramesToRun plan).channel.Finished totalFramesToRun ↔
          PipelineRoomy w plan)) ∧
      (PipelineRoomy w plan ↔ KeepsUp (liveTurns totalFramesToRun plan))) ∧
      ∀ plan, (runIpc w totalFramesToRun plan).channel.Faithful w ∧
        ((runIpc w totalFramesToRun plan).frame = totalFramesToRun →
          (runIpc w totalFramesToRun plan).channel.queue = [] →
          ((runIpc w totalFramesToRun plan).channel.Finished totalFramesToRun ↔
            IpcRoomy w plan)) := by
  have htotal : 0 < totalFramesToRun := by decide
  obtain ⟨hpipeline, hipc⟩ := emitted_in_order w totalFramesToRun
  constructor
  · intro plan
    refine ⟨hpipeline plan, ?_, ?_⟩
    · intro hdone hempty
      have hinv := runPipeline_inv w totalFramesToRun plan
      rw [hinv.sound.ends_iff htotal (hinv.sent.trans hdone) hempty, runPipeline_dropped]
    · rw [← runPipeline_dropped, runPipeline_dropped_iff]
  · intro plan
    refine ⟨hipc plan, ?_⟩
    intro hdone hempty
    have hinv := runIpc_inv w totalFramesToRun plan
    rw [hinv.sound.ends_iff htotal (hinv.sent_all hdone) hempty, runIpc_dropped]

/-- 8.0 V throughout, on a stack of zeros. -/
def steadyBus : World where
  profile _ := ⟨0x41000000#32, 70, 0, 0⟩
  stack _ := ⟨0, 0, 0, 0, modeBoot⟩
  tick k := BitVec.ofNat 32 (200 * k)

/-- With the tasks taking turns there is room for every frame, and the end comes. -/
theorem scheduler_ends_turns :
    let plan := (List.replicate 10 [Task.sampler, .telemetry]).flatten
    (runPipeline steadyBus totalFramesToRun plan).channel.Finished totalFramesToRun ∧
      PipelineRoomy steadyBus plan := by
  have hdone : (runPipeline steadyBus totalFramesToRun
      (List.replicate 10 [Task.sampler, .telemetry]).flatten).channel.Finished
        totalFramesToRun := by
    unfold Channel.Finished
    decide +kernel
  exact ⟨hdone, (((scheduler_ends_iff steadyBus).1 _).2.1 (by decide +kernel)
    (by decide +kernel)).1 hdone⟩

/-- The sampler runs to its end before the telemetry task has its turn: six frames are
dropped, four emitted, and nothing ends the scheduler. -/
theorem starved_telemetry_never_ends :
    let p := runPipeline steadyBus totalFramesToRun
      (List.replicate 10 .sampler ++ List.replicate 4 .telemetry)
    let c := runIpc steadyBus totalFramesToRun
      (List.replicate 80 .sampler ++ List.replicate 4 .telemetry)
    (p.frame = totalFramesToRun ∧ p.channel.queue = [] ∧
        p.channel.dropped = [4, 5, 6, 7, 8, 9] ∧ p.channel.framesEmitted = 4 ∧
        ¬ p.channel.Finished totalFramesToRun) ∧
      (c.frame = totalFramesToRun ∧ c.channel.queue = [] ∧
        ¬ c.channel.Finished totalFramesToRun) := by
  simp only [Channel.Finished]
  decide +kernel

/-- **A dropped frame is waited for.**  Where the sampler is done, the queue empty and
a frame dropped, no task does anything any more. -/
theorem waits_forever (w : World) (plan later : List Task)
    (hdone : (runPipeline w totalFramesToRun plan).frame = totalFramesToRun)
    (hempty : (runPipeline w totalFramesToRun plan).channel.queue = [])
    (hlost : (runPipeline w totalFramesToRun plan).channel.dropped ≠ []) :
    runPipeline w totalFramesToRun (plan ++ later) = runPipeline w totalFramesToRun plan ∧
      (runPipeline w totalFramesToRun plan).channel.ended = false := by
  have hinv := runPipeline_inv w totalFramesToRun plan
  constructor
  · have hstep : ∀ t, (runPipeline w totalFramesToRun plan).step w totalFramesToRun t =
        runPipeline w totalFramesToRun plan := by
      intro t
      cases t with
      | sampler => simp [Pipeline.step, Pipeline.vSamplerTask, hdone]
      | telemetry =>
          simp [Pipeline.step, Pipeline.vTelemetryTask, Channel.receive, hempty, xQueueReceive]
    rw [runPipeline, List.foldl_append, ← runPipeline]
    induction later with
    | nil => rfl
    | cons t later ih => rw [List.foldl_cons, hstep, ih]
  · have hmissing := hinv.sound.accounted.missing
    have hpos := List.length_pos_iff.2 hlost
    simp only [List.length_map, hempty, List.length_nil, hinv.sent, hdone] at hmissing
    rw [← Bool.not_eq_true, hinv.sound.ends, hinv.sound.counted]
    omega

end Rtos
end SpacecraftFsw
