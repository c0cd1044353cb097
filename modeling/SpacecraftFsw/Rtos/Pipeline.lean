import SpacecraftFsw.Lib.Fifo
import SpacecraftFsw.Lib.Schedule
import SpacecraftFsw.Foundation.HkTelemetry

/-!
# The two-task pipeline

`labs/02-rtos/hk_freertos.c`: a sampler and a telemetry task with a queue between
them.  The kernel is not part of the repository; its queue is a bounded FIFO, and
the two tasks take their iterations in any order.

* `Channel` — the queue, and what the tasks have put on record; `Channel.send` and
  `Channel.receive` are what an iteration of either task does to it.
* `Channel.Sound` — every sample is emitted, waiting or reported as dropped.
* `runPipeline_inv` — so it is in every reachable state.
-/

namespace SpacecraftFsw
namespace Rtos

open Foundation

/-! ## Samples -/

/-- `hk_sample_t`. -/
structure HkSample where
  state : SpacecraftState
  frame : ℕ
  tickMs : U32
  deriving DecidableEq, Repr

/-- What the iterations of the sampler find: the sensors, the memory of the local
`s`, which nothing initialises, and the clock. -/
structure World where
  profile : ℕ → Reading
  stack : ℕ → SpacecraftState
  tick : ℕ → U32

/-- `s` in iteration `k`, sampled and checked. -/
def World.sampled (w : World) (k : ℕ) : SpacecraftState :=
  applyLimits (sampleState (w.profile k) (w.stack k))

/-- The sample of iteration `k`. -/
def World.sample (w : World) (k : ℕ) : HkSample := ⟨w.sampled k, k, w.tick k⟩

/-- `HK_QUEUE_LENGTH`. -/
def hkQueueLength : ℕ := 4

/-- `TOTAL_FRAMES_TO_RUN`. -/
def totalFramesToRun : ℕ := hkNumCycles

/-! ## The queue between the tasks -/

/-- `xQueueSend` without waiting: a full queue refuses. -/
def xQueueSend (queue : List HkSample) (x : HkSample) : Option (List HkSample) :=
  if queue.length < hkQueueLength then some (queue ++ [x]) else none

/-- `xQueueReceive`: the oldest sample, once there is one. -/
def xQueueReceive : List HkSample → Option (HkSample × List HkSample)
  | [] => none
  | x :: queue => some (x, queue)

/-- The queue with the record of both its ends: the samples handed to `xQueueSend`,
the frames reported as dropped, the frames emitted, the local counter of the
telemetry task and whether that task has ended the scheduler. -/
structure Channel where
  queue : List HkSample
  sent : List HkSample
  dropped : List ℕ
  emitted : List HkFrame
  framesEmitted : ℕ
  ended : Bool
  deriving DecidableEq, Repr

/-- `emit_hk_frame`, with `g_sim_tick_ms` set from the sample. -/
def emitHkFrame (x : HkSample) : HkFrame := ⟨x.frame, x.tickMs.setWidth 64, x.state⟩

/-- The sampler hands over a sample. -/
def Channel.send (c : Channel) (x : HkSample) : Channel :=
  match xQueueSend c.queue x with
  | some queue => { c with queue := queue, sent := c.sent ++ [x] }
  | none => { c with sent := c.sent ++ [x], dropped := c.dropped ++ [x.frame] }

/-- One iteration of `vTelemetryTask` and the test of its loop.  Nothing happens
while it waits for a sample, nor after the scheduler has ended.  An iteration is one
step here; `statements_refine` is about the tasks that run between its statements. -/
def Channel.receive (total : ℕ) (c : Channel) : Channel :=
  if c.ended then c
  else
    match xQueueReceive c.queue with
    | none => c
    | some (x, queue) =>
      { c with
        queue := queue
        emitted := c.emitted ++ [emitHkFrame x]
        framesEmitted := c.framesEmitted + 1
        ended := decide (total ≤ c.framesEmitted + 1) }

/-- As `xQueueCreate` leaves it. -/
def Channel.create : Channel := ⟨[], [], [], [], 0, false⟩

/-- A send loses its sample exactly when the queue is full. -/
theorem Channel.dropped_send (c : Channel) (x : HkSample) :
    (c.send x).dropped = [] ↔ c.dropped = [] ∧ c.queue.length < hkQueueLength := by
  unfold Channel.send xQueueSend
  split <;> simp_all

@[simp] theorem Channel.sent_send (c : Channel) (x : HkSample) :
    (c.send x).sent = c.sent ++ [x] := by
  unfold Channel.send
  split <;> rfl

@[simp] theorem Channel.emitted_send (c : Channel) (x : HkSample) :
    (c.send x).emitted = c.emitted := by
  unfold Channel.send
  split <;> rfl

@[simp] theorem Channel.framesEmitted_send (c : Channel) (x : HkSample) :
    (c.send x).framesEmitted = c.framesEmitted := by
  unfold Channel.send
  split <;> rfl

@[simp] theorem Channel.ended_send (c : Channel) (x : HkSample) :
    (c.send x).ended = c.ended := by
  unfold Channel.send
  split <;> rfl

@[simp] theorem Channel.sent_receive (total : ℕ) (c : Channel) :
    (c.receive total).sent = c.sent := by
  unfold Channel.receive
  split
  · rfl
  · split <;> rfl

@[simp] theorem Channel.dropped_receive (total : ℕ) (c : Channel) :
    (c.receive total).dropped = c.dropped := by
  unfold Channel.receive
  split
  · rfl
  · split <;> rfl

/-- What a channel of `w` looks like after any number of iterations: the samples are
those of the iterations in turn, each is out, waiting or reported, and the telemetry
task has ended the scheduler if its counter has reached `total`. -/
structure Channel.Sound (w : World) (total : ℕ) (c : Channel) : Prop where
  sampled : c.sent = (List.range c.sent.length).map w.sample
  accounted : DropOldest.Accounted (c.sent.map emitHkFrame) c.emitted
    (c.queue.map emitHkFrame) c.dropped.length
  counted : c.framesEmitted = c.emitted.length
  ends : c.ended = true ↔ 0 < c.framesEmitted ∧ total ≤ c.framesEmitted

theorem Channel.sound_create (w : World) (total : ℕ) : Channel.create.Sound w total where
  sampled := rfl
  accounted := DropOldest.Accounted.empty
  counted := rfl
  ends := by simp [Channel.create]

/-- The next sample may be sent. -/
theorem Channel.Sound.send {w : World} {total : ℕ} {c : Channel} (h : c.Sound w total) :
    (c.send (w.sample c.sent.length)).Sound w total := by
  have hsampled : c.sent ++ [w.sample c.sent.length] =
      (List.range (c.sent ++ [w.sample c.sent.length]).length).map w.sample := by
    rw [List.length_append, List.length_singleton, List.range_succ, List.map_append, ← h.sampled]
    rfl
  unfold Channel.send
  split
  · rename_i queue hroom
    have hqueue : c.queue ++ [w.sample c.sent.length] = queue := by
      unfold xQueueSend at hroom
      split at hroom
      · exact Option.some.inj hroom
      · exact absurd hroom (by simp)
    refine ⟨hsampled, ?_, h.counted, h.ends⟩
    simpa [← hqueue] using h.accounted.append (emitHkFrame (w.sample c.sent.length))
  · refine ⟨hsampled, ?_, h.counted, h.ends⟩
    simpa using h.accounted.reject (emitHkFrame (w.sample c.sent.length))

/-- So may the telemetry task take its turn. -/
theorem Channel.Sound.receive {w : World} {total : ℕ} {c : Channel} (h : c.Sound w total) :
    (c.receive total).Sound w total := by
  unfold Channel.receive
  split
  · exact h
  · cases hq : c.queue with
    | nil => exact h
    | cons x queue =>
        have hacc := h.accounted
        rw [hq, List.map_cons] at hacc
        refine ⟨h.sampled, hacc.pop, ?_, ?_⟩
        · simp [xQueueReceive, h.counted]
        · simp [xQueueReceive]

/-! ## The tasks -/

/-- The system: the channel and the loop variable of the sampler. -/
structure Pipeline where
  channel : Channel
  frame : ℕ
  deriving DecidableEq, Repr

/-- The tasks of the pipeline. -/
inductive Task
  | sampler
  | telemetry
  deriving DecidableEq, Repr

/-- One iteration of `vSamplerTask`, up to its delay. -/
def Pipeline.vSamplerTask (w : World) (total : ℕ) (p : Pipeline) : Pipeline :=
  if p.channel.ended = false ∧ p.frame < total then
    { channel := p.channel.send (w.sample p.frame), frame := p.frame + 1 }
  else p

/-- One iteration of `vTelemetryTask`. -/
def Pipeline.vTelemetryTask (total : ℕ) (p : Pipeline) : Pipeline :=
  { p with channel := p.channel.receive total }

/-- The scheduler runs a task. -/
def Pipeline.step (w : World) (total : ℕ) (p : Pipeline) : Task → Pipeline
  | .sampler => p.vSamplerTask w total
  | .telemetry => p.vTelemetryTask total

/-- As `main` starts the scheduler. -/
def Pipeline.main : Pipeline := ⟨Channel.create, 0⟩

/-- The state a schedule leads to. -/
def runPipeline (w : World) (total : ℕ) (plan : List Task) : Pipeline :=
  plan.foldl (Pipeline.step w total) Pipeline.main

/-! ## Reachable states -/

/-- The channel is sound, and the sampler has sent a sample for each frame so far. -/
structure Pipeline.Inv (w : World) (total : ℕ) (p : Pipeline) : Prop where
  sound : p.channel.Sound w total
  sent : p.channel.sent.length = p.frame
  bound : p.frame ≤ total

theorem Pipeline.Inv.step {w : World} {total : ℕ} {p : Pipeline} (h : p.Inv w total) (t : Task) :
    (p.step w total t).Inv w total := by
  cases t with
  | telemetry =>
      have hsent : (p.channel.receive total).sent.length = p.frame := by simpa using h.sent
      exact ⟨h.sound.receive, hsent, h.bound⟩
  | sampler =>
      simp only [Pipeline.step, vSamplerTask]
      split
      · rename_i hrun
        have hsound := h.sound.send
        rw [h.sent] at hsound
        exact ⟨hsound, by simp [h.sent], hrun.2⟩
      · exact h

theorem runPipeline_inv (w : World) (total : ℕ) (plan : List Task) :
    (runPipeline w total plan).Inv w total := by
  have hmain : Pipeline.main.Inv w total := ⟨Channel.sound_create w total, rfl, Nat.zero_le _⟩
  have hstep : ∀ (p : Pipeline) t, p.Inv w total → (p.step w total t).Inv w total :=
    fun _ t h => h.step t
  exact Schedule.invariant_run hstep hmain plan

end Rtos
end SpacecraftFsw
