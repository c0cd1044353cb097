import SpacecraftFsw.Lib.Backlog
import SpacecraftFsw.Rtos.Pipeline

/-!
# Turns

How the turns of the sampler and of the telemetry task are mixed, and what the mixture
does to the queue between them.  What is sampled plays no part in it.

* `liveTurns` — a schedule without the turns of a sampler that has deleted itself.
* `KeepsUp` — a schedule whose sampler never gets too far ahead.
* `queue_eq_level` — the queue of a run without losses is the level of its schedule.
* `runPipeline_dropped_iff` — a run without losses is one whose schedule keeps up.
-/

namespace SpacecraftFsw
namespace Rtos

open Backlog

/-! ## Turns -/

/-- The schedule as it counts, for a sampler with `n` frames to go: after the last one
it has deleted itself. -/
def liveTurns : ℕ → List Task → List Task
  | _, [] => []
  | n, .telemetry :: plan => .telemetry :: liveTurns n plan
  | 0, .sampler :: plan => liveTurns 0 plan
  | n + 1, .sampler :: plan => .sampler :: liveTurns n plan

theorem count_liveTurns_le (n : ℕ) (plan : List Task) :
    (liveTurns n plan).count .sampler ≤ n := by
  induction plan generalizing n with
  | nil => exact Nat.zero_le n
  | cons t plan ih =>
      cases t with
      | telemetry => simpa [liveTurns] using ih n
      | sampler =>
          cases n with
          | zero => exact ih 0
          | succ n => simpa [liveTurns] using ih n

/-- What a turn brings to the queue. -/
def turnWeight : Task → ℤ
  | .sampler => 1
  | .telemetry => -1

theorem net_turnWeight (x : List Task) :
    net turnWeight x = x.count .sampler - x.count .telemetry := by
  induction x using List.reverseRecOn with
  | nil => rfl
  | append_singleton x t ih =>
      rw [net_concat, ih, List.count_append, List.count_append]
      cases t <;> simp [turnWeight] <;> omega

/-- A schedule in no stretch of which the sampler is further ahead than the queue is long. -/
def KeepsUp (plan : List Task) : Prop :=
  ∀ x, x <:+: plan → x.count .sampler ≤ x.count .telemetry + hkQueueLength

theorem keepsUp_iff (plan : List Task) :
    KeepsUp plan ↔ ∀ p, p <+: plan → level turnWeight p ≤ hkQueueLength := by
  rw [never_above_iff]
  refine forall_congr' fun x => forall_congr' fun _ => ?_
  rw [net_turnWeight]
  omega

/-! ## The queue of the two tasks -/

/-- The scheduler has ended only where all is sent and nothing waits. -/
theorem Channel.Sound.ended {w : World} {total : ℕ} {c : Channel} (h : c.Sound w total)
    (hsent : c.sent.length ≤ total) (hended : c.ended = true) :
    c.sent.length = total ∧ c.queue = [] := by
  have hmissing := h.accounted.missing
  have hcount := (h.ends.1 hended).2
  rw [h.counted] at hcount
  simp only [List.length_map] at hmissing
  exact ⟨by omega, List.length_eq_zero_iff.1 (by omega)⟩

/-- A sampler with a frame to go is not too late. -/
theorem Pipeline.Inv.not_ended {w : World} {total : ℕ} {p : Pipeline} (h : p.Inv w total)
    (hrun : p.frame < total) : p.channel.ended = false := by
  by_contra hended
  have hall := (h.sound.ended (h.sent.trans_le h.bound) (by simpa using hended)).1
  have hsent := h.sent
  omega

/-- Turns that do not count do nothing. -/
theorem Pipeline.Inv.run_liveTurns {w : World} {total : ℕ} {p : Pipeline} (h : p.Inv w total)
    (plan : List Task) : plan.foldl (Pipeline.step w total) p =
      (liveTurns (total - p.frame) plan).foldl (Pipeline.step w total) p := by
  induction plan generalizing p with
  | nil => rfl
  | cons t plan ih =>
      cases t with
      | telemetry => exact ih (h.step .telemetry)
      | sampler =>
          rcases Nat.lt_or_eq_of_le h.bound with hrun | hdone
          · have hended := h.not_ended hrun
            have hnext : (p.step w total .sampler).frame = p.frame + 1 := by
              simp [Pipeline.step, vSamplerTask, hended, hrun]
            obtain ⟨n, hn⟩ := Nat.exists_eq_add_of_lt hrun
            have hleft : total - p.frame = n + 1 := by omega
            have hrest : total - (p.step w total .sampler).frame = n := by omega
            rw [List.foldl_cons, ih (h.step .sampler), hrest, hleft]
            rfl
          · have hidle : p.step w total .sampler = p := by
              simp [Pipeline.step, vSamplerTask, hdone]
            have hleft : total - p.frame = 0 := by omega
            rw [List.foldl_cons, hidle, ih h, hleft]
            rfl

theorem Channel.length_send {c : Channel} (hroom : c.queue.length < hkQueueLength)
    (x : HkSample) : (c.send x).queue.length = c.queue.length + 1 := by
  simp [Channel.send, xQueueSend, hroom]

theorem Channel.length_receive (total : ℕ) {c : Channel} (hended : c.ended = false) :
    (c.receive total).queue.length = c.queue.length - 1 := by
  cases hq : c.queue <;> simp [Channel.receive, xQueueReceive, hended, hq]

/-- A run of a schedule in which every turn counts: it has dropped nothing exactly if the
level has stayed within the queue's length, and then the level is what waits. -/
structure OnLevel (plan : List Task) (p : Pipeline) : Prop where
  frame : p.frame = plan.count .sampler
  dropped : p.channel.dropped = [] ↔ ∀ q, q <+: plan → level turnWeight q ≤ hkQueueLength
  queue : p.channel.dropped = [] → (p.channel.queue.length : ℤ) = level turnWeight plan

namespace OnLevel

variable {w : World} {total : ℕ} {plan : List Task} {p : Pipeline}

/-- A turn of a sampler with a frame to send. -/
theorem sampler (h : OnLevel plan p) (hinv : p.Inv w total) (hrun : p.frame < total) :
    OnLevel (plan ++ [.sampler]) (p.step w total .sampler) := by
  have hended := hinv.not_ended hrun
  have hstep : p.step w total .sampler =
      ⟨p.channel.send (w.sample p.frame), p.frame + 1⟩ := by
    simp [Pipeline.step, Pipeline.vSamplerTask, hended, hrun]
  have hup : level turnWeight (plan ++ [.sampler]) = level turnWeight plan + 1 := by
    have hlevel := level_nonneg turnWeight plan
    rw [level_concat, turnWeight]
    omega
  rw [hstep]
  constructor
  · simp [h.frame]
  · rw [Channel.dropped_send]
    simp only [List.prefix_concat_iff, or_imp, forall_and, forall_eq, hup, ← h.dropped]
    rw [and_comm]
    refine and_congr_left fun hclean => ?_
    rw [← h.queue hclean]
    omega
  · intro hclean
    obtain ⟨hbefore, hroom⟩ := (Channel.dropped_send _ _).1 hclean
    rw [hup, ← h.queue hbefore, Channel.length_send hroom]
    rfl

/-- A turn of the telemetry task, which may find nothing to receive. -/
theorem telemetry (h : OnLevel plan p) (hinv : p.Inv w total) :
    OnLevel (plan ++ [.telemetry]) (p.step w total .telemetry) := by
  have hdown : level turnWeight (plan ++ [.telemetry]) = max 0 (level turnWeight plan - 1) := by
    rw [level_concat, turnWeight, sub_eq_add_neg]
  have hlength : (p.step w total .telemetry).channel.queue.length =
      p.channel.queue.length - 1 := by
    cases hended : p.channel.ended with
    | false => exact Channel.length_receive total hended
    | true =>
        have hempty := (hinv.sound.ended (hinv.sent.trans_le hinv.bound) hended).2
        simp [Pipeline.step, Pipeline.vTelemetryTask, Channel.receive, hended, hempty]
  have hsame : (p.step w total .telemetry).channel.dropped = p.channel.dropped :=
    Channel.dropped_receive total p.channel
  constructor
  · simpa [Pipeline.step, Pipeline.vTelemetryTask] using h.frame
  · rw [hsame, h.dropped]
    simp only [List.prefix_concat_iff, or_imp, forall_and, forall_eq, hdown]
    refine (and_iff_right_of_imp fun hall => ?_).symm
    have hlast := hall plan List.prefix_rfl
    omega
  · rw [hsame, hdown, hlength]
    intro hclean
    rw [← h.queue hclean]
    omega

end OnLevel

/-- **The queue is the level**, up to the first loss. -/
theorem queue_eq_level (w : World) (total : ℕ) (plan : List Task)
    (hcount : plan.count .sampler ≤ total) : OnLevel plan (runPipeline w total plan) := by
  induction plan using List.reverseRecOn with
  | nil =>
      refine ⟨rfl, iff_of_true rfl fun q hq => ?_, fun _ => rfl⟩
      rw [List.prefix_nil.1 hq]
      decide
  | append_singleton plan t ih =>
      have hinv := runPipeline_inv w total plan
      rw [List.count_append] at hcount
      have hlevel := ih (by omega)
      rw [runPipeline, List.foldl_concat, ← runPipeline]
      cases t with
      | sampler =>
          refine hlevel.sampler hinv ?_
          rw [hlevel.frame]
          simp at hcount
          omega
      | telemetry => exact hlevel.telemetry hinv

/-- **Losses**, by the schedule alone. -/
theorem runPipeline_keepsUp (w : World) (total : ℕ) (plan : List Task) :
    OnLevel (liveTurns total plan) (runPipeline w total plan) := by
  have hsame := (runPipeline_inv w total []).run_liveTurns plan
  rw [runPipeline, show Pipeline.main = runPipeline w total [] from rfl, hsame]
  exact queue_eq_level w total _ (count_liveTurns_le _ plan)

theorem runPipeline_dropped_iff (w : World) (total : ℕ) (plan : List Task) :
    (runPipeline w total plan).channel.dropped = [] ↔ KeepsUp (liveTurns total plan) := by
  rw [(runPipeline_keepsUp w total plan).dropped, keepsUp_iff]

end Rtos
end SpacecraftFsw
