import SpacecraftFsw.Rtos.Pipeline

/-!
# The four-task system

`labs/02-rtos/hk_freertos_ipc.c`: the pipeline with statistics under a mutex, a
reporter that reads them and a handler woken by a binary semaphore.  The iteration
of the sampler is taken apart, so that the other tasks may run anywhere inside it.

* `Ipc.step` — one step of one task; a task that has to wait does nothing.
* `runIpc_inv` — the invariant: the channel is sound, the mutex has one owner, and
  the statistics are half updated only while the sampler owns it.
* `runIpc_refines` — without its new parts the system is the two-task pipeline.
* `reports_whole` — the reporter sees no half-updated statistics.
-/

namespace SpacecraftFsw
namespace Rtos

open Foundation

/-! ## Statistics -/

/-- `hk_stats`. -/
structure HkStats where
  nominalFrames : U32
  safeFrames : U32
  minVoltage : Ieee.Binary32
  maxVoltage : Ieee.Binary32
  deriving DecidableEq, Repr

/-- `g_stats` as initialised, the voltages at 1e9 and -1e9. -/
def HkStats.start : HkStats := ⟨0, 0, 0x4E6E6B28#32, 0xCE6E6B28#32⟩

/-- The three updates of `update_stats`, in their order. -/
def HkStats.count (s : SpacecraftState) (g : HkStats) : HkStats :=
  if s.mode = modeSafe then { g with safeFrames := g.safeFrames + 1 }
  else { g with nominalFrames := g.nominalFrames + 1 }

def HkStats.lower (s : SpacecraftState) (g : HkStats) : HkStats :=
  if Ieee.lt s.busVoltage g.minVoltage then { g with minVoltage := s.busVoltage } else g

def HkStats.raise (s : SpacecraftState) (g : HkStats) : HkStats :=
  if Ieee.lt g.maxVoltage s.busVoltage then { g with maxVoltage := s.busVoltage } else g

/-- The statistics of the first `k` samples. -/
def statsOf (w : World) : ℕ → HkStats
  | 0 => .start
  | k + 1 => (((statsOf w k).count (w.sampled k)).lower (w.sampled k)).raise (w.sampled k)

/-! ## The tasks -/

/-- Where the sampler is in its iteration. -/
inductive SamplerAt
  | sampling
  | taking
  | counting
  | lowering
  | raising
  | giving
  | sending
  | signalling
  deriving DecidableEq, Repr

/-- Where the reporter is in its loop. -/
inductive ReporterAt
  | taking
  | printing
  | giving
  deriving DecidableEq, Repr

/-- The tasks that take `xStatsMutex`. -/
inductive Owner
  | sampler
  | reporter
  deriving DecidableEq, Repr

/-- The system: the channel; the sampler's loop variable, place and local `s`; the
statistics with their mutex and the reporter's place and lines; the semaphore and
the responses of its handler. -/
structure Ipc where
  channel : Channel
  frame : ℕ
  sampler : SamplerAt
  s : SpacecraftState
  stats : HkStats
  mutex : Option Owner
  reporter : ReporterAt
  reports : List HkStats
  safeModeSem : Bool
  responses : ℕ
  deriving DecidableEq, Repr

/-- The tasks of the system. -/
inductive IpcTask
  | sampler
  | safeMode
  | telemetry
  | reporter
  deriving DecidableEq, Repr

/-- The next step of `vSamplerTask`. -/
def Ipc.vSamplerTask (w : World) (c : Ipc) : Ipc :=
  match c.sampler with
  | .sampling => { c with s := w.sampled c.frame, sampler := .taking }
  | .taking =>
    if c.mutex = none then { c with mutex := some .sampler, sampler := .counting } else c
  | .counting => { c with stats := c.stats.count c.s, sampler := .lowering }
  | .lowering => { c with stats := c.stats.lower c.s, sampler := .raising }
  | .raising => { c with stats := c.stats.raise c.s, sampler := .giving }
  | .giving => { c with mutex := none, sampler := .sending }
  | .sending =>
    { c with
      channel := c.channel.send ⟨c.s, c.frame, w.tick c.frame⟩
      sampler := .signalling }
  | .signalling =>
    -- a binary semaphore that is given already stays given
    { c with
      safeModeSem := c.safeModeSem || decide (c.s.mode = modeSafe)
      frame := c.frame + 1
      sampler := .sampling }

/-- The next step of `vReporterTask`. -/
def Ipc.vReporterTask (c : Ipc) : Ipc :=
  match c.reporter with
  | .taking =>
    if c.mutex = none then { c with mutex := some .reporter, reporter := .printing } else c
  | .printing => { c with reports := c.reports ++ [c.stats], reporter := .giving }
  | .giving => { c with mutex := none, reporter := .taking }

/-- The next step of `vSafeModeTask`. -/
def Ipc.vSafeModeTask (c : Ipc) : Ipc :=
  if c.safeModeSem then { c with safeModeSem := false, responses := c.responses + 1 } else c

/-- One iteration of `vTelemetryTask`. -/
def Ipc.vTelemetryTask (total : ℕ) (c : Ipc) : Ipc :=
  { c with channel := c.channel.receive total }

/-- The scheduler runs a task, the sampler for as long as it has frames. -/
def Ipc.step (w : World) (total : ℕ) (c : Ipc) (t : IpcTask) : Ipc :=
  if c.channel.ended then c
  else
    match t with
    | .sampler => if c.frame < total then c.vSamplerTask w else c
    | .safeMode => c.vSafeModeTask
    | .telemetry => c.vTelemetryTask total
    | .reporter => c.vReporterTask

/-- As `main` starts the scheduler; the memory of `s` is the first the sampler finds. -/
def Ipc.main (w : World) : Ipc :=
  ⟨Channel.create, 0, .sampling, w.stack 0, .start, none, .taking, [], false, 0⟩

/-- The state a schedule leads to. -/
def runIpc (w : World) (total : ℕ) (plan : List IpcTask) : Ipc :=
  plan.foldl (Ipc.step w total) (Ipc.main w)

/-! ## Reachable states -/

/-- The statistics while the sampler works on frame `k`. -/
def SamplerAt.stats (w : World) (k : ℕ) : SamplerAt → HkStats
  | .sampling | .taking | .counting => statsOf w k
  | .lowering => (statsOf w k).count (w.sampled k)
  | .raising => ((statsOf w k).count (w.sampled k)).lower (w.sampled k)
  | .giving | .sending | .signalling => statsOf w (k + 1)

/-- The sampler is inside `update_stats`, past its take. -/
def SamplerAt.inside : SamplerAt → Bool
  | .counting | .lowering | .raising | .giving => true
  | _ => false

/-- The samples sent by a sampler that is at `a` in frame `k`. -/
def SamplerAt.sent (k : ℕ) : SamplerAt → ℕ
  | .signalling => k + 1
  | _ => k

/-- What holds of every reachable state. -/
structure Ipc.Inv (w : World) (total : ℕ) (c : Ipc) : Prop where
  sound : c.channel.Sound w total
  sent : c.channel.sent.length = c.sampler.sent c.frame
  running : c.frame < total ∨ c.frame = total ∧ c.sampler = .sampling
  sampled : c.sampler ≠ .sampling → c.s = w.sampled c.frame
  stats : c.stats = c.sampler.stats w c.frame
  samplerOwns : c.mutex = some .sampler ↔ c.sampler.inside = true
  reporterOwns : c.mutex = some .reporter ↔ c.reporter ≠ .taking
  reports : ∀ r ∈ c.reports, ∃ k ≤ total, r = statsOf w k

theorem Ipc.inv_main (w : World) (total : ℕ) : (Ipc.main w).Inv w total where
  sound := Channel.sound_create w total
  sent := rfl
  running := by simpa [main] using Nat.eq_zero_or_pos total |>.symm.imp_right Eq.symm
  sampled := by simp [main]
  stats := rfl
  samplerOwns := by simp [main, SamplerAt.inside]
  reporterOwns := by simp [main]
  reports := by simp [main]

namespace Ipc.Inv

variable {w : World} {total : ℕ} {c : Ipc}

/-- Outside of `update_stats` the statistics are those of a number of frames. -/
theorem stats_whole (h : c.Inv w total) (hout : c.sampler.inside = false) :
    ∃ k ≤ total, c.stats = statsOf w k := by
  have hstats := h.stats
  have hrun := h.running
  cases hat : c.sampler with
  | sampling | taking =>
      rw [hat] at hstats
      exact ⟨c.frame, by omega, hstats⟩
  | sending | signalling =>
      rw [hat] at hstats hrun
      exact ⟨c.frame + 1, by simp at hrun; omega, hstats⟩
  | counting | lowering | raising | giving => simp [hat, SamplerAt.inside] at hout

/-- The invariant with the sampler's place known. -/
theorem placed (h : c.Inv w total) {a : SamplerAt} (hat : c.sampler = a) :
    c.channel.sent.length = a.sent c.frame ∧ c.stats = a.stats w c.frame ∧
      (c.mutex = some .sampler ↔ a.inside = true) := by
  subst hat
  exact ⟨h.sent, h.stats, h.samplerOwns⟩

theorem sampler (h : c.Inv w total) (hrun : c.frame < total) : (c.vSamplerTask w).Inv w total := by
  unfold vSamplerTask
  cases hat : c.sampler with
  | sampling =>
      obtain ⟨hsent, hstats, howns⟩ := h.placed hat
      exact { h with
        sent := hsent, running := .inl hrun, sampled := fun _ => rfl, stats := hstats
        samplerOwns := howns }
  | taking =>
      obtain ⟨hsent, hstats, -⟩ := h.placed hat
      have hs : c.s = w.sampled c.frame := h.sampled (by simp [hat])
      by_cases hfree : c.mutex = none
      · have hidle : c.reporter = .taking := by simpa [hfree] using h.reporterOwns
        simp only [hfree, if_true]
        exact { h with
          sent := hsent, running := .inl hrun, sampled := fun _ => hs, stats := hstats
          samplerOwns := by simp [SamplerAt.inside], reporterOwns := by simp [hidle] }
      · simpa [hfree] using h
  | counting | lowering | raising =>
      -- the three assignments of `update_stats`, each on the sample of this frame
      obtain ⟨hsent, hstats, howns⟩ := h.placed hat
      have hs : c.s = w.sampled c.frame := h.sampled (by simp [hat])
      exact { h with
        sent := hsent, running := .inl hrun, sampled := fun _ => hs, samplerOwns := howns
        stats := by rw [hstats, hs]; rfl }
  | giving =>
      obtain ⟨hsent, hstats, howns⟩ := h.placed hat
      have hs : c.s = w.sampled c.frame := h.sampled (by simp [hat])
      have hmine : c.mutex = some .sampler := howns.2 rfl
      have hidle : c.reporter = .taking := by simpa [hmine] using h.reporterOwns
      exact { h with
        sent := hsent, running := .inl hrun, sampled := fun _ => hs, stats := hstats
        samplerOwns := by simp [SamplerAt.inside], reporterOwns := by simp [hidle] }
  | sending =>
      obtain ⟨hsent, hstats, howns⟩ := h.placed hat
      have hs : c.s = w.sampled c.frame := h.sampled (by simp [hat])
      have hcount : c.channel.sent.length = c.frame := hsent
      have hsound := h.sound.send
      rw [hcount, World.sample, ← hs] at hsound
      exact { h with
        sound := hsound, sent := by simp [hcount, SamplerAt.sent], running := .inl hrun
        sampled := fun _ => hs, stats := hstats, samplerOwns := howns }
  | signalling =>
      obtain ⟨hsent, hstats, howns⟩ := h.placed hat
      exact { h with
        sent := hsent, running := by simp; omega, sampled := by simp, stats := hstats
        samplerOwns := howns }

theorem reporter (h : c.Inv w total) : c.vReporterTask.Inv w total := by
  have howns := h.samplerOwns
  have hreporter := h.reporterOwns
  unfold vReporterTask
  cases hat : c.reporter with
  | taking =>
      by_cases hfree : c.mutex = none
      · have hout : c.sampler.inside = false := by simpa [hfree] using howns
        simpa [hfree] using
          { h with samplerOwns := by simp [hout], reporterOwns := by simp }
      · simpa [hfree] using h
  | printing =>
      have hmine : c.mutex = some .reporter := by simpa [hat] using hreporter
      have hout : c.sampler.inside = false := by simpa [hmine] using howns
      refine { h with reporterOwns := by simp [hmine], reports := ?_ }
      intro r hr
      rcases List.mem_append.1 hr with hr | hr
      · exact h.reports r hr
      · rw [List.mem_singleton.1 hr]
        exact h.stats_whole hout
  | giving =>
      have hmine : c.mutex = some .reporter := by simpa [hat] using hreporter
      have hout : c.sampler.inside = false := by simpa [hmine] using howns
      exact { h with samplerOwns := by simp [hout], reporterOwns := by simp }

theorem safeMode (h : c.Inv w total) : c.vSafeModeTask.Inv w total := by
  unfold vSafeModeTask
  split
  · exact { h with }
  · exact h

theorem telemetry (h : c.Inv w total) : (c.vTelemetryTask total).Inv w total :=
  { h with
    sound := h.sound.receive
    sent := by simpa [vTelemetryTask] using h.sent }

theorem step (h : c.Inv w total) (t : IpcTask) : (c.step w total t).Inv w total := by
  unfold Ipc.step
  split
  · exact h
  · cases t with
    | sampler =>
        by_cases hrun : c.frame < total
        · simpa [hrun] using h.sampler hrun
        · simpa [hrun] using h
    | safeMode => exact h.safeMode
    | telemetry => exact h.telemetry
    | reporter => exact h.reporter

end Ipc.Inv

theorem runIpc_inv (w : World) (total : ℕ) (plan : List IpcTask) :
    (runIpc w total plan).Inv w total := by
  have hstep : ∀ (c : Ipc) t, c.Inv w total → (c.step w total t).Inv w total :=
    fun _ t h => h.step t
  exact Schedule.invariant_run hstep (Ipc.inv_main w total) plan

/-- **No half-updated statistics.**  Every line of the reporter is about a number of
whole frames. -/
theorem reports_whole (w : World) (total : ℕ) (plan : List IpcTask) :
    ∀ r ∈ (runIpc w total plan).reports, ∃ k ≤ total, r = statsOf w k :=
  (runIpc_inv w total plan).reports

/-! ## Refinement -/

/-- The system without its new parts. -/
def Ipc.pipeline (c : Ipc) : Pipeline := ⟨c.channel, c.channel.sent.length⟩

/-- A step is one of the pipeline, or none. -/
theorem Ipc.Inv.pipeline_step {w : World} {total : ℕ} {c : Ipc} (h : c.Inv w total)
    (t : IpcTask) : (c.step w total t).pipeline = c.pipeline ∨
      ∃ t', (c.step w total t).pipeline = c.pipeline.step w total t' := by
  unfold Ipc.step
  split
  · exact .inl rfl
  rename_i hended
  cases t with
  | telemetry =>
      refine .inr ⟨.telemetry, ?_⟩
      simp [pipeline, vTelemetryTask, Pipeline.step, Pipeline.vTelemetryTask]
  | safeMode =>
      refine .inl ?_
      simp only [vSafeModeTask]
      split <;> rfl
  | reporter =>
      refine .inl ?_
      simp only [vReporterTask]
      split
      · split <;> rfl
      · rfl
      · rfl
  | sampler =>
      by_cases hrun : c.frame < total
      · simp only [hrun, if_true, vSamplerTask]
        cases hat : c.sampler with
        | sending =>
            -- the one step that reaches the queue
            obtain ⟨hsent, -, -⟩ := h.placed hat
            have hcount : c.channel.sent.length = c.frame := hsent
            have hs : c.s = w.sampled c.frame := h.sampled (by simp [hat])
            refine .inr ⟨.sampler, ?_⟩
            simp [pipeline, Pipeline.step, Pipeline.vSamplerTask, World.sample, hcount, hs, hrun,
              hended]
        | taking =>
            refine .inl ?_
            by_cases hfree : c.mutex = none <;> simp [hfree, pipeline]
        | sampling | counting | lowering | raising | giving | signalling => exact .inl rfl
      · exact .inl (by simp [hrun])

/-- **Refinement.**  Every run of the four tasks is, on the queue, a run of the two. -/
theorem runIpc_refines (w : World) (total : ℕ) (plan : List IpcTask) :
    ∃ plan', (runIpc w total plan).pipeline = runPipeline w total plan' := by
  have hinv : ∀ (c : Ipc) t, c.Inv w total → (c.step w total t).Inv w total :=
    fun _ t h => h.step t
  have hstep : ∀ (c : Ipc) t, c.Inv w total → (c.step w total t).pipeline = c.pipeline ∨
      ∃ t', (c.step w total t).pipeline = c.pipeline.step w total t' := fun _ t h =>
    h.pipeline_step t
  exact Schedule.refines_run Ipc.pipeline hinv hstep (Ipc.inv_main w total) plan

end Rtos
end SpacecraftFsw
