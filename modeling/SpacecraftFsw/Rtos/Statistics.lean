import SpacecraftFsw.Lib.Extremum
import SpacecraftFsw.Rtos.Ipc

/-!
# What the reporter prints

The reporter may take the mutex anywhere in the sampler's iteration, and between two
of its lines any number of frames go by.  Still each line is about the first so many
frames, as many as at the line before or more.

* `statsOf_describes` — the statistics of the first `k` frames are their numbers of
  nominal and of SAFE frames, and their lowest and highest voltage.
* `Ipc.Inv.reported_step` — no step makes a line false or takes a frame back.
* `reports_describe` — the lines of any run.
-/

namespace SpacecraftFsw
namespace Rtos

open Foundation

/-! ## The statistics of the first frames -/

/-- Frame `k` is sampled as SAFE. -/
def World.safeAt (w : World) (k : ℕ) : Bool := decide ((w.sampled k).mode = modeSafe)

/-- The bus voltages of the first `k` frames. -/
def World.voltages (w : World) (k : ℕ) : List Ieee.Binary32 :=
  (List.range k).map fun j => (w.sampled j).busVoltage

/-- **The line is true of the first `k` frames.** -/
structure HkStats.Describes (w : World) (k : ℕ) (g : HkStats) : Prop where
  nominal : g.nominalFrames = BitVec.ofNat 32 ((List.range k).countP fun j => !w.safeAt j)
  safe : g.safeFrames = BitVec.ofNat 32 ((List.range k).countP w.safeAt)
  lowest : Extremum.Best Ieee.lt HkStats.start.minVoltage (w.voltages k) g.minVoltage
  highest : Extremum.Best (fun x y => Ieee.lt y x) HkStats.start.maxVoltage (w.voltages k)
    g.maxVoltage

theorem World.voltages_succ (w : World) (k : ℕ) :
    w.voltages (k + 1) = w.voltages k ++ [(w.sampled k).busVoltage] := by
  simp [voltages, List.range_succ]

/-- Counting to 2^32 and round again. -/
theorem countP_succ (p : ℕ → Bool) (k : ℕ) :
    BitVec.ofNat 32 ((List.range (k + 1)).countP p) =
      BitVec.ofNat 32 ((List.range k).countP p) + (if p k then 1 else 0) := by
  rw [List.range_succ, List.countP_append, BitVec.ofNat_add]
  cases hp : p k <;> simp [hp]

theorem HkStats.count_eq (s : SpacecraftState) (g : HkStats) :
    g.count s =
      { g with
        nominalFrames := g.nominalFrames + (if s.mode = modeSafe then 0 else 1)
        safeFrames := g.safeFrames + (if s.mode = modeSafe then 1 else 0) } := by
  unfold count
  split <;> simp

theorem HkStats.lower_eq (s : SpacecraftState) (g : HkStats) :
    g.lower s = { g with minVoltage := Extremum.keep Ieee.lt g.minVoltage s.busVoltage } := by
  unfold lower Extremum.keep
  split <;> rfl

theorem HkStats.raise_eq (s : SpacecraftState) (g : HkStats) :
    g.raise s =
      { g with
        maxVoltage := Extremum.keep (fun x y => Ieee.lt y x) g.maxVoltage s.busVoltage } := by
  unfold raise Extremum.keep
  split <;> rfl

theorem statsOf_describes (w : World) (k : ℕ) : (statsOf w k).Describes w k := by
  induction k with
  | zero => exact ⟨rfl, rfl, Extremum.best_nil _, Extremum.best_nil _⟩
  | succ k ih =>
      have hself : ∀ x, Ieee.lt x x = false := by simp [Ieee.lt]
      rw [statsOf, HkStats.raise_eq, HkStats.lower_eq, HkStats.count_eq]
      refine ⟨?_, ?_, ?_, ?_⟩ <;> dsimp only
      · rw [countP_succ, ← ih.nominal]
        by_cases hsafe : (w.sampled k).mode = modeSafe <;> simp [World.safeAt, hsafe]
      · rw [countP_succ, ← ih.safe]
        by_cases hsafe : (w.sampled k).mode = modeSafe <;> simp [World.safeAt, hsafe]
      · rw [World.voltages_succ]
        exact ih.lowest.keep (fun _ _ _ => Ieee.lt_trans) hself _
      · rw [World.voltages_succ]
        exact ih.highest.keep (fun _ _ _ hxy hyz => Ieee.lt_trans hyz hxy) hself _

/-! ## The lines of a run -/

/-- The frames that `update_stats` is done with, the sampler being at `a` in frame `k`. -/
def SamplerAt.counted (k : ℕ) : SamplerAt → ℕ
  | .giving | .sending | .signalling => k + 1
  | _ => k

def Ipc.counted (c : Ipc) : ℕ := c.sampler.counted c.frame

/-- The lines so far are about `ks` frames each, in order. -/
structure Ipc.Reported (w : World) (c : Ipc) (ks : List ℕ) : Prop where
  lines : c.reports = ks.map (statsOf w)
  ordered : ks.Pairwise (· ≤ ·)
  bound : ∀ k ∈ ks, k ≤ c.counted

/-- The sampler never takes a frame back. -/
theorem Ipc.counted_vSamplerTask (w : World) (c : Ipc) :
    c.counted ≤ (c.vSamplerTask w).counted := by
  unfold Ipc.vSamplerTask counted
  cases hat : c.sampler with
  | taking => by_cases hfree : c.mutex = none <;> simp [hfree, hat, SamplerAt.counted]
  | sampling | counting | lowering | raising | giving | sending | signalling =>
      simp [SamplerAt.counted]

theorem Ipc.reports_vSamplerTask (w : World) (c : Ipc) :
    (c.vSamplerTask w).reports = c.reports := by
  unfold Ipc.vSamplerTask
  split
  case h_2 => split <;> rfl
  all_goals rfl

/-- Outside of `update_stats` the statistics are those of the frames it is done with. -/
theorem Ipc.Inv.stats_counted {w : World} {total : ℕ} {c : Ipc} (h : c.Inv w total)
    (hout : c.sampler.inside = false) : c.stats = statsOf w c.counted := by
  have hstats := h.stats
  unfold Ipc.counted
  cases hat : c.sampler with
  | counting | lowering | raising | giving => simp [hat, SamplerAt.inside] at hout
  | sampling | taking | sending | signalling =>
      rw [hat] at hstats
      exact hstats

theorem Ipc.Inv.counted_le {w : World} {total : ℕ} {c : Ipc} (h : c.Inv w total) :
    c.counted ≤ total := by
  unfold Ipc.counted
  rcases h.running with hrun | ⟨hdone, hat⟩
  · cases c.sampler <;> simp only [SamplerAt.counted] <;> omega
  · rw [hat]
    exact hdone.le

/-- A step without a line, and without a frame taken back. -/
theorem Ipc.Reported.silent {w : World} {c c' : Ipc} {ks : List ℕ} (h : c.Reported w ks)
    (hreports : c'.reports = c.reports) (hcounted : c.counted ≤ c'.counted) :
    c'.Reported w ks :=
  ⟨hreports.trans h.lines, h.ordered, fun k hk => (h.bound k hk).trans hcounted⟩

/-- **One step.**  A line, if there is one, is about the frames counted by then. -/
theorem Ipc.Inv.reported_step {w : World} {total : ℕ} {c : Ipc} (hinv : c.Inv w total)
    (t : IpcTask) {ks : List ℕ} (h : c.Reported w ks) :
    ∃ ks', (c.step w total t).Reported w ks' := by
  unfold Ipc.step
  split
  · exact ⟨ks, h⟩
  cases t with
  | telemetry => exact ⟨ks, h.silent rfl (Nat.le_refl _)⟩
  | safeMode =>
      refine ⟨ks, ?_⟩
      simp only [vSafeModeTask]
      split
      · exact h.silent rfl (Nat.le_refl _)
      · exact h
  | sampler =>
      refine ⟨ks, ?_⟩
      simp only
      split
      · exact h.silent (c.reports_vSamplerTask w) (c.counted_vSamplerTask w)
      · exact h
  | reporter =>
      simp only [vReporterTask]
      cases hat : c.reporter with
      | taking =>
          refine ⟨ks, ?_⟩
          simp only
          split
          · exact h.silent rfl (Nat.le_refl _)
          · exact h
      | giving => exact ⟨ks, h.silent rfl (Nat.le_refl _)⟩
      | printing =>
          have hmine : c.mutex = some .reporter := hinv.reporterOwns.2 (by simp [hat])
          have hout : c.sampler.inside = false := by simpa [hmine] using hinv.samplerOwns
          refine ⟨ks ++ [c.counted], ?_, ?_, ?_⟩
          · simp [h.lines, hinv.stats_counted hout]
          · rw [List.pairwise_append]
            refine ⟨h.ordered, List.pairwise_singleton _ _, ?_⟩
            intro k hk k' hk'
            rw [List.mem_singleton.1 hk']
            exact h.bound k hk
          · intro k hk
            rcases List.mem_append.1 hk with hk | hk
            · exact h.bound k hk
            · rw [List.mem_singleton.1 hk]
              exact Nat.le_refl _

/-- **Every line is true of the first so many frames.**  Under every schedule of the
four tasks, wherever the reporter gets the mutex: each of its lines counts the nominal
and the SAFE frames among the first `k` and gives their lowest and highest voltage, and
`k` never falls from line to line. -/
theorem reports_describe (w : World) (total : ℕ) (plan : List IpcTask) :
    ∃ ks : List ℕ, ks.Pairwise (· ≤ ·) ∧ (∀ k ∈ ks, k ≤ total) ∧
      List.Forall₂ (HkStats.Describes w) ks (runIpc w total plan).reports := by
  have hstep : ∀ (c : Ipc) t, (c.Inv w total ∧ ∃ ks, c.Reported w ks) →
      (c.step w total t).Inv w total ∧ ∃ ks, (c.step w total t).Reported w ks := by
    rintro c t ⟨hinv, ks, h⟩
    exact ⟨hinv.step t, hinv.reported_step t h⟩
  have hmain : (Ipc.main w).Inv w total ∧ ∃ ks, (Ipc.main w).Reported w ks :=
    ⟨Ipc.inv_main w total, [], rfl, List.Pairwise.nil, by simp⟩
  obtain ⟨hinv, ks, h⟩ := Schedule.invariant_run hstep hmain plan
  refine ⟨ks, h.ordered, fun k hk => (h.bound k hk).trans hinv.counted_le, ?_⟩
  have hlines : (runIpc w total plan).reports = ks.map (statsOf w) := h.lines
  rw [hlines, List.forall₂_map_right_iff]
  exact List.forall₂_same.2 fun k _ => statsOf_describes w k

end Rtos
end SpacecraftFsw
