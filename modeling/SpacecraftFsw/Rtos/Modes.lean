import SpacecraftFsw.Rtos.Ipc

/-!
# The mode in the RTOS programs

`apply_limits` reads the mode it may have to keep.  The standalone program carries
one record through its loop; the samplers declare theirs inside it, and what they
read is whatever the memory of the local holds.

* `preserved_iff` — when a sample carries the mode the standalone program has in
  the same frame.
* `modes_preserved_iff` — the same for both programs, over every schedule.
* `preserved_of_reused_slot` — why a run may not show the difference.
-/

namespace SpacecraftFsw
namespace Rtos

open Foundation

/-- A sample carries the mode of the standalone program's frame of its number: safe
if there has been an undervoltage, and nominal otherwise. -/
def Preserved (profile : ℕ → Reading) (total : ℕ) (x : HkSample) : Prop :=
  x.state.mode = latched profile x.frame ∧
    ∃ f ∈ hkMain profile total, f.frame = x.frame ∧ f.state.mode = x.state.mode

instance (profile : ℕ → Reading) (total : ℕ) (x : HkSample) :
    Decidable (Preserved profile total x) := inferInstanceAs (Decidable (_ ∧ _))

/-- The memory that iteration `k` finds says what the earlier iterations knew, if the
reading of iteration `k` leaves that open. -/
def Remembers (w : World) (k : ℕ) : Prop :=
  ¬ (w.profile k).under → ((w.stack k).mode = modeSafe ↔ ∃ j < k, (w.profile j).under)

theorem sampled_mode (w : World) (k : ℕ) :
    (w.sampled k).mode = if (w.profile k).under ∨ (w.stack k).mode = modeSafe then modeSafe
      else modeNominal := applyLimits_mode (w.profile k) (w.stack k)

theorem sampled_mode_eq_safe (w : World) (k : ℕ) :
    (w.sampled k).mode = modeSafe ↔ (w.profile k).under ∨ (w.stack k).mode = modeSafe := by
  rw [sampled_mode]
  split
  · rename_i hsafe
    simp [hsafe]
  · rename_i hnone
    simp only [hnone, iff_false]
    decide

/-- Two modes that are safe or nominal agree if they agree on being safe. -/
theorem sampled_mode_eq_latched (w : World) (k : ℕ) :
    (w.sampled k).mode = latched w.profile k ↔ Remembers w k := by
  have hiff : (w.sampled k).mode = latched w.profile k ↔
      ((w.sampled k).mode = modeSafe ↔ latched w.profile k = modeSafe) := by
    rw [sampled_mode, latched]
    split <;> split <;> decide
  rw [hiff, sampled_mode_eq_safe, latched_eq_safe, under_upTo_iff, Remembers]
  by_cases hunder : (w.profile k).under <;> simp [hunder]

/-- **One sample.** -/
theorem preserved_iff (w : World) {total k : ℕ} (hk : k < total) :
    Preserved w.profile total (w.sample k) ↔ Remembers w k := by
  obtain ⟨hframes, hmodes⟩ := hkMain_mode w.profile total
  rw [← sampled_mode_eq_latched]
  constructor
  · exact fun h => h.1
  · intro hmode
    refine ⟨hmode, ?_⟩
    have hmem : k ∈ (hkMain w.profile total).map HkFrame.frame := by
      simpa [hframes] using hk
    obtain ⟨f, hf, hnumber⟩ := List.mem_map.1 hmem
    refine ⟨f, hf, hnumber, ?_⟩
    rw [hmodes f hf, hnumber]
    exact hmode.symm

/-! ## The samples of a run -/

theorem Pipeline.Inv.mem_sent {w : World} {total : ℕ} {p : Pipeline} (h : p.Inv w total)
    {x : HkSample} : x ∈ p.channel.sent ↔ ∃ k < p.frame, w.sample k = x := by
  rw [h.sound.sampled, h.sent]
  simp

theorem Ipc.Inv.mem_sent {w : World} {total : ℕ} {c : Ipc} (h : c.Inv w total)
    {x : HkSample} : x ∈ c.channel.sent ↔ ∃ k < c.sampler.sent c.frame, w.sample k = x := by
  rw [h.sound.sampled, h.sent]
  simp

theorem Ipc.Inv.sent_le {w : World} {total : ℕ} {c : Ipc} (h : c.Inv w total) :
    c.sampler.sent c.frame ≤ total := by
  rcases h.running with hrun | ⟨hdone, hat⟩
  · cases c.sampler <;> simp only [SamplerAt.sent] <;> omega
  · simp [hat, SamplerAt.sent, hdone]

/-- A sampler that is scheduled alone. -/
theorem sampler_alone (w : World) {total k : ℕ} (hk : k ≤ total) :
    ∃ plan, (runPipeline w total plan).frame = k ∧
      (runPipeline w total plan).channel.ended = false := by
  induction k with
  | zero => exact ⟨[], rfl, rfl⟩
  | succ k ih =>
      obtain ⟨plan, hframe, hended⟩ := ih (by omega)
      refine ⟨plan ++ [.sampler], ?_⟩
      have hrun : k < total := by omega
      rw [runPipeline, List.foldl_append, ← runPipeline]
      simp [Pipeline.step, Pipeline.vSamplerTask, hframe, hended, hrun]

theorem ipc_sampler_alone (w : World) {total k : ℕ} (hk : k ≤ total) :
    ∃ plan, (runIpc w total plan).frame = k ∧ (runIpc w total plan).sampler = .sampling ∧
      (runIpc w total plan).mutex = none ∧ (runIpc w total plan).channel.ended = false := by
  induction k with
  | zero => exact ⟨[], rfl, rfl, rfl, rfl⟩
  | succ k ih =>
      obtain ⟨plan, hframe, hat, hfree, hended⟩ := ih (by omega)
      refine ⟨plan ++ List.replicate 8 .sampler, ?_⟩
      have hrun : k < total := by omega
      rw [runIpc, List.foldl_append, ← runIpc]
      simp [List.replicate, Ipc.step, Ipc.vSamplerTask, hframe, hat, hfree, hended, hrun]

/-- **The modes of both programs.**  A sample carries the standalone program's mode
exactly if the memory of the local said the right thing; so a program preserves the
modes exactly if it does in every frame. -/
theorem modes_preserved_iff (w : World) (total : ℕ) :
    (∀ plan, ∀ x ∈ (runPipeline w total plan).channel.sent,
        (Preserved w.profile total x ↔ Remembers w x.frame)) ∧
      (∀ plan, ∀ x ∈ (runIpc w total plan).channel.sent,
        (Preserved w.profile total x ↔ Remembers w x.frame)) ∧
      ((∀ plan, ∀ x ∈ (runPipeline w total plan).channel.sent, Preserved w.profile total x) ↔
        ∀ k < total, Remembers w k) ∧
      ((∀ plan, ∀ x ∈ (runIpc w total plan).channel.sent, Preserved w.profile total x) ↔
        ∀ k < total, Remembers w k) := by
  have hpipeline : ∀ plan, ∀ x ∈ (runPipeline w total plan).channel.sent,
      x.frame < total ∧ (Preserved w.profile total x ↔ Remembers w x.frame) := by
    intro plan x hx
    have hinv := runPipeline_inv w total plan
    obtain ⟨k, hk, rfl⟩ := hinv.mem_sent.1 hx
    have hlt : k < total := hk.trans_le hinv.bound
    exact ⟨hlt, preserved_iff w hlt⟩
  have hipc : ∀ plan, ∀ x ∈ (runIpc w total plan).channel.sent,
      x.frame < total ∧ (Preserved w.profile total x ↔ Remembers w x.frame) := by
    intro plan x hx
    have hinv := runIpc_inv w total plan
    obtain ⟨k, hk, rfl⟩ := hinv.mem_sent.1 hx
    have hlt : k < total := hk.trans_le hinv.sent_le
    exact ⟨hlt, preserved_iff w hlt⟩
  refine ⟨fun plan x hx => (hpipeline plan x hx).2, fun plan x hx => (hipc plan x hx).2, ?_, ?_⟩
  · constructor
    · intro h k hk
      obtain ⟨plan, hframe, -⟩ := sampler_alone w (Nat.succ_le_of_lt hk)
      have hmem : w.sample k ∈ (runPipeline w total plan).channel.sent :=
        (runPipeline_inv w total plan).mem_sent.2 ⟨k, by omega, rfl⟩
      exact (preserved_iff w hk).1 (h plan _ hmem)
    · intro h plan x hx
      exact (hpipeline plan x hx).2.2 (h _ (hpipeline plan x hx).1)
  · constructor
    · intro h k hk
      obtain ⟨plan, hframe, hat, -⟩ := ipc_sampler_alone w (Nat.succ_le_of_lt hk)
      have hmem : w.sample k ∈ (runIpc w total plan).channel.sent :=
        (runIpc_inv w total plan).mem_sent.2
          ⟨k, by rw [hat, hframe]; exact Nat.lt_succ_self k, rfl⟩
      exact (preserved_iff w hk).1 (h plan _ hmem)
    · intro h plan x hx
      exact (hipc plan x hx).2.2 (h _ (hipc plan x hx).1)

/-- 5.0 V in the first frame and 8.0 V from then on, on a stack of zeros. -/
def dipThenRecovery : World where
  profile k := ⟨if k = 0 then 0x40A00000#32 else 0x41000000#32, 70, 0, 0⟩
  stack _ := ⟨0, 0, 0, 0, modeBoot⟩
  tick k := BitVec.ofNat 32 (200 * k)

/-- The second frame is nominal in both programs, and safe in the standalone one. -/
theorem safe_not_latched :
    (hkMain dipThenRecovery.profile 2).map (·.state.mode) = [modeSafe, modeSafe] ∧
      (runPipeline dipThenRecovery 2 [.sampler, .sampler]).channel.sent.map (·.state.mode) =
        [modeSafe, modeNominal] ∧
      (runIpc dipThenRecovery 2 (List.replicate 16 .sampler)).channel.sent.map (·.state.mode) =
        [modeSafe, modeNominal] ∧
      (¬ ∀ x ∈ (runPipeline dipThenRecovery 2 [.sampler, .sampler]).channel.sent,
        Preserved dipThenRecovery.profile 2 x) ∧
      ¬ ∀ x ∈ (runIpc dipThenRecovery 2 (List.replicate 16 .sampler)).channel.sent,
        Preserved dipThenRecovery.profile 2 x := by
  decide +kernel

/-! ## Reused memory -/

/-- Where each iteration finds in its local what the one before left there, and the
first does not find the safe mode, no frame shows a difference. -/
theorem preserved_of_reused_slot (w : World) (hfirst : (w.stack 0).mode ≠ modeSafe)
    (hreused : ∀ k, (w.stack (k + 1)).mode = (w.sampled k).mode) (k : ℕ) : Remembers w k := by
  have hsafe : (w.stack k).mode = modeSafe ↔ ∃ j < k, (w.profile j).under := by
    induction k with
    | zero => simp [hfirst]
    | succ k ih =>
        rw [hreused, sampled_mode_eq_safe, ih, ← under_upTo_iff]
        simp only [Nat.lt_succ_iff]
  exact fun _ => hsafe

end Rtos
end SpacecraftFsw
