import SpacecraftFsw.Rtos.Statistics

/-!
# The SAFE-mode signal

`xSafeModeSem` is binary: signals that arrive before the handler gets to run are one.
The handler answers as often as it gets to run with a SAFE frame gone by since it last
did, and no signal is lost or answered twice.

* `handlerTurns` — how far the sampler was whenever the handler ran.
* `Ipc.Inv.pending_step` — what one step does to a signal that waits.
* `safe_frames_answered` — the answers of any run.
-/

namespace SpacecraftFsw
namespace Rtos

open Foundation

/-- One of the frames from `a` on and below `b` is sampled as SAFE. -/
def World.SafeBetween (w : World) (a b : ℕ) : Prop := ∃ k, a ≤ k ∧ k < b ∧ w.safeAt k = true

instance (w : World) (a b : ℕ) : Decidable (w.SafeBetween a b) :=
  decidable_of_iff (∃ k ∈ List.range' a (b - a), w.safeAt k = true) <| by
    simp only [World.SafeBetween, List.mem_range'_1, and_assoc]
    refine exists_congr fun k => and_congr_right fun hk => and_congr_left fun _ => ?_
    omega

/-- The frames gone by at each turn of the handler, while the scheduler has not ended. -/
def handlerTurns (w : World) (total : ℕ) : Ipc → List IpcTask → List ℕ
  | _, [] => []
  | c, t :: plan =>
    (if t = .safeMode ∧ c.channel.ended = false then [c.frame] else []) ++
      handlerTurns w total (c.step w total t) plan

/-- The turns since frame `a` that find a SAFE frame gone by since the one before. -/
def answersDue (w : World) : ℕ → List ℕ → ℕ
  | _, [] => 0
  | a, b :: turns => (if w.SafeBetween a b then 1 else 0) + answersDue w b turns

/-! ## One step -/

theorem World.not_safeBetween_self (w : World) (a : ℕ) : ¬ w.SafeBetween a a := by
  rintro ⟨k, hle, hlt, -⟩
  omega

theorem World.safeBetween_succ {w : World} {a b : ℕ} (hab : a ≤ b) :
    w.SafeBetween a (b + 1) ↔ w.SafeBetween a b ∨ w.safeAt b = true := by
  constructor
  · rintro ⟨k, hle, hlt, hsafe⟩
    rcases Nat.lt_succ_iff_lt_or_eq.1 hlt with hlt | rfl
    · exact .inl ⟨k, hle, hlt, hsafe⟩
    · exact .inr hsafe
  · rintro (⟨k, hle, hlt, hsafe⟩ | hsafe)
    · exact ⟨k, hle, by omega, hsafe⟩
    · exact ⟨b, hab, by omega, hsafe⟩

/-- The semaphore is given exactly if a SAFE frame has gone by since frame `a`. -/
structure Ipc.Pending (w : World) (a : ℕ) (c : Ipc) : Prop where
  since : a ≤ c.frame
  given : c.safeModeSem = true ↔ w.SafeBetween a c.frame

/-- A step that leaves the semaphore and the frames alone. -/
theorem Ipc.Pending.unchanged {w : World} {a : ℕ} {c c' : Ipc} (h : c.Pending w a)
    (hsem : c'.safeModeSem = c.safeModeSem) (hframe : c'.frame = c.frame) : c'.Pending w a := by
  refine ⟨hframe ▸ h.since, ?_⟩
  rw [hsem, hframe]
  exact h.given

/-- A step of the sampler gives the semaphore at the end of a SAFE frame, and answers
nothing. -/
theorem Ipc.Inv.pending_sampler {w : World} {total : ℕ} {c : Ipc} (hinv : c.Inv w total)
    {a : ℕ} (h : c.Pending w a) :
    (c.vSamplerTask w).Pending w a ∧ (c.vSamplerTask w).responses = c.responses := by
  unfold Ipc.vSamplerTask
  cases hat : c.sampler with
  | taking =>
      simp only
      split
      · exact ⟨h.unchanged rfl rfl, rfl⟩
      · exact ⟨h, rfl⟩
  | sampling | counting | lowering | raising | giving | sending =>
      exact ⟨h.unchanged rfl rfl, rfl⟩
  | signalling =>
      have hs : c.s = w.sampled c.frame := hinv.sampled (by simp [hat])
      refine ⟨⟨Nat.le_succ_of_le h.since, ?_⟩, rfl⟩
      rw [World.safeBetween_succ h.since, ← h.given, Bool.or_eq_true, hs, World.safeAt]

/-- **One step.**  A turn of the handler answers what waits and starts anew; no other
step answers anything. -/
theorem Ipc.Inv.pending_step {w : World} {total : ℕ} {c : Ipc} (hinv : c.Inv w total)
    (t : IpcTask) {a : ℕ} (h : c.Pending w a) :
    (t = .safeMode ∧ c.channel.ended = false ∧ (c.step w total t).Pending w c.frame ∧
      (c.step w total t).responses = c.responses + if w.SafeBetween a c.frame then 1 else 0) ∨
    (¬ (t = .safeMode ∧ c.channel.ended = false) ∧ (c.step w total t).Pending w a ∧
      (c.step w total t).responses = c.responses) := by
  unfold Ipc.step
  by_cases hended : c.channel.ended = true
  · rw [if_pos hended]
    exact .inr ⟨by simp [hended], h, rfl⟩
  · rw [if_neg hended]
    rw [Bool.not_eq_true] at hended
    cases t with
    | telemetry => exact .inr ⟨by simp, h.unchanged rfl rfl, rfl⟩
    | sampler =>
        refine .inr ⟨by simp, ?_⟩
        simp only
        split
        · exact hinv.pending_sampler h
        · exact ⟨h, rfl⟩
    | reporter =>
        refine .inr ⟨by simp, ?_⟩
        simp only [Ipc.vReporterTask]
        split
        · split
          · exact ⟨h.unchanged rfl rfl, rfl⟩
          · exact ⟨h, rfl⟩
        · exact ⟨h.unchanged rfl rfl, rfl⟩
        · exact ⟨h.unchanged rfl rfl, rfl⟩
    | safeMode =>
        refine .inl ⟨rfl, hended, ?_⟩
        have hnone := w.not_safeBetween_self c.frame
        simp only [Ipc.vSafeModeTask]
        split
        · rename_i hgiven
          rw [if_pos (h.given.1 hgiven)]
          exact ⟨⟨Nat.le_refl _, by simpa using hnone⟩, rfl⟩
        · rename_i hnot
          rw [if_neg (h.given.not.1 hnot)]
          exact ⟨⟨Nat.le_refl _, iff_of_false hnot hnone⟩, rfl⟩

/-! ## Runs -/

/-- The answers of a run from any reachable state. -/
theorem Ipc.Inv.answered_run {w : World} {total : ℕ} (plan : List IpcTask) :
    ∀ {c : Ipc} {a : ℕ}, c.Inv w total → c.Pending w a →
      (plan.foldl (Ipc.step w total) c).responses =
          c.responses + answersDue w a (handlerTurns w total c plan) ∧
        (plan.foldl (Ipc.step w total) c).Pending w
          ((handlerTurns w total c plan).getLastD a) := by
  induction plan with
  | nil => exact fun _ h => ⟨rfl, h⟩
  | cons t plan ih =>
      intro c a hinv h
      rw [List.foldl_cons, handlerTurns]
      rcases hinv.pending_step t h with ⟨rfl, hended, hnext, hanswer⟩ | ⟨hother, hnext, hanswer⟩
      · -- a turn of the handler
        obtain ⟨hcount, hlast⟩ := ih (hinv.step _) hnext
        rw [if_pos ⟨rfl, hended⟩, List.singleton_append, answersDue, hcount, hanswer]
        refine ⟨by omega, ?_⟩
        rwa [List.getLastD_cons]
      · obtain ⟨hcount, hlast⟩ := ih (hinv.step _) hnext
        rw [if_neg hother, List.nil_append, hcount, hanswer]
        exact ⟨rfl, hlast⟩

/-- **Each SAFE frame is answered at the next turn of the handler, and only there.**
Under every schedule of the four tasks the handler has responded as often as it had a
turn with a SAFE frame gone by since its turn before; and the semaphore is given exactly
if one has gone by since its last. -/
theorem safe_frames_answered (w : World) (total : ℕ) (plan : List IpcTask) :
    let c := runIpc w total plan
    let turns := handlerTurns w total (Ipc.main w) plan
    c.responses = answersDue w 0 turns ∧
      (c.safeModeSem = true ↔ w.SafeBetween (turns.getLastD 0) c.frame) := by
  have hmain : (Ipc.main w).Pending w 0 :=
    ⟨Nat.le_refl 0, iff_of_false (by simp [Ipc.main]) (w.not_safeBetween_self 0)⟩
  obtain ⟨hcount, hlast⟩ := Ipc.Inv.answered_run plan (Ipc.inv_main w total) hmain
  exact ⟨by rw [runIpc, hcount, Ipc.main, Nat.zero_add], hlast.given⟩

end Rtos
end SpacecraftFsw
