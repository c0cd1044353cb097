import SpacecraftFsw.Fdir.Grammar

/-!
# Persistence and escalation over histories

When FDIR confirms a fault and when it gives up, said of the history of verdicts
and not of its counters.

* `Confirmed` — the condition on the history; `confirm_iff` says that FDIR
  confirms a fault exactly then.
* `Episode` — what follows a confirmation, again by the verdicts alone;
  `episode_of_confirmed` proves it of every confirmation.
* `fdir_persistence` — both, and the re-confirmation after a ground exit.
-/

namespace SpacecraftFsw
namespace Fdir

open Tmtc Obdh

/-! ## The streak -/

theorem need_toNat (c : FdirCtx) : c.need.toNat = max 1 c.confirmCycles.toNat := by
  rw [FdirCtx.need]
  split
  · next h => rw [h]; rfl
  · next h => bv_omega

/-- The streak is short of a confirmation, and empty outside NOMINAL. -/
structure StreakInv (c : FdirCtx) : Prop where
  lt : c.faultStreak.toNat < c.need.toNat
  zero : c.state ≠ .nominal → c.faultStreak = 0

theorem need_pos (c : FdirCtx) : 0 < c.need.toNat := by
  rw [need_toNat]
  omega

/-- The streak never reaches the point where it saturates. -/
theorem StreakInv.streakUp {c : FdirCtx} (h : StreakInv c) :
    (streakUp c.faultStreak).toNat = c.faultStreak.toNat + 1 := by
  have hlt := h.lt
  have hneed := c.need.isLt
  rw [Fdir.streakUp, if_pos (by bv_omega)]
  bv_omega

theorem streakInv_of_zero {c : FdirCtx} (h : c.faultStreak = 0) : StreakInv c where
  lt := by
    rw [h]
    exact need_pos c
  zero := fun _ => h

/-- A confirmation takes exactly the last reading that is missing. -/
theorem StreakInv.need_le_iff {c : FdirCtx} (h : StreakInv c) :
    c.need ≤ Fdir.streakUp c.faultStreak ↔ c.faultStreak.toNat + 1 = c.need.toNat := by
  have hlt := h.lt
  rw [BitVec.le_def, h.streakUp]
  omega

theorem FdirTrans.streakInv {m m' : FdirMem} {worst : Health} {sources : U8}
    (hm : StreakInv m.ctx) (h : FdirTrans m worst sources m') : StreakInv m'.ctx := by
  cases h with
  | confirmed hs hw hneed => exact streakInv_of_zero rfl
  | filtered hs hw hneed =>
      refine ⟨?_, fun h => absurd hs h⟩
      exact hneed
  | warned hs hw hprev | calm hs hw hprev => exact streakInv_of_zero rfl
  | recovered hs hw | safeEntered hs hw ha | attempted hs hw ha =>
      have hactive : m.ctx.state ≠ .nominal := fun h => FdirState.noConfusion (hs.symm.trans h)
      exact streakInv_of_zero (hm.zero hactive)
  | safe hs => exact ⟨hm.lt, hm.zero⟩

theorem streakInv_exitSafe (m : FdirMem) : StreakInv m.exitSafe.ctx := streakInv_of_zero rfl

theorem OpTrans.streakInv {m m' : FdirMem} {op : FdirOp} (hm : StreakInv m.ctx)
    (h : OpTrans m op m') : StreakInv m'.ctx := by
  cases h with
  | refused hs => exact hm
  | granted hs => exact streakInv_exitSafe m
  | step worst sources m' h => exact h.streakInv hm

/-- `confirm_cycles` is fixed. -/
theorem FdirTrans.confirmCycles {m m' : FdirMem} {worst : Health} {sources : U8}
    (h : FdirTrans m worst sources m') : m'.ctx.confirmCycles = m.ctx.confirmCycles := by
  cases h <;> rfl

theorem OpTrans.confirmCycles {m m' : FdirMem} {op : FdirOp} (h : OpTrans m op m') :
    m'.ctx.confirmCycles = m.ctx.confirmCycles := by
  cases h with
  | refused hs => rfl
  | granted hs => rfl
  | step worst sources m' h => exact h.confirmCycles

/-! ## Histories -/

/-- The verdicts of the health steps in a history. -/
def verdicts (ops : List FdirOp) : List Health :=
  ops.filterMap fun op => match op with
    | .step worst _ => some worst
    | .exitSafe => none

@[simp] theorem verdicts_nil : verdicts [] = [] := rfl

@[simp] theorem verdicts_append (ops ops' : List FdirOp) :
    verdicts (ops ++ ops') = verdicts ops ++ verdicts ops' := List.filterMap_append

@[simp] theorem verdicts_step (worst : Health) (sources : U8) :
    verdicts [.step worst sources] = [worst] := rfl

@[simp] theorem verdicts_exitSafe : verdicts [.exitSafe] = [] := rfl

/-- The number of `recover` calls made so far. -/
def recoverCalls (m : FdirMem) : ℕ :=
  m.calls.countP fun call => match call with
    | .recover _ _ => true
    | .enterSafe _ => false

/-- A call that leaves FDIR in NOMINAL either empties the streak or extends the
stay, the streak growing with the faulty verdicts. -/
theorem OpTrans.streak {m m' : FdirMem} {op : FdirOp} (hm : StreakInv m.ctx)
    (h : OpTrans m op m') (hs' : m'.ctx.state = .nominal) :
    m'.ctx.faultStreak = 0 ∨ (m.ctx.state = .nominal ∧
      List.replicate m'.ctx.faultStreak.toNat Health.fault =
        List.replicate m.ctx.faultStreak.toNat .fault ++ verdicts [op]) := by
  cases h with
  | refused hs => exact .inr ⟨hs', (List.append_nil _).symm⟩
  | granted hs => exact .inl rfl
  | step worst sources m' h =>
      cases h with
      | confirmed hs hw hneed | warned hs hw hprev | calm hs hw hprev => exact .inl rfl
      | filtered hs hw hneed =>
          refine .inr ⟨hs, ?_⟩
          change List.replicate (streakUp m.ctx.faultStreak).toNat Health.fault = _
          rw [hm.streakUp, List.replicate_succ', hw, verdicts_step]
      | recovered hs hw => exact .inl (hm.zero (by rw [hs]; exact FdirState.noConfusion))
      | safeEntered hs hw ha => cases hs'
      | attempted hs hw ha => exact absurd (hs.symm.trans hs') FdirState.noConfusion
      | safe hs => exact absurd (hs.symm.trans hs') FdirState.noConfusion

/-- Faulty verdicts that leave FDIR in NOMINAL drive the streak up. -/
theorem OpTrans.streak_grows {m m' : FdirMem} {op : FdirOp} (hm : StreakInv m.ctx)
    (h : OpTrans m op m') (hs : m.ctx.state = .nominal) (hs' : m'.ctx.state = .nominal)
    (hfault : ∀ v ∈ verdicts [op], v = .fault) :
    m'.ctx.faultStreak.toNat = m.ctx.faultStreak.toNat + (verdicts [op]).length := by
  cases h with
  | refused _ => rfl
  | granted hsafe => exact absurd (hs.symm.trans hsafe) FdirState.noConfusion
  | step worst sources m' h =>
      have hw : worst = .fault := hfault worst (List.mem_singleton.2 rfl)
      cases h with
      | confirmed _ _ _ => cases hs'
      | filtered _ _ _ => exact hm.streakUp
      | warned _ hwarn _ => exact absurd (hw.symm.trans hwarn) Health.noConfusion
      | calm _ hcalm _ => exact absurd hw hcalm
      | recovered hr _ | safeEntered hr _ _ | attempted hr _ _ | safe hr =>
          exact absurd (hs.symm.trans hr) FdirState.noConfusion

/-- From NOMINAL, a step confirms exactly on the last faulty reading missing. -/
theorem FdirTrans.recovering_iff {m m' : FdirMem} {worst : Health} {sources : U8}
    (hm : StreakInv m.ctx) (h : FdirTrans m worst sources m') (hs : m.ctx.state = .nominal) :
    m'.ctx.state = .recovering ↔
      worst = .fault ∧ m.ctx.faultStreak.toNat + 1 = m.ctx.need.toNat := by
  rw [← hm.need_le_iff]
  cases h with
  | confirmed _ hw hneed => exact iff_of_true rfl ⟨hw, hneed⟩
  | filtered _ hw hneed =>
      refine iff_of_false (fun h => absurd (hs.symm.trans h) FdirState.noConfusion) ?_
      exact fun h => BitVec.not_le.2 hneed h.2
  | warned _ hw _ =>
      refine iff_of_false (fun h => absurd (hs.symm.trans h) FdirState.noConfusion) ?_
      intro h
      exact absurd (h.1.symm.trans hw) Health.noConfusion
  | calm _ hw _ =>
      refine iff_of_false (fun h => absurd (hs.symm.trans h) FdirState.noConfusion) ?_
      intro h
      exact hw h.1
  | recovered hr _ | safeEntered hr _ _ | attempted hr _ _ | safe hr =>
      exact absurd (hs.symm.trans hr) FdirState.noConfusion

/-- A step in NOMINAL stays there or starts an episode. -/
theorem FdirTrans.of_nominal {m m' : FdirMem} {worst : Health} {sources : U8}
    (h : FdirTrans m worst sources m') (hs : m.ctx.state = .nominal) :
    m'.ctx.state = .nominal ∨ (m'.ctx.state = .recovering ∧ m'.ctx.attempts = 0) := by
  cases h with
  | confirmed _ _ _ => exact .inr ⟨rfl, rfl⟩
  | filtered _ _ _ | warned _ _ _ | calm _ _ _ => exact .inl hs
  | recovered hr _ | safeEntered hr _ _ | attempted hr _ _ | safe hr =>
      exact absurd (hs.symm.trans hr) FdirState.noConfusion

/-- Fewer faulty verdicts than a confirmation takes leave FDIR in NOMINAL. -/
theorem OpTrans.nominal_stays {m m' : FdirMem} {op : FdirOp} (hm : StreakInv m.ctx)
    (h : OpTrans m op m') (hs : m.ctx.state = .nominal)
    (hlen : m.ctx.faultStreak.toNat + (verdicts [op]).length < m.ctx.need.toNat) :
    m'.ctx.state = .nominal := by
  cases h with
  | refused _ => exact hs
  | granted _ => rfl
  | step worst sources m' h =>
      change _ + 1 < _ at hlen
      rcases h.of_nominal hs with hs' | ⟨hs', _⟩
      · exact hs'
      · have hlast := ((h.recovering_iff hm hs).1 hs').2
        omega

/-! ## Recovery -/

/-- What a step in RECOVERING does, by its verdict and the attempts made. -/
theorem FdirTrans.of_recovering {m m' : FdirMem} {worst : Health} {sources : U8}
    (hb : Bounded m.ctx) (h : FdirTrans m worst sources m') (hs : m.ctx.state = .recovering) :
    (worst = .ok ∧ m'.ctx.state = .nominal ∧ recoverCalls m' = recoverCalls m) ∨
    (worst ≠ .ok ∧ m.ctx.attempts.toNat = 3 ∧ m'.ctx.state = .safe ∧
      recoverCalls m' = recoverCalls m) ∨
    (worst ≠ .ok ∧ m.ctx.attempts.toNat < 3 ∧ m'.ctx.state = .recovering ∧
      m'.ctx.attempts.toNat = m.ctx.attempts.toNat + 1 ∧
      recoverCalls m' = recoverCalls m + if m.ctx.hooks.recover then 1 else 0) := by
  cases h with
  | confirmed hn _ _ | filtered hn _ _ | warned hn _ _ | calm hn _ _ | safe hn =>
      exact absurd (hs.symm.trans hn) FdirState.noConfusion
  | recovered _ hw => exact .inl ⟨hw, rfl, rfl⟩
  | safeEntered _ hw ha =>
      refine .inr (.inl ⟨hw, ?_, rfl, ?_⟩)
      · rw [hb.exhausted ha]
        rfl
      · rw [recoverCalls, FdirMem.saw_calls, FdirMem.callIf_calls]
        cases m.ctx.hooks.enterSafe <;> simp [recoverCalls]
  | attempted _ hw ha =>
      obtain ⟨hsucc, hlt, _⟩ := attempts_succ ha
      refine .inr (.inr ⟨hw, hlt, hs, hsucc, ?_⟩)
      · rw [recoverCalls, FdirMem.saw_calls, FdirMem.emit_calls, FdirMem.callIf_calls]
        cases m.ctx.hooks.recover <;> simp [recoverCalls]

/-- A call in RECOVERING that brings no OK, with an attempt left for its verdict. -/
theorem OpTrans.recovering_stays {m m' : FdirMem} {op : FdirOp} (hb : Bounded m.ctx)
    (h : OpTrans m op m') (hs : m.ctx.state = .recovering) (hbad : ∀ v ∈ verdicts [op], v ≠ .ok)
    (hlen : m.ctx.attempts.toNat + (verdicts [op]).length ≤ 3) :
    m'.ctx.state = .recovering ∧
      m'.ctx.attempts.toNat = m.ctx.attempts.toNat + (verdicts [op]).length ∧
      recoverCalls m' =
        recoverCalls m + if m.ctx.hooks.recover then (verdicts [op]).length else 0 := by
  cases h with
  | refused _ =>
      refine ⟨hs, rfl, ?_⟩
      cases m.ctx.hooks.recover <;> rfl
  | granted hsafe => exact absurd (hs.symm.trans hsafe) FdirState.noConfusion
  | step worst sources m' h =>
      change _ + 1 ≤ 3 at hlen
      have hw : worst ≠ .ok := hbad worst (List.mem_singleton.2 rfl)
      rcases h.of_recovering hb hs with ⟨hok, _⟩ | ⟨_, hthree, _⟩ | ⟨_, _, hs', ha, hcalls⟩
      · exact absurd hok hw
      · omega
      · exact ⟨hs', ha, hcalls⟩

/-- The steps SAFE is away. -/
def toSafe (c : FdirCtx) : ℕ :=
  match c.state with
  | .nominal => 5
  | .recovering => 4 - c.attempts.toNat
  | .safe => 0

theorem toSafe_nominal {c : FdirCtx} (h : c.state = .nominal) : toSafe c = 5 := by rw [toSafe, h]

theorem toSafe_recovering {c : FdirCtx} (h : c.state = .recovering) :
    toSafe c = 4 - c.attempts.toNat := by
  rw [toSafe, h]

theorem toSafe_safe {c : FdirCtx} (h : c.state = .safe) : toSafe c = 0 := by rw [toSafe, h]

/-- One step comes at most one step closer to SAFE. -/
theorem OpTrans.toSafe_le {m m' : FdirMem} {op : FdirOp} (hb : Bounded m.ctx)
    (h : OpTrans m op m') : toSafe m.ctx ≤ toSafe m'.ctx + (verdicts [op]).length := by
  cases h with
  | refused hs => exact Nat.le_refl _
  | granted hs =>
      rw [toSafe_safe hs]
      exact Nat.zero_le _
  | step worst sources m' h =>
      change _ ≤ _ + 1
      cases hs : m.ctx.state with
      | safe =>
          rw [toSafe_safe hs]
          exact Nat.zero_le _
      | nominal =>
          rw [toSafe_nominal hs]
          rcases h.of_nominal hs with hs' | ⟨hs', ha⟩
          · rw [toSafe_nominal hs']
            exact Nat.le_succ 5
          · rw [toSafe_recovering hs', ha]
            exact Nat.le_refl 5
      | recovering =>
          rw [toSafe_recovering hs]
          rcases h.of_recovering hb hs with ⟨_, hs', _⟩ | ⟨_, hthree, hs', _⟩ | ⟨_, hlt, hs', ha, _⟩
          · rw [toSafe_nominal hs']
            omega
          · rw [toSafe_safe hs']
            omega
          · rw [toSafe_recovering hs', ha]
            omega

section Run

variable (b : Bus FdirMem) (hooks : Option FdirHooks) (confirmCycles : U8)

/-- FDIR's memory after a history. -/
def memAfter (ops : List FdirOp) : FdirMem := (fdirRun b hooks confirmCycles ops).user

/-- FDIR's state after a history. -/
def stateAfter (ops : List FdirOp) : FdirState := (memAfter b hooks confirmCycles ops).ctx.state

/-- The readings a confirmation takes. -/
def needed : ℕ := max 1 confirmCycles.toNat

/-- The step after `ops`, with verdict `worst`, and the `needed - 1` steps before
it are all faulty, and they were all taken in the present stay in NOMINAL. -/
def Confirmed (ops : List FdirOp) (worst : Health) : Prop :=
  worst = .fault ∧ ∃ before stay, ops = before ++ stay ∧
    (∀ p, p <+: stay → stateAfter b hooks confirmCycles (before ++ p) = .nominal) ∧
    verdicts stay = List.replicate (needed confirmCycles - 1) .fault

theorem memAfter_trans (ops : List FdirOp) (op : FdirOp) :
    OpTrans (memAfter b hooks confirmCycles ops) op
      (memAfter b hooks confirmCycles (ops ++ [op])) :=
  fdirRun_trans b hooks confirmCycles ops op

theorem memAfter_step (ops : List FdirOp) (worst : Health) (sources : U8) :
    FdirTrans (memAfter b hooks confirmCycles ops) worst sources
      (memAfter b hooks confirmCycles (ops ++ [FdirOp.step worst sources])) :=
  (memAfter_trans b hooks confirmCycles ops _).of_step

theorem streakInv_after (ops : List FdirOp) : StreakInv (memAfter b hooks confirmCycles ops).ctx :=
  fdirRun_induct (P := fun m => StreakInv m.ctx) b hooks confirmCycles (streakInv_of_zero rfl)
    (fun _ _ _ h ht => ht.streakInv h) ops

theorem bounded_after (ops : List FdirOp) : Bounded (memAfter b hooks confirmCycles ops).ctx :=
  (trace_run b hooks confirmCycles ops).bounded

theorem need_after (ops : List FdirOp) :
    (memAfter b hooks confirmCycles ops).ctx.need.toNat = needed confirmCycles := by
  have hconfirm : (memAfter b hooks confirmCycles ops).ctx.confirmCycles = confirmCycles := by
    apply fdirRun_induct (P := fun m => m.ctx.confirmCycles = confirmCycles)
    · rfl
    · intro m op m' h ht
      rw [ht.confirmCycles, h]
  rw [need_toNat, hconfirm, needed]

/-- While NOMINAL lasts, the streak counts faulty readings at the end of it. -/
theorem stay_of_nominal (ops : List FdirOp)
    (hs : stateAfter b hooks confirmCycles ops = .nominal) :
    ∃ before stay, ops = before ++ stay ∧
      (∀ p, p <+: stay → stateAfter b hooks confirmCycles (before ++ p) = .nominal) ∧
      verdicts stay =
        List.replicate (memAfter b hooks confirmCycles ops).ctx.faultStreak.toNat .fault := by
  -- a stay that has just begun
  have hfresh : ∀ ops, stateAfter b hooks confirmCycles ops = .nominal →
      (memAfter b hooks confirmCycles ops).ctx.faultStreak = 0 → ∃ before stay,
        ops = before ++ stay ∧
        (∀ p, p <+: stay → stateAfter b hooks confirmCycles (before ++ p) = .nominal) ∧
        verdicts stay =
          List.replicate (memAfter b hooks confirmCycles ops).ctx.faultStreak.toNat .fault := by
    intro ops hs hzero
    refine ⟨ops, [], (List.append_nil _).symm, ?_, ?_⟩
    · intro p hp
      rw [List.prefix_nil.1 hp, List.append_nil, hs]
    · rw [hzero]
      rfl
  induction ops using List.reverseRecOn with
  | nil => exact hfresh [] hs rfl
  | append_singleton ops op ih =>
      rcases (memAfter_trans b hooks confirmCycles ops op).streak
        (streakInv_after b hooks confirmCycles ops) hs with hzero | ⟨hprev, hstreak⟩
      · exact hfresh _ hs hzero
      · obtain ⟨before, stay, hops, hstay, hverdicts⟩ := ih hprev
        refine ⟨before, stay ++ [op], ?_, ?_, ?_⟩
        · rw [hops, List.append_assoc]
        · intro p hp
          rcases List.prefix_concat_iff.1 hp with rfl | hp
          · rw [← List.append_assoc, ← hops, hs]
          · exact hstay p hp
        · rw [verdicts_append, hverdicts, hstreak]

/-- A stay in NOMINAL with faulty verdicts only drives the streak up. -/
theorem streak_of_stay {before : List FdirOp} (stay : List FdirOp)
    (hstay : ∀ p, p <+: stay → stateAfter b hooks confirmCycles (before ++ p) = .nominal)
    (hfault : ∀ h ∈ verdicts stay, h = .fault) :
    (verdicts stay).length ≤
      (memAfter b hooks confirmCycles (before ++ stay)).ctx.faultStreak.toNat := by
  induction stay using List.reverseRecOn with
  | nil => exact Nat.zero_le _
  | append_singleton stay op ih =>
      have hprev : stateAfter b hooks confirmCycles (before ++ stay) = .nominal :=
        hstay stay (List.prefix_append _ _)
      have hlast : stateAfter b hooks confirmCycles (before ++ stay ++ [op]) = .nominal := by
        rw [List.append_assoc]
        exact hstay _ (List.prefix_refl _)
      have hgrow := (memAfter_trans b hooks confirmCycles (before ++ stay) op).streak_grows
        (streakInv_after b hooks confirmCycles _) hprev hlast
        (fun v hv => hfault v (by rw [verdicts_append]; exact List.mem_append_right _ hv))
      have hle := ih (fun p hp => hstay p (hp.trans (List.prefix_append _ _)))
        (fun v hv => hfault v (by rw [verdicts_append]; exact List.mem_append_left _ hv))
      rw [← List.append_assoc, hgrow, verdicts_append, List.length_append]
      omega

/-- **The confirmation condition.**  FDIR leaves NOMINAL for RECOVERING at a step
exactly if the history says so. -/
theorem confirm_iff (ops : List FdirOp) (worst : Health) (sources : U8) :
    (stateAfter b hooks confirmCycles ops = .nominal ∧
      stateAfter b hooks confirmCycles (ops ++ [FdirOp.step worst sources]) = .recovering) ↔
      Confirmed b hooks confirmCycles ops worst := by
  have hinv := streakInv_after b hooks confirmCycles ops
  have hneed := need_after b hooks confirmCycles ops
  have hrec : stateAfter b hooks confirmCycles ops = .nominal →
      (stateAfter b hooks confirmCycles (ops ++ [FdirOp.step worst sources]) = .recovering ↔
        worst = .fault ∧ (memAfter b hooks confirmCycles ops).ctx.faultStreak.toNat + 1
          = needed confirmCycles) := by
    intro hs
    rw [← hneed]
    exact (memAfter_step b hooks confirmCycles ops worst sources).recovering_iff hinv hs
  constructor
  · rintro ⟨hs, hs'⟩
    obtain ⟨hw, hlast⟩ := (hrec hs).1 hs'
    obtain ⟨before, stay, hops, hstay, hverdicts⟩ := stay_of_nominal b hooks confirmCycles ops hs
    refine ⟨hw, before, stay, hops, hstay, ?_⟩
    rw [hverdicts, ← hlast, Nat.add_sub_cancel]
  · rintro ⟨hw, before, stay, rfl, hstay, hverdicts⟩
    have hs := hstay stay (List.prefix_refl _)
    refine ⟨hs, (hrec hs).2 ⟨hw, ?_⟩⟩
    have hle := streak_of_stay b hooks confirmCycles stay hstay
      (fun v hv => List.eq_of_mem_replicate (hverdicts ▸ hv))
    rw [hverdicts, List.length_replicate] at hle
    have hlt := hinv.lt
    omega

/-- `n` calls, if the hook is wired. -/
def callsIfWired (n : ℕ) : ℕ := if (hooks.getD ⟨false, false⟩).recover then n else 0

/-- **What follows a confirmation**, by the verdicts alone; `t` is the history up
to and including the confirming step. -/
structure Episode (t : List FdirOp) : Prop where
  /-- Up to three verdicts that are not OK keep FDIR recovering, one call each. -/
  stays : ∀ more, (∀ v ∈ verdicts more, v ≠ .ok) → (verdicts more).length ≤ 3 →
    stateAfter b hooks confirmCycles (t ++ more) = .recovering ∧
      recoverCalls (memAfter b hooks confirmCycles (t ++ more)) =
        recoverCalls (memAfter b hooks confirmCycles t) +
          callsIfWired hooks (verdicts more).length
  /-- The first OK among the next four verdicts returns to NOMINAL. -/
  clears : ∀ more sources, (∀ v ∈ verdicts more, v ≠ .ok) → (verdicts more).length ≤ 3 →
    stateAfter b hooks confirmCycles (t ++ more ++ [.step .ok sources]) = .nominal ∧
      recoverCalls (memAfter b hooks confirmCycles (t ++ more ++ [.step .ok sources])) =
        recoverCalls (memAfter b hooks confirmCycles t) +
          callsIfWired hooks (verdicts more).length
  /-- The fourth step enters SAFE exactly if none of the four verdicts is OK. -/
  safe_iff : ∀ more worst sources, (verdicts more).length = 3 →
    (stateAfter b hooks confirmCycles (t ++ more ++ [.step worst sources]) = .safe ↔
      ∀ v ∈ verdicts more ++ [worst], v ≠ .ok)
  /-- An episode that ends in SAFE has made three calls. -/
  safe_calls : ∀ more worst sources, (verdicts more).length = 3 →
    (∀ v ∈ verdicts more ++ [worst], v ≠ .ok) →
    recoverCalls (memAfter b hooks confirmCycles (t ++ more ++ [.step worst sources])) =
      recoverCalls (memAfter b hooks confirmCycles t) + callsIfWired hooks 3

/-- SAFE is never closer than the number of steps it takes. -/
theorem toSafe_run (ops more : List FdirOp) :
    toSafe (memAfter b hooks confirmCycles ops).ctx ≤
      toSafe (memAfter b hooks confirmCycles (ops ++ more)).ctx + (verdicts more).length := by
  induction more using List.reverseRecOn with
  | nil =>
      rw [List.append_nil]
      exact Nat.le_add_right _ _
  | append_singleton more op ih =>
      have hstep := (memAfter_trans b hooks confirmCycles (ops ++ more) op).toSafe_le
        (bounded_after b hooks confirmCycles _)
      rw [← List.append_assoc, verdicts_append, List.length_append]
      omega

theorem wired_after (ops : List FdirOp) :
    (memAfter b hooks confirmCycles ops).ctx.hooks = hooks.getD ⟨false, false⟩ :=
  (trace_run b hooks confirmCycles ops).counted.wired

variable {b hooks confirmCycles}

/-- Up to three steps that are not OK after a confirmation. -/
theorem stays_after {t : List FdirOp} (hs : stateAfter b hooks confirmCycles t = .recovering)
    (ha : (memAfter b hooks confirmCycles t).ctx.attempts = 0) (more : List FdirOp)
    (hbad : ∀ v ∈ verdicts more, v ≠ .ok) (hlen : (verdicts more).length ≤ 3) :
    stateAfter b hooks confirmCycles (t ++ more) = .recovering ∧
      (memAfter b hooks confirmCycles (t ++ more)).ctx.attempts.toNat = (verdicts more).length ∧
      recoverCalls (memAfter b hooks confirmCycles (t ++ more)) =
        recoverCalls (memAfter b hooks confirmCycles t) +
          callsIfWired hooks (verdicts more).length := by
  induction more using List.reverseRecOn with
  | nil =>
      rw [List.append_nil, ha, callsIfWired]
      refine ⟨hs, rfl, ?_⟩
      split <;> rfl
  | append_singleton more op ih =>
      rw [verdicts_append] at hbad hlen ⊢
      rw [List.length_append] at hlen ⊢
      obtain ⟨hstate, hattempts, hcalls⟩ :=
        ih (fun v hv => hbad v (List.mem_append_left _ hv)) (by omega)
      obtain ⟨hstate', hattempts', hcalls'⟩ :=
        (memAfter_trans b hooks confirmCycles (t ++ more) op).recovering_stays
          (bounded_after b hooks confirmCycles _) hstate
          (fun v hv => hbad v (List.mem_append_right _ hv)) (by rw [hattempts]; exact hlen)
      rw [← List.append_assoc]
      refine ⟨hstate', by rw [hattempts', hattempts], ?_⟩
      rw [hcalls', hcalls, wired_after, callsIfWired, callsIfWired, Nat.add_assoc]
      split <;> rfl

/-- A history has no OK in it, or a first one. -/
theorem first_ok (ops : List FdirOp) : (∀ v ∈ verdicts ops, v ≠ .ok) ∨
    ∃ before sources rest, ops = before ++ FdirOp.step .ok sources :: rest ∧
      ∀ v ∈ verdicts before, v ≠ .ok := by
  induction ops with
  | nil => exact .inl fun v hv => by cases hv
  | cons op ops ih =>
      have hcons : verdicts (op :: ops) = verdicts [op] ++ verdicts ops := verdicts_append [op] ops
      by_cases hop : ∃ sources, op = .step .ok sources
      · obtain ⟨sources, rfl⟩ := hop
        exact .inr ⟨[], sources, ops, rfl, fun v hv => by cases hv⟩
      · have hne : ∀ v ∈ verdicts [op], v ≠ .ok := by
          intro v hv hok
          cases op with
          | exitSafe => cases hv
          | step worst sources =>
              rw [verdicts_step, List.mem_singleton] at hv
              exact hop ⟨sources, by rw [← hv, hok]⟩
        rcases ih with hnone | ⟨before, sources, rest, rfl, hbefore⟩
        · left
          intro v hv
          rw [hcons, List.mem_append] at hv
          exact hv.elim (hne v) (hnone v)
        · refine .inr ⟨op :: before, sources, rest, rfl, ?_⟩
          intro v hv
          rw [show verdicts (op :: before) = verdicts [op] ++ verdicts before from
            verdicts_append [op] before, List.mem_append] at hv
          exact hv.elim (hne v) (hbefore v)

section Episode

variable {t : List FdirOp} (hs : stateAfter b hooks confirmCycles t = .recovering)
  (ha : (memAfter b hooks confirmCycles t).ctx.attempts = 0)
include hs ha

/-- One step after up to three that were not OK. -/
theorem last_step (more : List FdirOp) (worst : Health) (sources : U8)
    (hbad : ∀ v ∈ verdicts more, v ≠ .ok) (hlen : (verdicts more).length ≤ 3) :
    (worst = .ok →
      stateAfter b hooks confirmCycles (t ++ more ++ [FdirOp.step worst sources]) = .nominal) ∧
    (worst ≠ .ok → (verdicts more).length = 3 →
      stateAfter b hooks confirmCycles (t ++ more ++ [FdirOp.step worst sources]) = .safe) ∧
    (worst = .ok ∨ (verdicts more).length = 3 →
      recoverCalls (memAfter b hooks confirmCycles (t ++ more ++ [FdirOp.step worst sources])) =
        recoverCalls (memAfter b hooks confirmCycles t) +
          callsIfWired hooks (verdicts more).length) := by
  obtain ⟨hstate, hattempts, hcalls⟩ := stays_after hs ha more hbad hlen
  have hb := bounded_after b hooks confirmCycles (t ++ more)
  have htrans := memAfter_step b hooks confirmCycles (t ++ more) worst sources
  rw [← hcalls]
  rcases htrans.of_recovering hb hstate with ⟨hw, hs', hc⟩ | ⟨hw, _, hs', hc⟩ | ⟨hw, hlt, _⟩
  · exact ⟨fun _ => hs', fun hne => absurd hw hne, fun _ => hc⟩
  · exact ⟨fun hok => absurd hok hw, fun _ _ => hs', fun _ => hc⟩
  · have hne : (verdicts more).length ≠ 3 := by omega
    exact ⟨fun hok => absurd hok hw, fun _ h3 => absurd h3 hne,
      fun h => h.elim (fun hok => absurd hok hw) (fun h3 => absurd h3 hne)⟩

/-- Four steps with an OK among them do not end in SAFE: the OK leads back to
NOMINAL, and SAFE is five steps from there. -/
theorem not_safe_of_ok (more : List FdirOp) {v : Health} (hlen : (verdicts more).length ≤ 4)
    (hv : v ∈ verdicts more) (hok : v = .ok) :
    stateAfter b hooks confirmCycles (t ++ more) ≠ .safe := by
  rcases first_ok more with hnone | ⟨before, sources, rest, rfl, hbefore⟩
  · exact absurd hok (hnone v hv)
  · have hsplit : verdicts (before ++ FdirOp.step .ok sources :: rest) =
        verdicts before ++ (.ok :: verdicts rest) := verdicts_append before _
    rw [hsplit, List.length_append, List.length_cons] at hlen
    obtain ⟨hnominal, _, _⟩ := last_step hs ha before .ok sources hbefore (by omega)
    have hfar := toSafe_run b hooks confirmCycles (t ++ before ++ [FdirOp.step .ok sources]) rest
    rw [toSafe_nominal (hnominal rfl)] at hfar
    intro hsafe
    rw [show t ++ (before ++ FdirOp.step .ok sources :: rest) =
      t ++ before ++ [FdirOp.step .ok sources] ++ rest by simp] at hsafe
    rw [toSafe_safe hsafe] at hfar
    omega

/-- **What follows a confirmation.** -/
theorem episode_of_recovering : Episode b hooks confirmCycles t where
  stays := by
    intro more hbad hlen
    obtain ⟨hstate, _, hcalls⟩ := stays_after hs ha more hbad hlen
    exact ⟨hstate, hcalls⟩
  clears := by
    intro more sources hbad hlen
    obtain ⟨hok, _, hcalls⟩ := last_step hs ha more .ok sources hbad hlen
    exact ⟨hok rfl, hcalls (.inl rfl)⟩
  safe_iff := by
    intro more worst sources hlen
    constructor
    · intro hsafe v hv hok
      rw [List.append_assoc] at hsafe
      refine not_safe_of_ok hs ha (more ++ [FdirOp.step worst sources]) ?_ ?_ hok hsafe
      · rw [verdicts_append, List.length_append, hlen]
        rfl
      · rw [verdicts_append]
        exact hv
    · intro hbad
      obtain ⟨_, hsafe, _⟩ := last_step hs ha more worst sources
        (fun v hv => hbad v (List.mem_append_left _ hv)) hlen.le
      exact hsafe (hbad worst (List.mem_append_right _ (List.mem_singleton.2 rfl))) hlen
  safe_calls := by
    intro more worst sources hlen hbad
    obtain ⟨_, _, hcalls⟩ := last_step hs ha more worst sources
      (fun v hv => hbad v (List.mem_append_left _ hv)) hlen.le
    rw [hcalls (.inr hlen), hlen]

end Episode

/-- **Every confirmation starts an episode.** -/
theorem episode_of_confirmed {ops : List FdirOp} {worst : Health} {sources : U8}
    (hs : stateAfter b hooks confirmCycles ops = .nominal)
    (hs' : stateAfter b hooks confirmCycles (ops ++ [FdirOp.step worst sources]) = .recovering) :
    Episode b hooks confirmCycles (ops ++ [FdirOp.step worst sources]) := by
  refine episode_of_recovering hs' ?_
  rcases (memAfter_step b hooks confirmCycles ops worst sources).of_nominal hs with hn | ⟨_, ha⟩
  · exact absurd (hs'.symm.trans hn) FdirState.noConfusion
  · exact ha

/-! ## Confirming again -/

/-- Faulty verdicts from a fresh stay in NOMINAL, too few to confirm. -/
theorem nominal_after {t : List FdirOp} (hs : stateAfter b hooks confirmCycles t = .nominal)
    (hzero : (memAfter b hooks confirmCycles t).ctx.faultStreak = 0) (stay : List FdirOp)
    (hfault : ∀ v ∈ verdicts stay, v = .fault)
    (hlen : (verdicts stay).length < needed confirmCycles) :
    stateAfter b hooks confirmCycles (t ++ stay) = .nominal ∧
      (memAfter b hooks confirmCycles (t ++ stay)).ctx.faultStreak.toNat =
        (verdicts stay).length := by
  induction stay using List.reverseRecOn with
  | nil =>
      rw [List.append_nil, hzero]
      exact ⟨hs, rfl⟩
  | append_singleton stay op ih =>
      rw [verdicts_append] at hfault hlen ⊢
      rw [List.length_append] at hlen ⊢
      obtain ⟨hstate, hstreak⟩ :=
        ih (fun v hv => hfault v (List.mem_append_left _ hv)) (by omega)
      have hinv := streakInv_after b hooks confirmCycles (t ++ stay)
      have htrans := memAfter_trans b hooks confirmCycles (t ++ stay) op
      have hstate' := htrans.nominal_stays hinv hstate (by rwa [hstreak, need_after])
      rw [← List.append_assoc]
      refine ⟨hstate', ?_⟩
      have hlast : ∀ v ∈ verdicts [op], v = .fault :=
        fun v hv => hfault v (List.mem_append_right _ hv)
      rw [htrans.streak_grows hinv hstate hstate' hlast, hstreak]

/-- From SAFE, a ground exit starts a new stay in NOMINAL: with a fault still
present it lasts for one reading less than a confirmation takes. -/
theorem reconfirmed {ops : List FdirOp} (hs : stateAfter b hooks confirmCycles ops = .safe)
    (more : List FdirOp)
    (hmore : verdicts more = List.replicate (needed confirmCycles - 1) .fault) :
    (∀ p, p <+: more →
      stateAfter b hooks confirmCycles (ops ++ [FdirOp.exitSafe] ++ p) = .nominal) ∧
      ∀ sources, stateAfter b hooks confirmCycles
        (ops ++ [FdirOp.exitSafe] ++ more ++ [FdirOp.step .fault sources]) = .recovering := by
  have hexit : stateAfter b hooks confirmCycles (ops ++ [FdirOp.exitSafe]) = .nominal ∧
      (memAfter b hooks confirmCycles (ops ++ [FdirOp.exitSafe])).ctx.faultStreak = 0 := by
    rcases (memAfter_trans b hooks confirmCycles ops .exitSafe).of_exitSafe with
      ⟨hne, _⟩ | ⟨_, hmem⟩
    · exact absurd hs hne
    · rw [stateAfter, hmem]
      exact ⟨rfl, rfl⟩
  have hpos : 0 < needed confirmCycles := by
    rw [needed]
    omega
  have hstay : ∀ p, p <+: more →
      stateAfter b hooks confirmCycles (ops ++ [FdirOp.exitSafe] ++ p) = .nominal := by
    rintro p ⟨rest, rfl⟩
    rw [verdicts_append] at hmore
    refine (nominal_after hexit.1 hexit.2 p ?_ ?_).1
    · intro v hv
      exact List.eq_of_mem_replicate (hmore ▸ List.mem_append_left _ hv)
    · have hlen := congrArg List.length hmore
      rw [List.length_append, List.length_replicate] at hlen
      omega
  refine ⟨hstay, fun sources => ?_⟩
  exact ((confirm_iff b hooks confirmCycles _ .fault sources).2
    ⟨rfl, ops ++ [FdirOp.exitSafe], more, rfl, hstay, hmore⟩).2

/-- **Persistence and escalation.**  With `confirm_cycles` fixed at any value, over
every history of health steps and ground exits from `fdir_init`:

* FDIR goes from NOMINAL to RECOVERING at a step exactly if that step and the
  `needed - 1` before it are faulty and were taken in this stay in NOMINAL;
* every such step starts an `Episode`;
* after a ground exit from SAFE a persisting fault is confirmed by exactly
  `needed` further steps. -/
theorem fdir_persistence (b : Bus FdirMem) (hooks : Option FdirHooks) (confirmCycles : U8) :
    (∀ ops worst sources,
      (stateAfter b hooks confirmCycles ops = .nominal ∧
        stateAfter b hooks confirmCycles (ops ++ [.step worst sources]) = .recovering) ↔
        Confirmed b hooks confirmCycles ops worst) ∧
    (∀ ops worst sources, Confirmed b hooks confirmCycles ops worst →
      Episode b hooks confirmCycles (ops ++ [.step worst sources])) ∧
    ∀ ops more, stateAfter b hooks confirmCycles ops = .safe →
      verdicts more = List.replicate (needed confirmCycles - 1) .fault →
      (∀ p, p <+: more →
        stateAfter b hooks confirmCycles (ops ++ [.exitSafe] ++ p) = .nominal) ∧
      ∀ sources, stateAfter b hooks confirmCycles
        (ops ++ [.exitSafe] ++ more ++ [.step .fault sources]) = .recovering := by
  refine ⟨confirm_iff b hooks confirmCycles, ?_, ?_⟩
  · intro ops worst sources hc
    obtain ⟨hs, hs'⟩ := (confirm_iff b hooks confirmCycles ops worst sources).2 hc
    exact episode_of_confirmed hs hs'
  · intro ops more hs hmore
    exact reconfirmed hs more hmore

end Run

end Fdir
end SpacecraftFsw
