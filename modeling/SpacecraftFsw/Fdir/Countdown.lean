import SpacecraftFsw.Lib.Escalation
import SpacecraftFsw.Fdir.Detection

/-!
# The state machine as a countdown

State, attempts and streak are three fields; what they say together is one number,
the verdicts SAFE is away.  The state machine refines the graduated supervisor of
`Lib.Escalation`, with its events.

* `policy`, `FdirOp.input` — the supervisor FDIR is, and what it is told.
* `follows_step` — the argument for one step, one case per transition.
* `countdown_refines` — every run, with the fields read off the position and the
  events off its moves.
-/

namespace SpacecraftFsw
namespace Fdir

open Tmtc Obdh Escalation

/-! ## The supervisor -/

/-- FDIR's policy: FAULT is an alarm, OK is clear, and the ladder has the actions and
the step that gives up. -/
def policy (confirmCycles : U8) : Policy ℕ where
  clear := Health.ok.code
  alarm := Health.fault.code
  separate := by decide
  need := needed confirmCycles
  rungs := 4

/-- What a call tells the supervisor. -/
def FdirOp.input : FdirOp → Input ℕ
  | .step worst _ => .verdict worst.code
  | .exitSafe => .release

/-- The events a move of the supervisor announces, warnings apart. -/
def announced (r r' : ℕ) : List U16 :=
  if r = 0 then if r' = 0 then [] else [evtSafeExit]
  else if r ≤ 4 then
    if r' = 0 then [evtSafeEnter]
    else if r' < r then [evtRecoveryAction]
    else if r < r' then [evtRecovered]
    else []
  else if r' = 4 then [evtFault]
  else []

/-- The events announced from position `r` on. -/
def announcements (p : Policy ℕ) : ℕ → List (Input ℕ) → List U16
  | _, [] => []
  | r, x :: xs => announced r (p.step r x) ++ announcements p (p.step r x) xs

theorem announcements_append (p : Policy ℕ) (r : ℕ) (xs : List (Input ℕ)) (x : Input ℕ) :
    announcements p r (xs ++ [x]) =
      announcements p r xs ++ announced (xs.foldl p.step r) (p.step (xs.foldl p.step r) x) := by
  induction xs generalizing r with
  | nil => simp [announcements]
  | cons y xs ih => simp [announcements, ih]

/-! ## Positions -/

section Positions

variable {c : FdirCtx} {confirmCycles : U8} (h : Counters confirmCycles c)
include h

theorem need_of_counters : c.need.toNat = needed confirmCycles := by
  rw [need_toNat, h.confirm, needed]

theorem nominal_iff_position : c.state = .nominal ↔ 4 < remaining c := by
  have hlt := h.streak.lt
  unfold remaining
  cases hs : c.state with
  | nominal =>
      simp only [true_iff]
      omega
  | recovering => simp
  | safe => simp

theorem recovering_iff_position : c.state = .recovering ↔ 0 < remaining c ∧ remaining c ≤ 4 := by
  have hlt := h.streak.lt
  have hfour := h.bounded.lt_four
  unfold remaining
  cases hs : c.state with
  | nominal =>
      simp only [reduceCtorEq, false_iff]
      omega
  | recovering =>
      simp only [true_iff]
      omega
  | safe => simp

/-- In NOMINAL the streak and the position make up the whole way. -/
theorem streak_position (hs : c.state = .nominal) :
    c.faultStreak.toNat + remaining c = needed confirmCycles + 4 := by
  have hlt := h.streak.lt
  have hneed := need_of_counters h
  rw [remaining_nominal hs]
  omega

theorem position_top (hs : c.state = .nominal) (hzero : c.faultStreak = 0) :
    remaining c = (policy confirmCycles).top := by
  have hall := streak_position h hs
  rw [hzero] at hall
  exact (Nat.zero_add _).symm.trans hall

/-- In RECOVERING the attempts and the position make up the ladder. -/
theorem attempts_position (hs : c.state = .recovering) :
    c.attempts.toNat + remaining c = 4 := by
  have hfour := h.bounded.lt_four
  rw [remaining_recovering hs]
  omega

end Positions

/-! ## One step -/

/-- The identifiers of the events so far, warnings apart. -/
def turns (m : FdirMem) : List U16 := (m.reports.map Event.id).filter (· ≠ evtWarn)

theorem turns_of_reports {m m' : FdirMem} {es : List Event} (h : m'.reports = m.reports ++ es) :
    turns m' = turns m ++ (es.map Event.id).filter (· ≠ evtWarn) := by
  rw [turns, h, List.map_append, List.filter_append, turns]

/-- What one call does to FDIR, seen from the supervisor. -/
structure Follows (p : Policy ℕ) (x : Input ℕ) (m m' : FdirMem) : Prop where
  position : remaining m'.ctx = p.step (remaining m.ctx) x
  turns : turns m' = turns m ++ announced (remaining m.ctx) (remaining m'.ctx)

/-- A move from one known position to another. -/
theorem follows_of {p : Policy ℕ} {x : Input ℕ} {m m' : FdirMem} {r r' : ℕ} {es : List Event}
    (hr : remaining m.ctx = r) (hr' : remaining m'.ctx = r') (hstep : p.step r x = r')
    (hreports : m'.reports = m.reports ++ es)
    (hturns : (es.map Event.id).filter (· ≠ evtWarn) = announced r r') : Follows p x m m' := by
  subst hr hr'
  exact ⟨hstep.symm, by rw [turns_of_reports hreports, hturns]⟩

/-- Above the ladder nothing is announced but the step onto it. -/
theorem announced_above {r r' : ℕ} (hr : 4 < r) (hr' : r' ≠ 4) : announced r r' = [] := by
  have hpos : r ≠ 0 := by omega
  simp [announced, hpos, not_le.2 hr, hr']

theorem Health.code_lt_two {worst : Health} (h : worst ≠ .fault) : worst.code < 2 := by
  cases worst with
  | ok | warn => decide
  | fault => exact absurd rfl h

theorem Health.code_pos {worst : Health} (h : worst ≠ .ok) : 0 < worst.code := by
  cases worst with
  | ok => exact absurd rfl h
  | warn | fault => decide

/-- **A step is a verdict.** -/
theorem follows_step {m m' : FdirMem} {worst : Health} {sources confirmCycles : U8}
    (hc : Counters confirmCycles m.ctx) (h : FdirTrans m worst sources m') :
    Follows (policy confirmCycles) (.verdict worst.code) m m' := by
  have hc' := h.counters hc
  have hneed := need_of_counters hc
  have htop : (policy confirmCycles).top = needed confirmCycles + 4 := rfl
  have hpos : 0 < needed confirmCycles := by
    unfold needed
    omega
  cases h with
  | confirmed hs hw hlast =>
      -- the last reading missing: from position 5 onto the ladder
      subst hw
      have hr := streak_position hc hs
      have hr' := attempts_position hc' rfl
      have hmissing := hc.streak.need_le_iff.1 hlast
      have hfive : remaining m.ctx = 5 := by omega
      refine follows_of (r := 5) hfive hr' ?_ (FdirMem.emit_reports ..) rfl
      exact Policy.verdict_alarm (p := policy confirmCycles) (Nat.le_refl 2)
  | filtered hs hw hshort =>
      subst hw
      have hr := streak_position hc hs
      have hr' := streak_position hc' hs
      have hup := hc.streak.streakUp
      have hlt : (streakUp m.ctx.faultStreak).toNat < m.ctx.need.toNat := hshort
      change (streakUp m.ctx.faultStreak).toNat + _ = _ at hr'
      refine follows_of rfl rfl ?_ (List.append_nil _).symm ?_
      · refine (Policy.verdict_alarm (p := policy confirmCycles) (Nat.le_refl 2)).trans ?_
        omega
      · exact (announced_above (by omega) (by omega)).symm
  | warned hs hw hprev =>
      subst hw
      have habove := (nominal_iff_position hc).1 hs
      refine follows_of rfl (position_top hc' hs rfl) ?_ (FdirMem.emit_reports ..) ?_
      · exact Policy.verdict_above_calm (p := policy confirmCycles) habove (Nat.lt_succ_self 1)
      · exact (announced_above habove (by omega)).symm
  | calm hs hw hprev =>
      have habove := (nominal_iff_position hc).1 hs
      refine follows_of rfl (position_top hc' hs rfl) ?_ (List.append_nil _).symm ?_
      · exact Policy.verdict_above_calm (p := policy confirmCycles) habove (Health.code_lt_two hw)
      · exact (announced_above habove (by omega)).symm
  | recovered hs hw =>
      subst hw
      have hr := (recovering_iff_position hc).1 hs
      have hstreak := hc.streak.zero (by simp [hs])
      refine follows_of rfl (position_top hc' rfl hstreak) ?_ (FdirMem.emit_reports ..) ?_
      · exact Policy.verdict_ladder_clear (p := policy confirmCycles) hr.1 hr.2 (Nat.le_refl 0)
      · have hup : remaining m.ctx < (policy confirmCycles).top := by omega
        have hne : (policy confirmCycles).top ≠ 0 := by omega
        rw [announced, if_neg (by omega), if_pos hr.2, if_neg hne, if_neg (by omega), if_pos hup]
        rfl
  | safeEntered hs hw ha =>
      have hr := attempts_position hc hs
      rw [hc.bounded.exhausted ha] at hr
      have hone : remaining m.ctx = 1 := Nat.add_left_cancel hr
      refine follows_of hone (remaining_safe rfl) ?_ (FdirMem.emit_reports ..) rfl
      exact Policy.verdict_ladder (p := policy confirmCycles) Nat.one_pos (show 1 ≤ 4 by decide)
        (Health.code_pos hw)
  | attempted hs hw ha =>
      obtain ⟨hsucc, hlt, _⟩ := attempts_succ ha
      have hr := attempts_position hc hs
      have hr' := attempts_position hc' hs
      change (m.ctx.attempts + 1).toNat + _ = _ at hr'
      refine follows_of rfl rfl ?_ (FdirMem.emit_reports ..) ?_
      · refine (Policy.verdict_ladder (p := policy confirmCycles) (by omega)
          (show remaining m.ctx ≤ 4 by omega) (Health.code_pos hw)).trans ?_
        omega
      · rw [announced, if_neg (by omega), if_pos (by omega), if_neg (by omega), if_pos (by omega)]
        rfl
  | safe hs =>
      exact follows_of (remaining_safe hs) (remaining_safe hs) (Policy.verdict_zero _ _)
        (List.append_nil _).symm rfl

/-- **The ground exit is a release.** -/
theorem follows_exitSafe {m : FdirMem} {confirmCycles : U8} (hs : m.ctx.state = .safe)
    (hc : Counters confirmCycles m.exitSafe.ctx) :
    Follows (policy confirmCycles) .release m m.exitSafe := by
  have htop : (policy confirmCycles).top = needed confirmCycles + 4 := rfl
  refine follows_of (remaining_safe hs) (position_top hc rfl rfl) rfl (FdirMem.emit_reports ..) ?_
  rw [announced, if_pos rfl, if_neg (by omega)]
  rfl

/-- Outside SAFE a release does nothing. -/
theorem follows_refused {m : FdirMem} {confirmCycles : U8} (hc : Counters confirmCycles m.ctx)
    (hs : m.ctx.state ≠ .safe) : Follows (policy confirmCycles) .release m m := by
  have hne : remaining m.ctx ≠ 0 := by
    rwa [ne_eq, remaining_eq_zero_iff hc.bounded]
  refine follows_of rfl rfl (if_neg hne) (List.append_nil _).symm ?_
  simp only [announced, hne, if_false, lt_self_iff_false]
  split_ifs <;> first | rfl | omega

theorem follows_op {m m' : FdirMem} {op : FdirOp} {confirmCycles : U8}
    (hc : Counters confirmCycles m.ctx) (h : OpTrans m op m') :
    Counters confirmCycles m'.ctx ∧ Follows (policy confirmCycles) op.input m m' := by
  have hc' : Counters confirmCycles m'.ctx :=
    ⟨h.bounded hc.bounded, h.streakInv hc.streak, h.confirmCycles.trans hc.confirm⟩
  refine ⟨hc', ?_⟩
  cases h with
  | step worst sources m' h => exact follows_step hc h
  | refused hs => exact follows_refused hc hs
  | granted hs => exact follows_exitSafe hs hc'

/-! ## Runs -/

/-- FDIR after the calls `ops`, next to the supervisor after what they tell it. -/
structure Refines (confirmCycles : U8) (ops : List FdirOp) (m : FdirMem) : Prop where
  counters : Counters confirmCycles m.ctx
  position : remaining m.ctx =
    (ops.map FdirOp.input).foldl (policy confirmCycles).step (policy confirmCycles).top
  turns : turns m =
    announcements (policy confirmCycles) (policy confirmCycles).top (ops.map FdirOp.input)

theorem refines_run (b : Bus FdirMem) (hooks : Option FdirHooks) (confirmCycles : U8)
    (ops : List FdirOp) : Refines confirmCycles ops (memAfter b hooks confirmCycles ops) := by
  induction ops using List.reverseRecOn with
  | nil =>
      have hc : Counters confirmCycles (fdirStart hooks confirmCycles).ctx :=
        ⟨(trace_start hooks confirmCycles).bounded, streakInv_of_zero rfl, rfl⟩
      exact ⟨hc, position_top hc rfl rfl, rfl⟩
  | append_singleton ops op ih =>
      obtain ⟨hc, hf⟩ := follows_op ih.counters (memAfter_trans b hooks confirmCycles ops op)
      refine ⟨hc, ?_, ?_⟩
      · rw [hf.position, ih.position, List.map_append, List.foldl_append]
        rfl
      · rw [hf.turns, ih.turns, hf.position, ih.position, List.map_append]
        exact (announcements_append _ _ _ _).symm

/-- **FDIR refines a countdown.**  After every sequence of steps and ground exits,
whatever the router does meanwhile, the state, in NOMINAL the streak and in RECOVERING
the attempts are those of one number, which the verdicts and the exits move; and the
events, warnings apart, are those that the moves of this number announce. -/
theorem countdown_refines (b : Bus FdirMem) (hooks : Option FdirHooks) (confirmCycles : U8)
    (ops : List FdirOp) :
    let m := memAfter b hooks confirmCycles ops
    let p := policy confirmCycles
    let r := (ops.map FdirOp.input).foldl p.step p.top
    (m.ctx.state = .nominal ↔ 4 < r) ∧ (m.ctx.state = .recovering ↔ 0 < r ∧ r ≤ 4) ∧
      (m.ctx.state = .safe ↔ r = 0) ∧
      (m.ctx.state = .nominal → m.ctx.faultStreak.toNat = p.top - r) ∧
      (m.ctx.state = .recovering → m.ctx.attempts.toNat = 4 - r) ∧
      (m.reports.map Event.id).filter (· ≠ evtWarn) =
        announcements p p.top (ops.map FdirOp.input) := by
  intro m p r
  have h : Refines confirmCycles ops m := refines_run b hooks confirmCycles ops
  have hr : remaining m.ctx = r := h.position
  have htop : p.top = needed confirmCycles + 4 := rfl
  refine ⟨?_, ?_, ?_, ?_, ?_, h.turns⟩
  · rw [← hr]
    exact nominal_iff_position h.counters
  · rw [← hr]
    exact recovering_iff_position h.counters
  · rw [← hr]
    exact (remaining_eq_zero_iff h.counters.bounded).symm
  · intro hs
    have hall := streak_position h.counters hs
    omega
  · intro hs
    have hall := attempts_position h.counters hs
    omega

end Fdir
end SpacecraftFsw
