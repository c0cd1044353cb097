import SpacecraftFsw.Fdir.Runs

/-!
# The grammar of events and hook calls

What FDIR speaks and does over a whole run.  The events of a run are a prefix of a
word over three phrases (a warning, a fault that clears, a fault that escalates
and is released by the ground), and every hook call goes with one event.

* `Phrase`, `Phrase.word` — the grammar, with the payload fields it fixes.
* `openWord` — the part of the current phrase already said; it is a function of
  the state and the attempts, and this is the invariant (`Trace`).
* `fdir_grammar` — the events, the calls, the counters and the sequence counts of
  every run.
-/

namespace SpacecraftFsw
namespace Fdir

open Tmtc Obdh

/-! ## The grammar -/

/-- What the grammar fixes about an event. -/
structure Symbol where
  id : U16
  attempts : U8
  state : U8
  deriving DecidableEq, Repr

/-- The symbol of a report. -/
def Event.symbol (e : Event) : Symbol := ⟨e.id, e.attempts, e.state⟩

/-- The recovery actions `1, …, k`. -/
def actions (k : ℕ) : List Symbol :=
  (List.range k).map fun i => ⟨evtRecoveryAction, BitVec.ofNat 8 (i + 1), FdirState.recovering.code⟩

def faultSymbol : Symbol := ⟨evtFault, 0, FdirState.recovering.code⟩

def safeEnterSymbol : Symbol := ⟨evtSafeEnter, 3, FdirState.safe.code⟩

/-- A phrase of the grammar.  The attempts of a warning are those of the last
episode and not fixed. -/
inductive Phrase
  | warn (attempts : U8)
  | cleared (k : Fin 4)
  | escalated
  deriving DecidableEq, Repr

/-- `WARN`, `FAULT A(1)..A(k) RECOVERED`, `FAULT A(1) A(2) A(3) SAFE_ENTER SAFE_EXIT`. -/
def Phrase.word : Phrase → List Symbol
  | .warn attempts => [⟨evtWarn, attempts, FdirState.nominal.code⟩]
  | .cleared k =>
    faultSymbol :: actions k ++ [⟨evtRecovered, BitVec.ofNat 8 k, FdirState.nominal.code⟩]
  | .escalated =>
    faultSymbol :: actions 3 ++ [safeEnterSymbol, ⟨evtSafeExit, 0, FdirState.nominal.code⟩]

/-- The action of each rung. -/
def rung (attempts : U8) : RecoveryAction :=
  if attempts = 1 then .retry else if attempts = 2 then .resetDevice else .switchRedundant

/-- The calls that go with a report, given which hooks are wired. -/
def Event.calls (hooks : FdirHooks) (e : Event) : List HookCall :=
  if e.id = evtRecoveryAction ∧ hooks.recover then [.recover (rung e.attempts) e.sources]
  else if e.id = evtSafeEnter ∧ hooks.enterSafe then [.enterSafe e.sources]
  else []

/-- How many reports carry `id`. -/
def countId (id : U16) (es : List Event) : ℕ := es.countP (·.id = id)

/-! ## The invariant -/

/-- The part of the current phrase that has been said. -/
def openWord (c : FdirCtx) : List Symbol :=
  match c.state with
  | .nominal => []
  | .recovering => faultSymbol :: actions c.attempts.toNat
  | .safe => faultSymbol :: actions 3 ++ [safeEnterSymbol]

/-- The logs and the counters agree. -/
structure Counted (hooks : FdirHooks) (m : FdirMem) : Prop where
  wired : m.ctx.hooks = hooks
  calls : m.calls = m.reports.flatMap (Event.calls hooks)
  events : m.ctx.nEvents = (m.reports.length : U32)
  faults : m.ctx.nFaults = (countId evtFault m.reports : U16)
  safeEntries : m.ctx.nSafeEntries = (countId evtSafeEnter m.reports : U16)
  next : m.ctx.evSeq.toNat = m.reports.length % 16384
  seq : ∀ i e, m.reports[i]? = some e →
    e.service = pusServiceEvent ∧ e.seqCount.toNat = i % 16384

/-- Nothing said, nothing called. -/
structure Silent (m m' : FdirMem) : Prop where
  wired : m'.ctx.hooks = m.ctx.hooks
  reports : m'.reports = m.reports
  calls : m'.calls = m.calls
  events : m'.ctx.nEvents = m.ctx.nEvents
  faults : m'.ctx.nFaults = m.ctx.nFaults
  safeEntries : m'.ctx.nSafeEntries = m.ctx.nSafeEntries
  next : m'.ctx.evSeq = m.ctx.evSeq

/-- One report made, with the calls that go with it. -/
structure Speaks (m : FdirMem) (e : Event) (m' : FdirMem) : Prop where
  wired : m'.ctx.hooks = m.ctx.hooks
  reports : m'.reports = m.reports ++ [e]
  calls : m'.calls = m.calls ++ e.calls m.ctx.hooks
  events : m'.ctx.nEvents = m.ctx.nEvents + 1
  faults : m'.ctx.nFaults = m.ctx.nFaults + if e.id = evtFault then 1 else 0
  safeEntries : m'.ctx.nSafeEntries = m.ctx.nSafeEntries + if e.id = evtSafeEnter then 1 else 0
  next : m'.ctx.evSeq = seqNext m.ctx.evSeq
  service : e.service = pusServiceEvent
  seqCount : e.seqCount = m.ctx.evSeq &&& 0x3FFF#16

theorem countId_append (id : U16) (es : List Event) (e : Event) :
    (countId id (es ++ [e]) : U16) = countId id es + if e.id = id then 1 else 0 := by
  rw [countId, List.countP_append, List.countP_singleton, Nat.cast_add, countId]
  by_cases h : e.id = id
  · simp only [h, decide_true, if_true, Nat.cast_one]
  · simp only [h, decide_false, Bool.false_eq_true, if_false, Nat.cast_zero]

theorem Counted.silent {hooks : FdirHooks} {m m' : FdirMem} (h : Counted hooks m)
    (hs : Silent m m') : Counted hooks m' where
  wired := hs.wired.trans h.wired
  calls := by rw [hs.calls, hs.reports, h.calls]
  events := by rw [hs.events, hs.reports, h.events]
  faults := by rw [hs.faults, hs.reports, h.faults]
  safeEntries := by rw [hs.safeEntries, hs.reports, h.safeEntries]
  next := by rw [hs.next, hs.reports, h.next]
  seq := by
    rw [hs.reports]
    exact h.seq

theorem Counted.speaks {hooks : FdirHooks} {m m' : FdirMem} {e : Event} (h : Counted hooks m)
    (hs : Speaks m e m') : Counted hooks m' where
  wired := hs.wired.trans h.wired
  calls := by
    rw [hs.calls, hs.reports, h.calls, h.wired, List.flatMap_append, List.flatMap_singleton]
  events := by
    rw [hs.events, hs.reports, h.events, List.length_append, List.length_singleton, Nat.cast_succ]
  faults := by rw [hs.faults, hs.reports, h.faults, countId_append]
  safeEntries := by rw [hs.safeEntries, hs.reports, h.safeEntries, countId_append]
  next := by
    rw [hs.next, hs.reports, seqNext_toNat, h.next, List.length_append, List.length_singleton]
    omega
  seq := by
    intro i e' hi
    rw [hs.reports] at hi
    by_cases hlt : i < m.reports.length
    · rw [List.getElem?_append_left hlt] at hi
      exact h.seq i e' hi
    · rw [List.getElem?_append_right (not_lt.1 hlt), List.getElem?_singleton] at hi
      obtain rfl : i = m.reports.length := by
        by_contra hne
        rw [if_neg (by omega)] at hi
        cases hi
      rw [Nat.sub_self, if_pos rfl] at hi
      rw [← Option.some.inj hi]
      refine ⟨hs.service, ?_⟩
      rw [hs.seqCount, seqMask_toNat, h.next, Nat.mod_mod]

/-- Attempts are bounded, and exhausted in SAFE. -/
structure Bounded (c : FdirCtx) : Prop where
  le : c.attempts ≤ 3
  safe : c.state = .safe → c.attempts = 3

/-- The attempts run out at exactly three. -/
theorem Bounded.exhausted {c : FdirCtx} (hb : Bounded c) (h : fdirMaxAttempts ≤ c.attempts) :
    c.attempts = 3 := by
  have hle := hb.le
  unfold fdirMaxAttempts at h
  bv_omega

theorem Bounded.lt_four {c : FdirCtx} (hb : Bounded c) : c.attempts.toNat < 4 := by
  have hle := hb.le
  bv_omega

/-- One attempt more, while there is one left. -/
theorem attempts_succ {a : U8} (h : a < fdirMaxAttempts) :
    (a + 1).toNat = a.toNat + 1 ∧ a.toNat < 3 ∧ a + 1 ≤ 3 := by
  unfold fdirMaxAttempts at h
  refine ⟨?_, ?_, ?_⟩ <;> bv_omega

/-- A report continues the current phrase, or completes it. -/
def Advances (c : FdirCtx) (e : Event) (c' : FdirCtx) : Prop :=
  openWord c' = openWord c ++ [e.symbol] ∨
    (openWord c' = [] ∧ ∃ p : Phrase, p.word = openWord c ++ [e.symbol])

/-- A transition is silent and stays where it is in the phrase, or makes one
report and moves on. -/
inductive Move (m m' : FdirMem) : Prop
  | silent (h : Silent m m') (hword : openWord m'.ctx = openWord m.ctx)
  | speaks (e : Event) (h : Speaks m e m') (hword : Advances m.ctx e m'.ctx)

theorem actions_succ (k : ℕ) : actions (k + 1) =
    actions k ++ [⟨evtRecoveryAction, BitVec.ofNat 8 (k + 1), FdirState.recovering.code⟩] := by
  rw [actions, List.range_succ, List.map_append, List.map_singleton, actions]

theorem openWord_nominal {c : FdirCtx} (h : c.state = .nominal) : openWord c = [] := by
  rw [openWord, h]

theorem openWord_recovering {c : FdirCtx} (h : c.state = .recovering) :
    openWord c = faultSymbol :: actions c.attempts.toNat := by
  rw [openWord, h]

theorem openWord_safe {c : FdirCtx} (h : c.state = .safe) :
    openWord c = faultSymbol :: actions 3 ++ [safeEnterSymbol] := by
  rw [openWord, h]

theorem rung_eq {a : U8} (h : a < fdirMaxAttempts) : rung (a + 1) = actionForAttempt (a + 1) := by
  have hcases : a = 0 ∨ a = 1 ∨ a = 2 := by
    unfold fdirMaxAttempts at h
    bv_omega
  rcases hcases with rfl | rfl | rfl <;> decide

/-- Only recovery actions and SAFE entries go with a call. -/
theorem calls_event_eq_nil {evt : U16} (h₁ : evt ≠ evtRecoveryAction) (h₂ : evt ≠ evtSafeEnter)
    (hooks : FdirHooks) (c : FdirCtx) (sev : FdirSev) (worst : Health) :
    (c.event evt sev worst).calls hooks = [] := by
  rw [Event.calls, if_neg (fun h => h₁ h.1), if_neg (fun h => h₂ h.1)]

theorem calls_event_safeEnter (hooks : FdirHooks) (c : FdirCtx) (worst : Health) :
    (c.event evtSafeEnter .high worst).calls hooks =
      if hooks.enterSafe then [.enterSafe c.sourceMask] else [] := by
  have hne : evtSafeEnter ≠ evtRecoveryAction := by decide
  rw [Event.calls, if_neg (fun h => hne h.1)]
  cases hooks.enterSafe
  · exact if_neg (fun h => Bool.noConfusion h.2)
  · exact if_pos ⟨rfl, rfl⟩

theorem calls_event_action (hooks : FdirHooks) (c : FdirCtx) (worst : Health) :
    (c.event evtRecoveryAction .info worst).calls hooks =
      if hooks.recover then [.recover (rung c.attempts) c.sourceMask] else [] := by
  have hne : evtRecoveryAction ≠ evtSafeEnter := by decide
  cases hrecover : hooks.recover
  · rw [Event.calls, if_neg (fun h => Bool.noConfusion (hrecover.symm.trans h.2))]
    exact if_neg (fun h => hne h.1)
  · exact if_pos ⟨rfl, hrecover⟩

theorem count_self (id n : U16) : n + 1 = n + if id = id then 1 else 0 := by
  rw [if_pos rfl]

theorem count_other {evt id : U16} (h : evt ≠ id) (n : U16) :
    n = n + if evt = id then 1 else 0 := by
  rw [if_neg h, add_zero]

/-- An event from a context `c` in which the counters of events have not moved,
unless it is the event they count. -/
theorem speaks_emit (m : FdirMem) (c : FdirCtx) (evt : U16) (sev : FdirSev) (worst : Health)
    (wired : Bool) (call : HookCall)
    (hctx : c.hooks = m.ctx.hooks ∧ c.nEvents = m.ctx.nEvents ∧ c.evSeq = m.ctx.evSeq)
    (hfaults : c.nFaults = m.ctx.nFaults + if evt = evtFault then 1 else 0)
    (hsafe : c.nSafeEntries = m.ctx.nSafeEntries + if evt = evtSafeEnter then 1 else 0)
    (hcalls : (c.event evt sev worst).calls m.ctx.hooks = if wired then [call] else []) :
    Speaks m (c.event evt sev worst) (((m.withCtx c).emit evt sev worst).callIf wired call) where
  wired := hctx.1
  reports := by
    rw [FdirMem.callIf_reports, FdirMem.emit_reports]
    rfl
  calls := by
    rw [FdirMem.callIf_calls, hcalls]
    rfl
  events := congrArg (· + 1) hctx.2.1
  faults := hfaults
  safeEntries := hsafe
  next := congrArg seqNext hctx.2.2
  service := rfl
  seqCount := congrArg (· &&& 0x3FFF#16) hctx.2.2

/-- An event that goes with no call. -/
theorem speaks_emit_quiet (m : FdirMem) (c : FdirCtx) (evt : U16) (sev : FdirSev) (worst : Health)
    (hctx : c.hooks = m.ctx.hooks ∧ c.nEvents = m.ctx.nEvents ∧ c.evSeq = m.ctx.evSeq)
    (hfaults : c.nFaults = m.ctx.nFaults + if evt = evtFault then 1 else 0)
    (hsafe : c.nSafeEntries = m.ctx.nSafeEntries)
    (hevt : evt ≠ evtSafeEnter ∧ evt ≠ evtRecoveryAction) :
    Speaks m (c.event evt sev worst) ((m.withCtx c).emit evt sev worst) := by
  have hcall := FdirMem.callIf_false ((m.withCtx c).emit evt sev worst) (.enterSafe 0)
  rw [← hcall]
  apply speaks_emit m c evt sev worst false _ hctx hfaults
  · exact hsafe.trans (count_other hevt.1 _)
  · exact calls_event_eq_nil hevt.2 hevt.1 _ _ _ _

/-- What follows the report does not disturb it. -/
theorem Speaks.saw {m m' : FdirMem} {e : Event} (h : Speaks m e m') (worst : Health) :
    Speaks m e (m'.saw worst) :=
  ⟨h.wired, h.reports, h.calls, h.events, h.faults, h.safeEntries, h.next, h.service,
    h.seqCount⟩

theorem Speaks.clearMasks {m m' : FdirMem} {e : Event} (h : Speaks m e m') :
    Speaks m e m'.clearMasks :=
  ⟨h.wired, h.reports, h.calls, h.events, h.faults, h.safeEntries, h.next, h.service,
    h.seqCount⟩

theorem FdirTrans.move {m m' : FdirMem} {worst : Health} {sources : U8} (hb : Bounded m.ctx)
    (h : FdirTrans m worst sources m') : Move m m' := by
  cases h with
  | confirmed hs hw hneed =>
      set c := m.ctx.confirm sources with hc
      refine .speaks (c.event evtFault .medium worst) (.saw ?_ worst) (.inl ?_)
      · exact speaks_emit_quiet m c _ _ _ ⟨rfl, rfl, rfl⟩ (count_self _ _) rfl (by decide)
      · have hopen : openWord c = faultSymbol :: actions 0 := openWord_recovering rfl
        refine hopen.trans ?_
        rw [openWord_nominal hs]
        rfl
  | filtered hs hw hneed =>
      have hopen : openWord { m.ctx with
          faultStreak := streakUp m.ctx.faultStreak
          nFiltered := m.ctx.nFiltered + 1 } = [] := openWord_nominal hs
      exact .silent ⟨rfl, rfl, rfl, rfl, rfl, rfl, rfl⟩ (hopen.trans (openWord_nominal hs).symm)
  | warned hs hw hprev =>
      set c : FdirCtx := { m.ctx with faultStreak := 0 } with hc
      refine .speaks (c.event evtWarn .low worst) (.saw ?_ worst) (.inr ?_)
      · exact speaks_emit_quiet m c _ _ _ ⟨rfl, rfl, rfl⟩ (count_other (by decide) _) rfl
          (by decide)
      · refine ⟨openWord_nominal (c := { c with prevWorst := worst }) hs, .warn c.attempts, ?_⟩
        have hstate : c.state.code = FdirState.nominal.code := congrArg FdirState.code hs
        rw [openWord_nominal hs, Phrase.word, ← hstate]
        rfl
  | calm hs hw hprev =>
      have hopen : openWord { m.ctx with faultStreak := 0 } = [] := openWord_nominal hs
      exact .silent ⟨rfl, rfl, rfl, rfl, rfl, rfl, rfl⟩ (hopen.trans (openWord_nominal hs).symm)
  | recovered hs hw =>
      set c : FdirCtx := { m.ctx.merge sources with state := .nominal } with hc
      refine .speaks (c.event evtRecovered .low worst) (.saw (.clearMasks ?_) worst) (.inr ?_)
      · exact speaks_emit_quiet m c _ _ _ ⟨rfl, rfl, rfl⟩ (count_other (by decide) _) rfl
          (by decide)
      · refine ⟨rfl, .cleared ⟨m.ctx.attempts.toNat, hb.lt_four⟩, ?_⟩
        rw [openWord_recovering hs, Phrase.word, BitVec.ofNat_toNat, BitVec.setWidth_eq]
        rfl
  | safeEntered hs hw ha =>
      have hthree := hb.exhausted ha
      set c := m.ctx.enterSafe sources with hc
      refine .speaks (c.event evtSafeEnter .high worst) (.saw ?_ worst) (.inl ?_)
      · refine speaks_emit m c _ _ _ _ _ ⟨rfl, rfl, rfl⟩ (count_other (by decide) _)
          (count_self _ _) ?_
        exact calls_event_safeEnter _ c worst
      · rw [openWord_recovering hs, hthree]
        have hsym : (c.event evtSafeEnter .high worst).symbol = safeEnterSymbol :=
          congrArg (fun a => Symbol.mk evtSafeEnter a FdirState.safe.code) hthree
        rw [hsym]
        rfl
  | attempted hs hw ha =>
      set c := m.ctx.attempt sources with hc
      refine .speaks (c.event evtRecoveryAction .info worst) (.saw ?_ worst) (.inl ?_)
      · refine speaks_emit m c _ _ _ _ _ ⟨rfl, rfl, rfl⟩ (count_other (by decide) _)
          (count_other (by decide) _) ?_
        rw [← rung_eq ha]
        exact calls_event_action _ c worst
      · have hattempts : c.attempts.toNat = m.ctx.attempts.toNat + 1 := (attempts_succ ha).1
        have hsym : (c.event evtRecoveryAction .info worst).symbol = ⟨evtRecoveryAction,
            BitVec.ofNat 8 (m.ctx.attempts.toNat + 1), FdirState.recovering.code⟩ := by
          rw [← hattempts, BitVec.ofNat_toNat, BitVec.setWidth_eq, ← hs]
          rfl
        have hopen : openWord c = faultSymbol :: actions c.attempts.toNat :=
          openWord_recovering hs
        rw [openWord_recovering hs, hsym, List.cons_append, ← actions_succ, ← hattempts, ← hopen]
        rfl
  | safe hs => exact .silent ⟨rfl, rfl, rfl, rfl, rfl, rfl, rfl⟩ rfl

theorem move_exitSafe {m : FdirMem} (hs : m.ctx.state = .safe) :
    Move m m.exitSafe := by
  refine .speaks (m.ctx.exitSafe.event evtSafeExit .info m.ctx.prevWorst) (.clearMasks ?_) (.inr ?_)
  · exact speaks_emit_quiet m m.ctx.exitSafe _ _ _ ⟨rfl, rfl, rfl⟩ (count_other (by decide) _) rfl
      (by decide)
  · refine ⟨rfl, .escalated, ?_⟩
    rw [openWord_safe hs]
    rfl

theorem FdirTrans.bounded {m m' : FdirMem} {worst : Health} {sources : U8} (hb : Bounded m.ctx)
    (h : FdirTrans m worst sources m') : Bounded m'.ctx := by
  cases h with
  | confirmed hs hw hneed =>
      exact ⟨show (0 : U8) ≤ 3 by decide, fun h => FdirState.noConfusion h⟩
  | filtered hs hw hneed | warned hs hw hprev | calm hs hw hprev | safe hs => exact ⟨hb.le, hb.safe⟩
  | recovered hs hw => exact ⟨hb.le, fun h => FdirState.noConfusion h⟩
  | safeEntered hs hw ha =>
      exact ⟨hb.le, fun _ => hb.exhausted ha⟩
  | attempted hs hw ha =>
      exact ⟨(attempts_succ ha).2.2, fun h => absurd (hs.symm.trans h) FdirState.noConfusion⟩

theorem bounded_exitSafe (m : FdirMem) : Bounded m.exitSafe.ctx :=
  ⟨show (0 : U8) ≤ 3 by decide, fun h => FdirState.noConfusion h⟩

/-- The attempts stay bounded. -/
theorem OpTrans.bounded {m m' : FdirMem} {op : FdirOp} (hb : Bounded m.ctx)
    (h : OpTrans m op m') : Bounded m'.ctx := by
  cases h with
  | refused hs => exact hb
  | granted hs => exact bounded_exitSafe m
  | step worst sources m' h => exact h.bounded hb

theorem OpTrans.move {m m' : FdirMem} {op : FdirOp} (hb : Bounded m.ctx) (h : OpTrans m op m') :
    Move m m' := by
  cases h with
  | refused hs => exact .silent ⟨rfl, rfl, rfl, rfl, rfl, rfl, rfl⟩ rfl
  | granted hs => exact move_exitSafe hs
  | step worst sources m' h => exact h.move hb

/-! ## Every run -/

/-- Whole phrases, then the one that is open. -/
def Spoken (m : FdirMem) : Prop :=
  ∃ phrases : List Phrase,
    m.reports.map Event.symbol = phrases.flatMap Phrase.word ++ openWord m.ctx

theorem Spoken.move {m m' : FdirMem} (h : Spoken m) (hm : Move m m') : Spoken m' := by
  obtain ⟨phrases, hword⟩ := h
  cases hm with
  | silent hs hopen =>
      refine ⟨phrases, ?_⟩
      rw [hs.reports, hopen, hword]
  | speaks e hs hadvance =>
      have hmore : m'.reports.map Event.symbol =
          phrases.flatMap Phrase.word ++ (openWord m.ctx ++ [e.symbol]) := by
        rw [hs.reports, List.map_append, hword, List.append_assoc, List.map_singleton]
      rcases hadvance with hopen | ⟨hopen, p, hp⟩
      · exact ⟨phrases, by rw [hmore, hopen]⟩
      · refine ⟨phrases ++ [p], ?_⟩
        rw [hmore, hopen, List.append_nil, List.flatMap_append, List.flatMap_singleton, hp]

/-- The open phrase can always be completed. -/
theorem openWord_prefix {c : FdirCtx} (hb : Bounded c) : ∃ p : Phrase, openWord c <+: p.word := by
  cases hs : c.state with
  | nominal =>
      refine ⟨.escalated, ?_⟩
      rw [openWord_nominal hs]
      exact List.nil_prefix
  | recovering =>
      refine ⟨.cleared ⟨c.attempts.toNat, hb.lt_four⟩, ?_⟩
      rw [openWord_recovering hs]
      exact List.prefix_append _ _
  | safe =>
      refine ⟨.escalated, ?_⟩
      rw [openWord_safe hs]
      exact ⟨[⟨evtSafeExit, 0, FdirState.nominal.code⟩], rfl⟩

/-- The invariant of a run. -/
structure Trace (hooks : FdirHooks) (m : FdirMem) : Prop where
  counted : Counted hooks m
  bounded : Bounded m.ctx
  spoken : Spoken m

theorem trace_start (hooks : Option FdirHooks) (confirmCycles : U8) :
    Trace (hooks.getD ⟨false, false⟩) (fdirStart hooks confirmCycles) where
  counted :=
    { wired := rfl
      calls := rfl
      events := rfl
      faults := rfl
      safeEntries := rfl
      next := rfl
      seq := fun i e h => by cases h }
  bounded := ⟨show (0 : U8) ≤ 3 by decide, fun h => FdirState.noConfusion h⟩
  spoken := ⟨[], rfl⟩

theorem Trace.trans {hooks : FdirHooks} {m m' : FdirMem} {op : FdirOp} (h : Trace hooks m)
    (ht : OpTrans m op m') : Trace hooks m' := by
  have hmove := ht.move h.bounded
  refine ⟨?_, ht.bounded h.bounded, h.spoken.move hmove⟩
  cases hmove with
  | silent hs _ => exact h.counted.silent hs
  | speaks e hs _ => exact h.counted.speaks hs

theorem trace_run (b : Bus FdirMem) (hooks : Option FdirHooks) (confirmCycles : U8)
    (ops : List FdirOp) :
    Trace (hooks.getD ⟨false, false⟩) (fdirRun b hooks confirmCycles ops).user := by
  apply fdirRun_induct (P := Trace (hooks.getD ⟨false, false⟩))
  · exact trace_start hooks confirmCycles
  · intro m op m' h ht
    exact h.trans ht

/-- **The grammar of every run.**  After any sequence of health steps and ground
exits from `fdir_init`, with any `confirm_cycles` and any router below:

* the events are a prefix of a word of whole phrases;
* the hook calls are those that go with the events, in the same order;
* the counters are the numbers of events, faults and SAFE entries, modulo their
  width;
* the `i`-th event is a Service 5 report with sequence count `i` modulo `2 ^ 14`. -/
theorem fdir_grammar (b : Bus FdirMem) (hooks : Option FdirHooks) (confirmCycles : U8)
    (ops : List FdirOp) :
    let m := (fdirRun b hooks confirmCycles ops).user
    (∃ phrases : List Phrase, m.reports.map Event.symbol <+: phrases.flatMap Phrase.word) ∧
      m.calls = m.reports.flatMap (Event.calls (hooks.getD ⟨false, false⟩)) ∧
      m.ctx.nEvents.toNat = m.reports.length % 2 ^ 32 ∧
      m.ctx.nFaults.toNat = countId evtFault m.reports % 2 ^ 16 ∧
      m.ctx.nSafeEntries.toNat = countId evtSafeEnter m.reports % 2 ^ 16 ∧
      ∀ i e, m.reports[i]? = some e →
        e.service = pusServiceEvent ∧ e.seqCount.toNat = i % 16384 := by
  intro m
  have htrace : Trace (hooks.getD ⟨false, false⟩) m := trace_run b hooks confirmCycles ops
  refine ⟨?_, htrace.counted.calls, ?_, ?_, ?_, htrace.counted.seq⟩
  · obtain ⟨phrases, hword⟩ := htrace.spoken
    obtain ⟨p, hp⟩ := openWord_prefix htrace.bounded
    refine ⟨phrases ++ [p], ?_⟩
    rw [hword, List.flatMap_append, List.flatMap_singleton]
    exact List.prefix_append_right_inj _ |>.2 hp
  · rw [htrace.counted.events]
    exact BitVec.toNat_ofNat _ _
  · rw [htrace.counted.faults]
    exact BitVec.toNat_ofNat _ _
  · rw [htrace.counted.safeEntries]
    exact BitVec.toNat_ofNat _ _

end Fdir
end SpacecraftFsw
