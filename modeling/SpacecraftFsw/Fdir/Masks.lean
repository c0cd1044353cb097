import SpacecraftFsw.Fdir.Persistence

/-!
# Masks over full cycles

The source and task masks of FDIR when it is driven through whole cycles: the
watchdog, the monitors, then the state machine.

* `CycleRecord`, `IsEpisode` — the log of cycles, and the part of it the present
  episode is made of.
* `MaskStep` — what a step does to the masks and what its report carries.
* `Masks` — the invariant: the masks are the unions over the episode, and they
  agree about the watchdog.
* `fdir_masks` — the invariant after every run, and the masks of every report.
-/

namespace SpacecraftFsw
namespace Fdir

open Tmtc Obdh

/-! ## Runs of cycles -/

/-- What a cycle saw, and the state before and after it. -/
structure CycleRecord where
  sources : U8
  stalled : U8
  before : FdirState
  after : FdirState
  deriving DecidableEq, Repr

/-- FDIR, its watchdog and the log of its cycles. -/
structure CycleState where
  bus : Bus FdirMem
  watchdog : Watchdog
  log : List CycleRecord

/-- FDIR's context. -/
def CycleState.ctx (x : CycleState) : FdirCtx := x.bus.user.ctx

/-- The operations of a run: a task reports in, a cycle on some readings, the
ground exit. -/
inductive CycleOp
  | kick (id : ℤ)
  | cycle (s : SpacecraftState)
  | exitSafe

/-- The record of a cycle. -/
def cycleRecord (b : Bus FdirMem) (s : SpacecraftState) (w : Watchdog) : CycleRecord where
  sources := (fdirEvaluate s (watchdogCheck w).1).2
  stalled := (watchdogCheck w).2.1
  before := b.user.ctx.state
  after := (cycleBus fdirIngest b s w).user.ctx.state

/-- One operation. -/
def cycleOp (x : CycleState) : CycleOp → CycleState
  | .kick id => { x with watchdog := wdKick x.watchdog id }
  | .cycle s =>
    { bus := cycleBus fdirIngest x.bus s x.watchdog
      watchdog := (fdirCycle fdirIngest x.bus s x.watchdog).2.2.1
      log := x.log ++ [cycleRecord x.bus s x.watchdog] }
  | .exitSafe => { x with bus := (fdirExitSafe fdirIngest x.bus).2 }

/-- FDIR and its watchdog initialised, after a sequence of operations. -/
def cycleRun (b : Bus FdirMem) (hooks : Option FdirHooks) (confirmCycles : U8) (w : Watchdog)
    (ops : List CycleOp) : CycleState :=
  ops.foldl cycleOp ⟨{ b with user := fdirStart hooks confirmCycles }, wdInit w, []⟩

/-! ## Episodes -/

/-- The union of the sources of some cycles. -/
def unionSources (rs : List CycleRecord) : U8 := rs.foldl (fun mask r => mask ||| r.sources) 0

/-- The union of the stalled tasks of some cycles. -/
def unionStalled (rs : List CycleRecord) : U8 := rs.foldl (fun mask r => mask ||| r.stalled) 0

/-- `episode` is the part of the log from the last confirming cycle on, up to the
cycle that entered SAFE if there is one; `rest` are the cycles in SAFE after it. -/
structure IsEpisode (log episode rest : List CycleRecord) : Prop where
  split : ∃ earlier, log = earlier ++ episode ++ rest
  confirming : ∃ r tail, episode = r :: tail ∧ r.before = .nominal ∧ r.after = .recovering ∧
    ∀ r ∈ tail, r.before = .recovering
  rest : ∀ r ∈ rest, r.before = .safe

/-- The masks agree about the watchdog. -/
def Linked (sources tasks : U8) : Prop := tasks ≠ 0 ↔ sources &&& fdirSrcWatchdog ≠ 0

/-- Masks that are the unions over an episode. -/
structure Carries (log rest : List CycleRecord) (sources tasks : U8) : Prop where
  union : ∃ episode, IsEpisode log episode rest ∧ sources = unionSources episode ∧
    tasks = unionStalled episode
  nonzero : sources ≠ 0
  linked : Linked sources tasks

theorem unionSources_append (rs : List CycleRecord) (r : CycleRecord) :
    unionSources (rs ++ [r]) = unionSources rs ||| r.sources := List.foldl_append

theorem unionStalled_append (rs : List CycleRecord) (r : CycleRecord) :
    unionStalled (rs ++ [r]) = unionStalled rs ||| r.stalled := List.foldl_append

theorem Linked.or {a b s t : U8} (h : Linked a s) (h' : Linked b t) :
    Linked (a ||| b) (s ||| t) := by
  rw [Linked, BitVec.and_or_distrib_right, or_ne_zero_iff, or_ne_zero_iff]
  exact or_congr h h'

/-- A confirming cycle opens an episode. -/
theorem carries_confirm (log : List CycleRecord) {r : CycleRecord} (hbefore : r.before = .nominal)
    (hafter : r.after = .recovering) (hne : r.sources ≠ 0) (hl : Linked r.sources r.stalled) :
    Carries (log ++ [r]) [] r.sources r.stalled where
  union := by
    refine ⟨[r], ⟨⟨log, (List.append_nil _).symm⟩, ?_, ?_⟩, ?_, ?_⟩
    · exact ⟨r, [], rfl, hbefore, hafter, fun r hr => by cases hr⟩
    · exact fun r hr => by cases hr
    · exact BitVec.zero_or.symm
    · exact BitVec.zero_or.symm
  nonzero := hne
  linked := hl

/-- A cycle in RECOVERING extends it. -/
theorem Carries.extend {log : List CycleRecord} {s t : U8} (h : Carries log [] s t)
    {r : CycleRecord} (hbefore : r.before = .recovering) (hl : Linked r.sources r.stalled) :
    Carries (log ++ [r]) [] (s ||| r.sources) (t ||| r.stalled) where
  union := by
    obtain ⟨episode, ⟨⟨earlier, hlog⟩, ⟨c, tail, hep, hc, hc', htail⟩, hrest⟩, hs, ht⟩ := h.union
    refine ⟨episode ++ [r], ⟨⟨earlier, ?_⟩, ⟨c, tail ++ [r], ?_, hc, hc', ?_⟩, hrest⟩, ?_, ?_⟩
    · rw [hlog, List.append_nil, List.append_nil, List.append_assoc]
    · rw [hep, List.cons_append]
    · intro r' hr'
      rcases List.mem_append.1 hr' with hr' | hr'
      · exact htail r' hr'
      · rw [List.mem_singleton.1 hr', hbefore]
    · rw [unionSources_append, hs]
    · rw [unionStalled_append, ht]
  nonzero := or_ne_zero_iff.2 (.inl h.nonzero)
  linked := h.linked.or hl

/-- A cycle in SAFE leaves it as it is. -/
theorem Carries.freeze {log rest : List CycleRecord} {s t : U8} (h : Carries log rest s t)
    {r : CycleRecord} (hbefore : r.before = .safe) : Carries (log ++ [r]) (rest ++ [r]) s t where
  union := by
    obtain ⟨episode, ⟨⟨earlier, hlog⟩, hep, hrest⟩, hs, ht⟩ := h.union
    refine ⟨episode, ⟨⟨earlier, ?_⟩, hep, ?_⟩, hs, ht⟩
    · rw [hlog, ← List.append_assoc]
    · intro r' hr'
      rcases List.mem_append.1 hr' with hr' | hr'
      · exact hrest r' hr'
      · rw [List.mem_singleton.1 hr', hbefore]
  nonzero := h.nonzero
  linked := h.linked

/-! ## What a step does to the masks -/

/-- The masks of a report. -/
def Event.HasMasks (e : Event) (sources tasks : U8) : Prop := e.sources = sources ∧ e.tasks = tasks

/-- The masks of a context. -/
def FdirCtx.HasMasks (c : FdirCtx) (sources tasks : U8) : Prop :=
  c.sourceMask = sources ∧ c.taskMask = tasks

theorem Carries.context {log rest : List CycleRecord} {s t : U8} {c : FdirCtx}
    (h : Carries log rest s t) (hc : c.HasMasks s t) :
    Carries log rest c.sourceMask c.taskMask := by
  rwa [hc.1, hc.2]

theorem Carries.event {log rest : List CycleRecord} {s t : U8} {e : Event}
    (h : Carries log rest s t) (he : e.HasMasks s t) : Carries log rest e.sources e.tasks := by
  rwa [he.1, he.2]

/-- **The masks in one step**: kept in NOMINAL, latched by a confirmation, grown in
RECOVERING and cleared only after the report, frozen in SAFE. -/
inductive MaskStep (m : FdirMem) (worst : Health) (sources : U8) (m' : FdirMem) : Prop
  | idle (hs : m.ctx.state = .nominal) (hs' : m'.ctx.state = .nominal)
      (hmask : m'.ctx.HasMasks m.ctx.sourceMask m.ctx.taskMask)
      (hreports : ∃ es, m'.reports = m.reports ++ es ∧ ∀ e ∈ es, e.id = evtWarn)
  | confirm (hs : m.ctx.state = .nominal) (hs' : m'.ctx.state = .recovering) (hw : worst = .fault)
      (hmask : m'.ctx.HasMasks sources m.ctx.stalledNow) (e : Event)
      (hreports : m'.reports = m.reports ++ [e]) (he : e.HasMasks sources m.ctx.stalledNow)
  | recover (hs : m.ctx.state = .recovering) (e : Event) (hreports : m'.reports = m.reports ++ [e])
      (he : e.HasMasks (m.ctx.sourceMask ||| sources) (m.ctx.taskMask ||| m.ctx.stalledNow))
      (hmask : (m'.ctx.state = .nominal ∧ m'.ctx.HasMasks 0 0) ∨
        (m'.ctx.state ≠ .nominal ∧ m'.ctx.HasMasks e.sources e.tasks))
  | safe (hs : m.ctx.state = .safe) (hs' : m'.ctx.state = .safe)
      (hmask : m'.ctx.HasMasks m.ctx.sourceMask m.ctx.taskMask) (hreports : m'.reports = m.reports)

theorem FdirTrans.maskStep {m m' : FdirMem} {worst : Health} {sources : U8}
    (h : FdirTrans m worst sources m') : MaskStep m worst sources m' := by
  cases h with
  | confirmed hs hw hneed =>
      refine .confirm hs rfl hw ⟨rfl, rfl⟩ ((m.ctx.confirm sources).event evtFault .medium worst)
        ?_ ⟨rfl, rfl⟩
      rw [FdirMem.saw_reports, FdirMem.emit_reports]
      rfl
  | filtered hs hw hneed | calm hs hw hneed =>
      exact .idle hs hs ⟨rfl, rfl⟩ ⟨[], (List.append_nil _).symm, fun e he => by cases he⟩
  | warned hs hw hprev =>
      set c : FdirCtx := { m.ctx with faultStreak := 0 } with hc
      refine .idle hs hs ⟨rfl, rfl⟩ ⟨[c.event evtWarn .low worst], ?_, ?_⟩
      · rw [FdirMem.saw_reports, FdirMem.emit_reports]
        rfl
      · intro e he
        rw [List.mem_singleton.1 he]
        rfl
  | recovered hs hw =>
      set c : FdirCtx := { m.ctx.merge sources with state := .nominal } with hc
      refine .recover hs (c.event evtRecovered .low worst) ?_ ⟨rfl, rfl⟩ (.inl ⟨rfl, rfl, rfl⟩)
      rw [FdirMem.saw_reports, FdirMem.clearMasks_reports, FdirMem.emit_reports]
      rfl
  | safeEntered hs hw ha =>
      refine .recover hs ((m.ctx.enterSafe sources).event evtSafeEnter .high worst) ?_ ⟨rfl, rfl⟩
        (.inr ⟨FdirState.noConfusion, rfl, rfl⟩)
      rw [FdirMem.saw_reports, FdirMem.callIf_reports, FdirMem.emit_reports]
      rfl
  | attempted hs hw ha =>
      refine .recover hs ((m.ctx.attempt sources).event evtRecoveryAction .info worst) ?_ ⟨rfl, rfl⟩
        (.inr ⟨fun h => ?_, rfl, rfl⟩)
      · rw [FdirMem.saw_reports, FdirMem.emit_reports, FdirMem.callIf_reports]
        rfl
      · exact FdirState.noConfusion (hs.symm.trans h)
  | safe hs => exact .safe hs hs ⟨rfl, rfl⟩ rfl

/-! ## The invariant -/

/-- The masks between two operations. -/
structure Masks (x : CycleState) : Prop where
  idle : x.ctx.state = .nominal → x.ctx.HasMasks 0 0
  active : x.ctx.state ≠ .nominal → ∃ rest,
    Carries x.log rest x.ctx.sourceMask x.ctx.taskMask ∧ (x.ctx.state = .recovering → rest = [])

/-- What the reports of one operation carry. -/
def ReportsCarry (x x' : CycleState) : Prop :=
  ∃ es, x'.bus.user.reports = x.bus.user.reports ++ es ∧ ∀ e ∈ es, e.id = evtWarn ∨
    ∃ rest, Carries x'.log rest e.sources e.tasks ∧ (rest = [] ∨ e.id = evtSafeExit)

theorem linked_record (b : Bus FdirMem) (s : SpacecraftState) (w : Watchdog) :
    Linked (cycleRecord b s w).sources (cycleRecord b s w).stalled :=
  (evaluate_watchdog s w).2.symm

theorem sources_ne_zero (b : Bus FdirMem) (s : SpacecraftState) (w : Watchdog)
    (h : (fdirEvaluate s (watchdogCheck w).1).1 = .fault) : (cycleRecord b s w).sources ≠ 0 := by
  intro hzero
  have hok := (evaluate_watchdog s w).1.1 hzero
  exact Health.noConfusion (h.symm.trans hok)

theorem reportsCarry_one {x x' : CycleState} {e : Event} {rest : List CycleRecord}
    (hreports : x'.bus.user.reports = x.bus.user.reports ++ [e])
    (hc : Carries x'.log rest e.sources e.tasks) (hrest : rest = [] ∨ e.id = evtSafeExit) :
    ReportsCarry x x' := by
  refine ⟨[e], hreports, fun e' he' => .inr ?_⟩
  rw [List.mem_singleton.1 he']
  exact ⟨rest, hc, hrest⟩

theorem reportsCarry_none {x x' : CycleState}
    (hreports : x'.bus.user.reports = x.bus.user.reports) : ReportsCarry x x' :=
  ⟨[], hreports.trans (List.append_nil _).symm, fun e he => by cases he⟩

/-- **A cycle keeps the masks**, and its report carries them. -/
theorem Masks.cycle {x : CycleState} (h : Masks x) (s : SpacecraftState) :
    Masks (cycleOp x (.cycle s)) ∧ ReportsCarry x (cycleOp x (.cycle s)) := by
  set r := cycleRecord x.bus s x.watchdog with hr
  have hlink : Linked r.sources r.stalled := linked_record _ _ _
  have hstep := (fdirCycle_trans tmIngest_fdirIngest x.bus s x.watchdog).maskStep
  cases hstep with
  | idle hs hs' hmask hreports =>
      obtain ⟨hsource, htask⟩ := h.idle hs
      obtain ⟨es, hes, hwarn⟩ := hreports
      refine ⟨⟨?_, fun hne => absurd hs' hne⟩, es, hes, ?_⟩
      · intro _
        exact ⟨hmask.1.trans hsource, hmask.2.trans htask⟩
      · intro e he
        exact .inl (hwarn e he)
  | confirm hs hs' hw hmask e hreports he =>
      have hc : Carries (x.log ++ [r]) [] r.sources r.stalled :=
        carries_confirm x.log hs hs' (sources_ne_zero _ _ _ hw) hlink
      refine ⟨⟨?_, fun _ => ⟨[], hc.context hmask, fun _ => rfl⟩⟩, ?_⟩
      · intro hn
        exact absurd (hs'.symm.trans hn) FdirState.noConfusion
      · exact reportsCarry_one hreports (hc.event he) (.inl rfl)
  | recover hs e hreports he hmask =>
      obtain ⟨rest, hold, hrest⟩ := h.active fun hn => by
        exact FdirState.noConfusion (hn.symm.trans hs)
      rw [hrest hs] at hold
      have hc : Carries (x.log ++ [r]) [] e.sources e.tasks := (hold.extend hs hlink).event he
      refine ⟨?_, reportsCarry_one hreports hc (.inl rfl)⟩
      rcases hmask with ⟨hs', hzero⟩ | ⟨hs', hmask⟩
      · exact ⟨fun _ => hzero, fun hne => absurd hs' hne⟩
      · exact ⟨fun hn => absurd hn hs', fun _ => ⟨[], hc.context hmask, fun _ => rfl⟩⟩
  | safe hs hs' hmask hreports =>
      obtain ⟨rest, hold, _⟩ := h.active fun hn => by
        exact FdirState.noConfusion (hn.symm.trans hs)
      have hc := (hold.freeze (r := r) hs).context hmask
      refine ⟨⟨?_, fun _ => ⟨rest ++ [r], hc, ?_⟩⟩, reportsCarry_none hreports⟩
      · intro hn
        exact absurd (hs'.symm.trans hn) FdirState.noConfusion
      · intro hn
        exact absurd (hs'.symm.trans hn) FdirState.noConfusion

/-- The ground exit clears the masks, after its report. -/
theorem Masks.exitSafe {x : CycleState} (h : Masks x) :
    Masks (cycleOp x .exitSafe) ∧ ReportsCarry x (cycleOp x .exitSafe) := by
  by_cases hs : x.ctx.state = .safe
  · obtain ⟨rest, hc, _⟩ := h.active fun hn => by
      exact FdirState.noConfusion (hn.symm.trans hs)
    have huser : (cycleOp x .exitSafe).bus.user = x.bus.user.exitSafe :=
      (fdirExitSafe_granted tmIngest_fdirIngest hs).2
    have hctx : (cycleOp x .exitSafe).ctx = x.bus.user.exitSafe.ctx := congrArg FdirMem.ctx huser
    refine ⟨⟨fun _ => ?_, fun hne => absurd ?_ hne⟩, ?_⟩
    · rw [hctx]
      exact ⟨rfl, rfl⟩
    · rw [hctx]
      rfl
    · refine reportsCarry_one (e := x.ctx.exitSafe.event evtSafeExit .info x.ctx.prevWorst) ?_ hc
        (.inr rfl)
      rw [huser, FdirMem.exitSafe, FdirMem.clearMasks_reports, FdirMem.emit_reports]
      rfl
  · have hstay : cycleOp x .exitSafe = x := by
      rw [cycleOp, fdirExitSafe_refused fdirIngest hs]
    rw [hstay]
    exact ⟨h, reportsCarry_none rfl⟩

theorem Masks.op {x : CycleState} (h : Masks x) (op : CycleOp) :
    Masks (cycleOp x op) ∧ ReportsCarry x (cycleOp x op) := by
  cases op with
  | kick id => exact ⟨⟨h.idle, h.active⟩, reportsCarry_none rfl⟩
  | cycle s => exact h.cycle s
  | exitSafe => exact h.exitSafe

/-- The counters between two operations. -/
structure Counters (confirmCycles : U8) (c : FdirCtx) : Prop where
  bounded : Bounded c
  streak : StreakInv c
  confirm : c.confirmCycles = confirmCycles

theorem FdirTrans.counters {m m' : FdirMem} {worst : Health} {sources confirmCycles : U8}
    (hc : Counters confirmCycles m.ctx) (h : FdirTrans m worst sources m') :
    Counters confirmCycles m'.ctx :=
  ⟨h.bounded hc.bounded, h.streakInv hc.streak, h.confirmCycles.trans hc.confirm⟩

/-- The stalled tasks of a cycle touch no counter. -/
theorem Counters.stall {m : FdirMem} {confirmCycles : U8} (h : Counters confirmCycles m.ctx)
    (stalled : U8) : Counters confirmCycles (m.stall stalled).ctx :=
  ⟨⟨h.bounded.le, h.bounded.safe⟩, ⟨h.streak.lt, h.streak.zero⟩, h.confirm⟩

theorem Counters.op {x : CycleState} {confirmCycles : U8} (h : Counters confirmCycles x.ctx)
    (op : CycleOp) : Counters confirmCycles (cycleOp x op).ctx := by
  cases op with
  | kick id => exact h
  | cycle s =>
      exact (fdirCycle_trans tmIngest_fdirIngest x.bus s x.watchdog).counters (h.stall _)
  | exitSafe =>
      have htrans := fdirOp_trans x.bus .exitSafe
      exact ⟨htrans.bounded h.bounded, htrans.streakInv h.streak,
        htrans.confirmCycles.trans h.confirm⟩

theorem cycleRun_append (b : Bus FdirMem) (hooks : Option FdirHooks) (confirmCycles : U8)
    (w : Watchdog) (ops : List CycleOp) (op : CycleOp) :
    cycleRun b hooks confirmCycles w (ops ++ [op]) =
      cycleOp (cycleRun b hooks confirmCycles w ops) op := by
  rw [cycleRun, List.foldl_append]
  rfl

theorem masks_run (b : Bus FdirMem) (hooks : Option FdirHooks) (confirmCycles : U8) (w : Watchdog)
    (ops : List CycleOp) :
    Masks (cycleRun b hooks confirmCycles w ops) ∧
      Counters confirmCycles (cycleRun b hooks confirmCycles w ops).ctx := by
  induction ops using List.reverseRecOn with
  | nil =>
      refine ⟨⟨fun _ => ⟨rfl, rfl⟩, fun hne => absurd rfl hne⟩, ?_, streakInv_of_zero rfl, rfl⟩
      exact (trace_start hooks confirmCycles).bounded
  | append_singleton ops op ih =>
      rw [cycleRun_append]
      exact ⟨(ih.1.op op).1, ih.2.op op⟩

/-- **The representation invariant of FDIR over full cycles.**  After every
sequence of kicks, cycles and ground exits from the initialisations, with
`confirm_cycles` fixed at any value:

* in NOMINAL the masks are empty and the streak is short of a confirmation;
* in RECOVERING and SAFE the streak is empty, and the masks are the unions over the
  episode's cycles, the source mask not being empty;
* the attempts are at most three, and three in SAFE;
* the task mask is empty exactly if the source mask does not name the watchdog;

and whatever the next operation is, every report it makes that is not a warning
carries the masks of its episode. -/
theorem fdir_masks (b : Bus FdirMem) (hooks : Option FdirHooks) (confirmCycles : U8) (w : Watchdog)
    (ops : List CycleOp) :
    let x := cycleRun b hooks confirmCycles w ops
    (x.ctx.state = .nominal → x.ctx.sourceMask = 0 ∧ x.ctx.taskMask = 0 ∧
      x.ctx.faultStreak.toNat < max 1 confirmCycles.toNat) ∧
    (x.ctx.state ≠ .nominal → x.ctx.faultStreak = 0 ∧ x.ctx.sourceMask ≠ 0 ∧ ∃ rest,
      Carries x.log rest x.ctx.sourceMask x.ctx.taskMask ∧
        (x.ctx.state = .recovering → rest = [])) ∧
    (x.ctx.attempts ≤ 3 ∧ (x.ctx.state = .safe → x.ctx.attempts = 3)) ∧
    (x.ctx.taskMask ≠ 0 ↔ x.ctx.sourceMask &&& fdirSrcWatchdog ≠ 0) ∧
    ∀ op, ReportsCarry x (cycleOp x op) := by
  intro x
  obtain ⟨hmasks, hcount⟩ := masks_run b hooks confirmCycles w ops
  refine ⟨?_, ?_, ⟨hcount.bounded.le, hcount.bounded.safe⟩, ?_, ?_⟩
  · intro hs
    obtain ⟨hsource, htask⟩ := hmasks.idle hs
    refine ⟨hsource, htask, ?_⟩
    rw [← hcount.confirm, ← need_toNat]
    exact hcount.streak.lt
  · intro hs
    obtain ⟨rest, hc, hrest⟩ := hmasks.active hs
    exact ⟨hcount.streak.zero hs, hc.nonzero, rest, hc, hrest⟩
  · by_cases hs : x.ctx.state = .nominal
    · obtain ⟨hsource, htask⟩ := hmasks.idle hs
      rw [hsource, htask]
      decide
    · obtain ⟨rest, hc, _⟩ := hmasks.active hs
      exact hc.linked
  · intro op
    exact (hmasks.op op).2

end Fdir
end SpacecraftFsw
