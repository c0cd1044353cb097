import Mathlib.Data.List.DropRight
import SpacecraftFsw.Fdir.Countdown

/-!
# Standing conditions and their reports

Whether FDIR has told the ground about readings that are not OK.

* `BadReading` — what a single reading that is not OK can lead to.
* `Notified` — a report other than OK since the last OK reading; `Reported` asks
  for one whenever a run sits in WARN.
* `Swallowed` — what the readings and the exits look like when there is none: the
  condition began with a fault, and every reading since was taken in NOMINAL.
* `Standing` — the four things FDIR can know about a condition, kept by every call.
* `reported_iff` — which WARNs in NOMINAL find the ground notified, and the runs in
  which all of them do.
-/

namespace SpacecraftFsw
namespace Fdir

open Tmtc Obdh

/-! ## The last OK reading -/

/-- The call brings no OK reading. -/
def FdirOp.notOk : FdirOp → Bool
  | .step worst _ => worst ≠ .ok
  | .exitSafe => true

/-- The history up to its last OK reading. -/
def untilOk (ops : List FdirOp) : List FdirOp := ops.rdropWhile FdirOp.notOk

/-- The calls since the last OK reading. -/
def sinceOk (ops : List FdirOp) : List FdirOp := ops.rtakeWhile FdirOp.notOk

theorem untilOk_append_sinceOk (ops : List FdirOp) : untilOk ops ++ sinceOk ops = ops :=
  List.rdropWhile_append_rtakeWhile

@[simp] theorem untilOk_ok (ops : List FdirOp) (sources : U8) :
    untilOk (ops ++ [FdirOp.step .ok sources]) = ops ++ [FdirOp.step .ok sources] :=
  List.rdropWhile_concat_neg _ _ _ Bool.false_ne_true

@[simp] theorem sinceOk_ok (ops : List FdirOp) (sources : U8) :
    sinceOk (ops ++ [FdirOp.step .ok sources]) = [] :=
  List.rtakeWhile_concat_neg _ _ _ Bool.false_ne_true

theorem untilOk_notOk (ops : List FdirOp) (op : FdirOp) (h : op.notOk) :
    untilOk (ops ++ [op]) = untilOk ops := List.rdropWhile_concat_pos _ _ _ h

theorem sinceOk_notOk (ops : List FdirOp) (op : FdirOp) (h : op.notOk) :
    sinceOk (ops ++ [op]) = sinceOk ops ++ [op] := List.rtakeWhile_concat_pos _ _ _ h

theorem notOk_step {worst : Health} (h : worst ≠ .ok) (sources : U8) :
    (FdirOp.step worst sources).notOk := decide_eq_true h

/-- The verdicts SAFE is away after some calls, as the supervisor counts them. -/
def position (confirmCycles : U8) (ops : List FdirOp) : ℕ :=
  (ops.map FdirOp.input).foldl (policy confirmCycles).step (policy confirmCycles).top

/-- The condition began with a fault, and every reading since was taken above the ladder,
that is in NOMINAL. -/
def Swallowed (confirmCycles : U8) (ops : List FdirOp) : Prop :=
  (verdicts (sinceOk ops)).head? = some .fault ∧
    ∀ p worst sources, p ++ [FdirOp.step worst sources] <+: sinceOk ops →
      4 < position confirmCycles (untilOk ops ++ p)

/-! ## What a call reports -/

/-- The memory reports one event more, and its verdict is not OK. -/
def Alarm (m m' : FdirMem) : Prop := ∃ e, m'.reports = m.reports ++ [e] ∧ e.worst ≠ 0

theorem Health.code_ne_zero {worst : Health} (h : worst ≠ .ok) :
    BitVec.ofNat 8 worst.code ≠ 0 := by
  cases worst with
  | ok => exact absurd rfl h
  | warn | fault => decide

theorem FdirTrans.prevWorst {m m' : FdirMem} {worst : Health} {sources : U8}
    (h : FdirTrans m worst sources m') : m'.ctx.prevWorst = worst := by
  cases h <;> rfl

/-- An event about a reading that is not OK is an alarm. -/
theorem alarm_of_emit {m m' : FdirMem} {c : FdirCtx} {evt : U16} {sev : FdirSev} {worst : Health}
    (hbad : worst ≠ .ok) (h : m'.reports = m.reports ++ [c.event evt sev worst]) : Alarm m m' :=
  ⟨_, h, Health.code_ne_zero hbad⟩

/-- **What a reading that is not OK leads to**: a report; nothing, in SAFE; or nothing
in NOMINAL, where a fault is filtered and a WARN that is no edge is passed over. -/
inductive BadReading (m : FdirMem) (worst : Health) (m' : FdirMem) : Prop
  | alarm (halarm : Alarm m m')
      (hedge : m.ctx.state = .nominal →
        m'.ctx.state = .recovering ∨ worst = .warn ∧ m.ctx.prevWorst = .ok)
  | inSafe (hs : m.ctx.state = .safe) (hs' : m'.ctx.state = .safe)
      (hreports : m'.reports = m.reports)
  | passedOver (hs : m.ctx.state = .nominal) (hs' : m'.ctx.state = .nominal)
      (hreports : m'.reports = m.reports) (hcause : worst = .fault ∨ m.ctx.prevWorst ≠ .ok)

theorem FdirTrans.bad {m m' : FdirMem} {worst : Health} {sources : U8}
    (h : FdirTrans m worst sources m') (hbad : worst ≠ .ok) : BadReading m worst m' := by
  cases h with
  | confirmed hs hw hneed =>
      exact .alarm (alarm_of_emit hbad (FdirMem.emit_reports _ _ _ _)) fun _ => .inl rfl
  | filtered hs hw hneed => exact .passedOver hs hs rfl (.inl hw)
  | warned hs hw hprev =>
      exact .alarm (alarm_of_emit hbad (FdirMem.emit_reports _ _ _ _)) fun _ => .inr ⟨hw, hprev⟩
  | calm hs hw hprev =>
      have hwarn : worst = .warn := by
        cases worst with
        | ok => exact absurd rfl hbad
        | warn => rfl
        | fault => exact absurd rfl hw
      exact .passedOver hs hs rfl (.inr fun hok => hprev ⟨hwarn, hok⟩)
  | recovered hs hw => exact absurd hw hbad
  | safeEntered hs hw ha | attempted hs hw ha =>
      refine .alarm (alarm_of_emit hbad (FdirMem.emit_reports _ _ _ _)) fun hn => ?_
      exact absurd (hn.symm.trans hs) FdirState.noConfusion
  | safe hs => exact .inSafe hs hs rfl

/-- Reports are never taken back. -/
theorem OpTrans.reports_grow {m m' : FdirMem} {op : FdirOp} (hb : Bounded m.ctx)
    (h : OpTrans m op m') : m.reports <+: m'.reports := by
  cases h.move hb with
  | silent hsilent _ => exact hsilent.reports ▸ List.prefix_refl _
  | speaks e hspeaks _ => exact ⟨[e], hspeaks.reports.symm⟩

/-! ## What the history says -/

section Run

variable (b : Bus FdirMem) (hooks : Option FdirHooks) (confirmCycles : U8)

/-- The reports made so far. -/
def reportsAfter (ops : List FdirOp) : List Event := (memAfter b hooks confirmCycles ops).reports

/-- The reports made since the last OK reading. -/
def reportsSinceOk (ops : List FdirOp) : List Event :=
  (reportsAfter b hooks confirmCycles ops).drop
    (reportsAfter b hooks confirmCycles (untilOk ops)).length

/-- Since the last OK reading there has been a report of a verdict other than OK. -/
def Notified (ops : List FdirOp) : Prop :=
  ∃ e ∈ reportsSinceOk b hooks confirmCycles ops, e.worst ≠ 0

/-- Every WARN in NOMINAL finds the ground notified. -/
def Reported (ops : List FdirOp) : Prop :=
  ∀ p sources, p ++ [FdirOp.step .warn sources] <+: ops →
    stateAfter b hooks confirmCycles p = .nominal →
    stateAfter b hooks confirmCycles (p ++ [FdirOp.step .warn sources]) = .nominal →
    Notified b hooks confirmCycles (p ++ [FdirOp.step .warn sources])

/-- NOMINAL, told by the readings and the exits. -/
theorem nominal_iff (ops : List FdirOp) :
    stateAfter b hooks confirmCycles ops = .nominal ↔ 4 < position confirmCycles ops := by
  have h := refines_run b hooks confirmCycles ops
  rw [position, ← h.position]
  exact nominal_iff_position h.counters

/-- **What FDIR can know of a condition**: the last reading was OK (`settled`); the
ground has been told (`heard`); the fault it began with was filtered, and nothing
has been said since (`swallowed`); it has only been seen in SAFE (`sheltered`). -/
inductive Standing (ops : List FdirOp) : Prop
  | settled (hread : verdicts (sinceOk ops) = [])
      (hprev : (memAfter b hooks confirmCycles ops).ctx.prevWorst = .ok)
      (hquiet : ¬Notified b hooks confirmCycles ops)
  | heard (hread : verdicts (sinceOk ops) ≠ [])
      (hprev : (memAfter b hooks confirmCycles ops).ctx.prevWorst ≠ .ok)
      (htold : Notified b hooks confirmCycles ops)
      (hclear : stateAfter b hooks confirmCycles ops ≠ .recovering →
        ¬Swallowed confirmCycles ops)
  | swallowed (hs : stateAfter b hooks confirmCycles ops = .nominal)
      (hprev : (memAfter b hooks confirmCycles ops).ctx.prevWorst ≠ .ok)
      (hquiet : ¬Notified b hooks confirmCycles ops)
      (hsw : Swallowed confirmCycles ops)
  | sheltered (hs : stateAfter b hooks confirmCycles ops = .safe)
      (hread : verdicts (sinceOk ops) ≠ [])
      (hprev : (memAfter b hooks confirmCycles ops).ctx.prevWorst ≠ .ok)
      (hclear : ¬Swallowed confirmCycles ops)

theorem reportsAfter_grow (ops more : List FdirOp) :
    reportsAfter b hooks confirmCycles ops <+:
      reportsAfter b hooks confirmCycles (ops ++ more) := by
  induction more using List.reverseRecOn with
  | nil =>
      rw [List.append_nil]
  | append_singleton more op ih =>
      rw [← List.append_assoc]
      exact ih.trans ((memAfter_trans b hooks confirmCycles _ op).reports_grow
        (bounded_after b hooks confirmCycles _))

/-- The reports up to the last OK are among those made so far. -/
theorem length_reports_untilOk (ops : List FdirOp) :
    (reportsAfter b hooks confirmCycles (untilOk ops)).length ≤
      (reportsAfter b hooks confirmCycles ops).length := by
  have hpre := reportsAfter_grow b hooks confirmCycles (untilOk ops) (sinceOk ops)
  rw [untilOk_append_sinceOk] at hpre
  exact hpre.length_le

variable {b hooks confirmCycles}

/-- Right after an OK reading nothing has been reported. -/
theorem not_notified_ok (ops : List FdirOp) (sources : U8) :
    ¬Notified b hooks confirmCycles (ops ++ [FdirOp.step .ok sources]) := by
  rintro ⟨e, he, _⟩
  rw [reportsSinceOk, untilOk_ok, List.drop_length] at he
  exact List.not_mem_nil he

section NotOk

variable {ops : List FdirOp} {op : FdirOp} (hop : op.notOk)
include hop

/-- A call that brings no OK adds its reports to those since the last OK. -/
theorem reportsSinceOk_append {es : List Event}
    (h : reportsAfter b hooks confirmCycles (ops ++ [op]) =
      reportsAfter b hooks confirmCycles ops ++ es) :
    reportsSinceOk b hooks confirmCycles (ops ++ [op]) =
      reportsSinceOk b hooks confirmCycles ops ++ es := by
  rw [reportsSinceOk, untilOk_notOk ops _ hop, h,
    List.drop_append_of_le_length (length_reports_untilOk b hooks confirmCycles ops),
    reportsSinceOk]

/-- An alarm notifies. -/
theorem notified_of_alarm (h : Alarm (memAfter b hooks confirmCycles ops)
    (memAfter b hooks confirmCycles (ops ++ [op]))) :
    Notified b hooks confirmCycles (ops ++ [op]) := by
  obtain ⟨e, hreports, hbad⟩ := h
  refine ⟨e, ?_, hbad⟩
  rw [reportsSinceOk_append hop hreports]
  exact List.mem_append_right _ (List.mem_singleton.2 rfl)

/-- A silent call notifies of nothing. -/
theorem notified_silent (h : (memAfter b hooks confirmCycles (ops ++ [op])).reports =
    (memAfter b hooks confirmCycles ops).reports) :
    Notified b hooks confirmCycles (ops ++ [op]) ↔ Notified b hooks confirmCycles ops := by
  have hnone : reportsAfter b hooks confirmCycles (ops ++ [op]) =
      reportsAfter b hooks confirmCycles ops ++ [] := by
    rw [List.append_nil]
    exact h
  rw [Notified, reportsSinceOk_append hop hnone, List.append_nil, Notified]

/-- Once there is a reading, a condition that was not swallowed stays so. -/
theorem Swallowed.of_append (hread : verdicts (sinceOk ops) ≠ [] ∨ op = .exitSafe)
    (h : Swallowed confirmCycles (ops ++ [op])) : Swallowed confirmCycles ops := by
  obtain ⟨hhead, hstay⟩ := h
  rw [sinceOk_notOk ops _ hop, verdicts_append] at hhead
  constructor
  · rcases hread with hne | rfl
    · rwa [List.head?_append_of_ne_nil _ hne] at hhead
    · rwa [verdicts_exitSafe, List.append_nil] at hhead
  · intro p worst sources hp
    rw [← untilOk_notOk ops _ hop]
    apply hstay p worst sources
    rw [sinceOk_notOk ops _ hop]
    exact hp.trans (List.prefix_append _ _)

end NotOk

/-! ## What each call keeps -/

theorem prevWorst_after (ops : List FdirOp) (worst : Health) (sources : U8) :
    (memAfter b hooks confirmCycles (ops ++ [FdirOp.step worst sources])).ctx.prevWorst = worst :=
  (memAfter_step b hooks confirmCycles ops worst sources).prevWorst

theorem verdicts_sinceOk_step (ops : List FdirOp) {worst : Health} (hbad : worst ≠ .ok)
    (sources : U8) :
    verdicts (sinceOk (ops ++ [FdirOp.step worst sources])) =
      verdicts (sinceOk ops) ++ [worst] := by
  rw [sinceOk_notOk ops _ (notOk_step hbad sources), verdicts_append, verdicts_step]

theorem verdicts_sinceOk_ne_nil (ops : List FdirOp) {worst : Health} (hbad : worst ≠ .ok)
    (sources : U8) : verdicts (sinceOk (ops ++ [FdirOp.step worst sources])) ≠ [] := by
  rw [verdicts_sinceOk_step ops hbad]
  exact List.concat_ne_nil _ _

section Bad

variable {ops : List FdirOp} {worst : Health} (hbad : worst ≠ .ok) (sources : U8)
include hbad

/-- The last reading was taken in NOMINAL, if all were. -/
theorem Swallowed.nominal
    (h : Swallowed confirmCycles (ops ++ [FdirOp.step worst sources])) :
    stateAfter b hooks confirmCycles ops = .nominal := by
  have hop := notOk_step hbad sources
  have hlast := h.2 (sinceOk ops) worst sources (by rw [sinceOk_notOk ops _ hop])
  rw [untilOk_notOk ops _ hop, untilOk_append_sinceOk] at hlast
  exact (nominal_iff b hooks confirmCycles ops).2 hlast

/-- A reading taken in NOMINAL leaves the condition swallowed, if it begins with a
fault. -/
theorem Swallowed.step (hs : stateAfter b hooks confirmCycles ops = .nominal)
    (hhead : (verdicts (sinceOk ops) ++ [worst]).head? = some .fault)
    (hstay : ∀ p w s, p ++ [FdirOp.step w s] <+: sinceOk ops →
      4 < position confirmCycles (untilOk ops ++ p)) :
    Swallowed confirmCycles (ops ++ [FdirOp.step worst sources]) := by
  have hop := notOk_step hbad sources
  refine ⟨by rw [verdicts_sinceOk_step ops hbad, hhead], ?_⟩
  intro p w s hp
  rw [sinceOk_notOk ops _ hop] at hp
  rw [untilOk_notOk ops _ hop]
  rcases List.prefix_concat_iff.1 hp with heq | hp
  · obtain ⟨rfl, _⟩ := List.append_inj' heq rfl
    rw [untilOk_append_sinceOk]
    exact (nominal_iff b hooks confirmCycles ops).1 hs
  · exact hstay p w s hp

theorem prevWorst_bad :
    (memAfter b hooks confirmCycles (ops ++ [FdirOp.step worst sources])).ctx.prevWorst ≠ .ok := by
  rw [prevWorst_after]
  exact hbad

/-- An alarm: from now on the ground has been told. -/
theorem Standing.alarm (h : Standing b hooks confirmCycles ops)
    (halarm : Alarm (memAfter b hooks confirmCycles ops)
      (memAfter b hooks confirmCycles (ops ++ [FdirOp.step worst sources])))
    (hedge : stateAfter b hooks confirmCycles ops = .nominal →
      stateAfter b hooks confirmCycles (ops ++ [FdirOp.step worst sources]) = .recovering ∨
        worst = .warn ∧ (memAfter b hooks confirmCycles ops).ctx.prevWorst = .ok) :
    Standing b hooks confirmCycles (ops ++ [FdirOp.step worst sources]) := by
  refine .heard (verdicts_sinceOk_ne_nil ops hbad sources) (prevWorst_bad hbad sources)
    (notified_of_alarm (notOk_step hbad sources) halarm) ?_
  intro hs' hsw
  -- a warning is raised on an edge only, so the condition begins with it
  obtain ⟨hwarn, hok⟩ := (hedge (hsw.nominal hbad sources)).resolve_left hs'
  cases h with
  | settled hread hprev _ =>
      have hhead := hsw.1
      rw [verdicts_sinceOk_step ops hbad, hread, hwarn] at hhead
      cases hhead
  | heard _ hprev _ _ | swallowed _ hprev _ _ | sheltered _ _ hprev _ => exact hprev hok

/-- A reading in SAFE. -/
theorem Standing.inSafe (h : Standing b hooks confirmCycles ops)
    (hs : stateAfter b hooks confirmCycles ops = .safe)
    (hs' : stateAfter b hooks confirmCycles (ops ++ [FdirOp.step worst sources]) = .safe)
    (hreports : reportsAfter b hooks confirmCycles (ops ++ [FdirOp.step worst sources]) =
      reportsAfter b hooks confirmCycles ops) :
    Standing b hooks confirmCycles (ops ++ [FdirOp.step worst sources]) := by
  have hread' := verdicts_sinceOk_ne_nil ops hbad sources
  have hprev' : (memAfter b hooks confirmCycles
      (ops ++ [FdirOp.step worst sources])).ctx.prevWorst ≠ .ok := prevWorst_bad hbad sources
  have hclear : ¬Swallowed confirmCycles (ops ++ [FdirOp.step worst sources]) := by
    intro hsw
    exact absurd (hs.symm.trans (hsw.nominal hbad sources)) FdirState.noConfusion
  cases h with
  | settled _ _ _ | sheltered _ _ _ _ => exact .sheltered hs' hread' hprev' hclear
  | heard _ _ htold _ =>
      have htold' := (notified_silent (notOk_step hbad sources) hreports).2 htold
      exact .heard hread' hprev' htold' fun _ => hclear
  | swallowed hn _ _ _ => exact absurd (hs.symm.trans hn) FdirState.noConfusion

/-- A reading that is passed over in NOMINAL. -/
theorem Standing.passedOver (h : Standing b hooks confirmCycles ops)
    (hs : stateAfter b hooks confirmCycles ops = .nominal)
    (hs' : stateAfter b hooks confirmCycles (ops ++ [FdirOp.step worst sources]) = .nominal)
    (hreports : reportsAfter b hooks confirmCycles (ops ++ [FdirOp.step worst sources]) =
      reportsAfter b hooks confirmCycles ops)
    (hcause : worst = .fault ∨ (memAfter b hooks confirmCycles ops).ctx.prevWorst ≠ .ok) :
    Standing b hooks confirmCycles (ops ++ [FdirOp.step worst sources]) := by
  have hop := notOk_step hbad sources
  have hprev' : (memAfter b hooks confirmCycles
      (ops ++ [FdirOp.step worst sources])).ctx.prevWorst ≠ .ok := prevWorst_bad hbad sources
  have hnotified := notified_silent hop hreports
  cases h with
  | settled hread hprev hq =>
      have hfault : worst = .fault := hcause.resolve_right fun hne => hne hprev
      refine .swallowed hs' hprev' (mt hnotified.1 hq) (Swallowed.step hbad sources hs ?_ ?_)
      · rw [hread, hfault]
        rfl
      · rintro p w s ⟨rest, heq⟩
        rw [← heq, verdicts_append, verdicts_append, verdicts_step] at hread
        simp at hread
  | heard hread hprev htold hclear =>
      refine .heard (verdicts_sinceOk_ne_nil ops hbad sources) hprev' (hnotified.2 htold) ?_
      intro _ hsw
      exact hclear (by rw [hs]; exact FdirState.noConfusion) (hsw.of_append hop (.inl hread))
  | swallowed _ hprev hq hsw =>
      refine .swallowed hs' hprev' (mt hnotified.1 hq) (Swallowed.step hbad sources hs ?_ hsw.2)
      rw [List.head?_append, hsw.1]
      rfl
  | sheltered hsafe _ _ _ => exact absurd (hs.symm.trans hsafe) FdirState.noConfusion

/-- **A reading that is not OK.** -/
theorem Standing.bad (h : Standing b hooks confirmCycles ops) :
    Standing b hooks confirmCycles (ops ++ [FdirOp.step worst sources]) := by
  cases (memAfter_step b hooks confirmCycles ops worst sources).bad hbad with
  | alarm halarm hedge => exact h.alarm hbad sources halarm hedge
  | inSafe hs hs' hreports => exact h.inSafe hbad sources hs hs' hreports
  | passedOver hs hs' hreports hcause => exact h.passedOver hbad sources hs hs' hreports hcause

end Bad

/-- **An OK reading** settles everything. -/
theorem standing_ok (ops : List FdirOp) (sources : U8) :
    Standing b hooks confirmCycles (ops ++ [FdirOp.step .ok sources]) := by
  apply Standing.settled
  · rw [sinceOk_ok, verdicts_nil]
  · rw [prevWorst_after]
  · exact not_notified_ok ops sources

/-- A refused ground exit leaves a condition as swallowed as it was. -/
theorem Swallowed.exitSafe {ops : List FdirOp} (h : Swallowed confirmCycles ops) :
    Swallowed confirmCycles (ops ++ [FdirOp.exitSafe]) := by
  obtain ⟨hhead, hstay⟩ := h
  rw [Swallowed, untilOk_notOk ops .exitSafe rfl, sinceOk_notOk ops .exitSafe rfl,
    verdicts_append, verdicts_exitSafe, List.append_nil]
  refine ⟨hhead, ?_⟩
  intro p worst sources hp
  rcases List.prefix_concat_iff.1 hp with heq | hp
  · -- the last call is the exit, and no step
    obtain ⟨_, hlast⟩ := List.append_inj' heq rfl
    cases hlast
  · exact hstay p worst sources hp

section Exit

variable {ops : List FdirOp}

theorem verdicts_sinceOk_exitSafe :
    verdicts (sinceOk (ops ++ [FdirOp.exitSafe])) = verdicts (sinceOk ops) := by
  rw [sinceOk_notOk ops .exitSafe rfl, verdicts_append, verdicts_exitSafe, List.append_nil]

theorem not_swallowed_exitSafe (hclear : ¬Swallowed confirmCycles ops) :
    ¬Swallowed confirmCycles (ops ++ [FdirOp.exitSafe]) :=
  fun hsw => hclear (hsw.of_append rfl (.inr rfl))

/-- A ground exit outside SAFE. -/
theorem Standing.refused (h : Standing b hooks confirmCycles ops)
    (hne : stateAfter b hooks confirmCycles ops ≠ .safe)
    (hmem : memAfter b hooks confirmCycles (ops ++ [FdirOp.exitSafe]) =
      memAfter b hooks confirmCycles ops) :
    Standing b hooks confirmCycles (ops ++ [FdirOp.exitSafe]) := by
  have hop : FdirOp.notOk .exitSafe := rfl
  have hnotified := notified_silent hop (congrArg FdirMem.reports hmem)
  have hstate : stateAfter b hooks confirmCycles (ops ++ [FdirOp.exitSafe]) =
      stateAfter b hooks confirmCycles ops := by
    rw [stateAfter, hmem, stateAfter]
  cases h with
  | settled hread hprev hq =>
      exact .settled (verdicts_sinceOk_exitSafe.trans hread) (by rwa [hmem]) (mt hnotified.1 hq)
  | heard hread hprev htold hclear =>
      refine .heard (by rwa [verdicts_sinceOk_exitSafe]) (by rwa [hmem]) (hnotified.2 htold) ?_
      intro hs'
      exact not_swallowed_exitSafe (hclear (by rwa [hstate] at hs'))
  | swallowed hs hprev hq hsw =>
      exact .swallowed (hstate.trans hs) (by rwa [hmem]) (mt hnotified.1 hq) hsw.exitSafe
  | sheltered hs hread hprev hclear => exact absurd hs hne

/-- A ground exit from SAFE: it reports the last verdict, whatever that was. -/
theorem Standing.granted (h : Standing b hooks confirmCycles ops)
    (hs : stateAfter b hooks confirmCycles ops = .safe)
    (hmem : memAfter b hooks confirmCycles (ops ++ [FdirOp.exitSafe]) =
      (memAfter b hooks confirmCycles ops).exitSafe) :
    Standing b hooks confirmCycles (ops ++ [FdirOp.exitSafe]) := by
  have hop : FdirOp.notOk .exitSafe := rfl
  have hreports : reportsAfter b hooks confirmCycles (ops ++ [FdirOp.exitSafe]) =
      reportsAfter b hooks confirmCycles ops ++
        [(memAfter b hooks confirmCycles ops).ctx.exitSafe.event evtSafeExit .info
          (memAfter b hooks confirmCycles ops).ctx.prevWorst] := by
    rw [reportsAfter, hmem, FdirMem.exitSafe, FdirMem.clearMasks_reports, FdirMem.emit_reports]
    rfl
  have hprevAfter : (memAfter b hooks confirmCycles (ops ++ [FdirOp.exitSafe])).ctx.prevWorst =
      (memAfter b hooks confirmCycles ops).ctx.prevWorst := by
    rw [hmem]
    rfl
  have htold : (memAfter b hooks confirmCycles ops).ctx.prevWorst ≠ .ok →
      Notified b hooks confirmCycles (ops ++ [FdirOp.exitSafe]) :=
    fun hprev => notified_of_alarm hop (alarm_of_emit hprev hreports)
  cases h with
  | settled hread hprev hq =>
      refine .settled (verdicts_sinceOk_exitSafe.trans hread) (hprevAfter.trans hprev) ?_
      rintro ⟨e, he, hbad⟩
      rw [reportsSinceOk_append hop hreports, List.mem_append, List.mem_singleton] at he
      rcases he with he | rfl
      · exact hq ⟨e, he, hbad⟩
      · apply hbad
        show BitVec.ofNat 8 _ = 0
        rw [hprev]
        rfl
  | heard hread hprev _ hclear =>
      refine .heard (by rwa [verdicts_sinceOk_exitSafe]) (by rwa [hprevAfter]) (htold hprev) ?_
      intro _
      exact not_swallowed_exitSafe
        (hclear fun hr => absurd (hs.symm.trans hr) FdirState.noConfusion)
  | swallowed hn _ _ _ => exact absurd (hs.symm.trans hn) FdirState.noConfusion
  | sheltered _ hread hprev hclear =>
      refine .heard (by rwa [verdicts_sinceOk_exitSafe]) (by rwa [hprevAfter]) (htold hprev) ?_
      intro _
      exact not_swallowed_exitSafe hclear

/-- **A ground exit.** -/
theorem Standing.exitSafe (h : Standing b hooks confirmCycles ops) :
    Standing b hooks confirmCycles (ops ++ [FdirOp.exitSafe]) := by
  rcases (memAfter_trans b hooks confirmCycles ops .exitSafe).of_exitSafe with
    ⟨hne, hmem⟩ | ⟨hs, hmem⟩
  · exact h.refused hne hmem
  · exact h.granted hs hmem

end Exit

variable (b hooks confirmCycles)

/-- **FDIR's knowledge of the standing condition**, after every run. -/
theorem standing_run (ops : List FdirOp) : Standing b hooks confirmCycles ops := by
  induction ops using List.reverseRecOn with
  | nil =>
      refine .settled rfl rfl ?_
      rintro ⟨e, he, _⟩
      exact List.not_mem_nil he
  | append_singleton ops op ih =>
      cases op with
      | exitSafe => exact ih.exitSafe
      | step worst sources =>
          by_cases hok : worst = .ok
          · rw [hok]
            exact standing_ok ops sources
          · exact ih.bad hok sources

/-- In NOMINAL, with a reading that is not OK, the ground has been told unless the
condition was swallowed. -/
theorem notified_iff (ops : List FdirOp) (hread : verdicts (sinceOk ops) ≠ [])
    (hs : stateAfter b hooks confirmCycles ops = .nominal) :
    Notified b hooks confirmCycles ops ↔ ¬Swallowed confirmCycles ops := by
  cases standing_run b hooks confirmCycles ops with
  | settled hnone _ _ => exact absurd hnone hread
  | heard _ _ htold hclear =>
      exact iff_of_true htold (hclear (by rw [hs]; exact FdirState.noConfusion))
  | swallowed _ _ hq hsw => exact iff_of_false hq (not_not_intro hsw)
  | sheltered hsafe _ _ _ => exact absurd (hs.symm.trans hsafe) FdirState.noConfusion

/-- A WARN in NOMINAL leaves FDIR there. -/
theorem nominal_of_warn (ops : List FdirOp) (sources : U8)
    (hs : stateAfter b hooks confirmCycles ops = .nominal) :
    stateAfter b hooks confirmCycles (ops ++ [FdirOp.step .warn sources]) = .nominal := by
  have htrans := memAfter_step b hooks confirmCycles ops .warn sources
  rcases htrans.of_nominal hs with hn | ⟨hr, _⟩
  · exact hn
  · have hfault := ((htrans.recovering_iff (streakInv_after b hooks confirmCycles ops) hs).1 hr).1
    cases hfault

/-- **Which standing WARNs are reported**, in every run and with `confirm_cycles` fixed at
any value: a WARN in NOMINAL finds the ground notified unless the condition was swallowed,
its first reading a fault and every reading since taken in NOMINAL, and then it does not.
The runs that report every one are those in which no WARN meets such a condition; the
readings and the exits alone tell which they are. -/
theorem reported_iff (b : Bus FdirMem) (hooks : Option FdirHooks) (confirmCycles : U8)
    (ops : List FdirOp) :
    (∀ p sources, p ++ [FdirOp.step .warn sources] <+: ops →
      stateAfter b hooks confirmCycles p = .nominal →
      stateAfter b hooks confirmCycles (p ++ [FdirOp.step .warn sources]) = .nominal ∧
        (Notified b hooks confirmCycles (p ++ [FdirOp.step .warn sources]) ↔
          ¬Swallowed confirmCycles (p ++ [FdirOp.step .warn sources]))) ∧
    (Reported b hooks confirmCycles ops ↔
      ∀ p sources, p ++ [FdirOp.step .warn sources] <+: ops →
        ¬Swallowed confirmCycles (p ++ [FdirOp.step .warn sources])) := by
  have hiff : ∀ p sources, stateAfter b hooks confirmCycles p = .nominal →
      (Notified b hooks confirmCycles (p ++ [FdirOp.step .warn sources]) ↔
        ¬Swallowed confirmCycles (p ++ [FdirOp.step .warn sources])) := by
    intro p sources hs
    apply notified_iff
    · exact verdicts_sinceOk_ne_nil p Health.noConfusion sources
    · exact nominal_of_warn b hooks confirmCycles p sources hs
  refine ⟨fun p sources _ hs =>
    ⟨nominal_of_warn b hooks confirmCycles p sources hs, hiff p sources hs⟩, ?_⟩
  constructor
  · intro h p sources hp hsw
    -- a swallowed WARN was taken in NOMINAL
    have hs : stateAfter b hooks confirmCycles p = .nominal :=
      hsw.nominal Health.noConfusion sources
    exact (hiff p sources hs).1
      (h p sources hp hs (nominal_of_warn b hooks confirmCycles p sources hs)) hsw
  · intro h p sources hp hs _
    exact (hiff p sources hs).2 (h p sources hp)

/-- A fault that is filtered and then a WARN: FDIR sits in NOMINAL on it and has
sent nothing. -/
theorem warning_swallowed :
    let b := obdhInit true true (fdirInit none)
    let ops : List FdirOp := [.step .fault 1, .step .warn 1]
    stateAfter b none 2 ops = .nominal ∧ reportsAfter b none 2 ops = [] ∧
      ¬Reported b none 2 ops := by
  intro b ops
  refine ⟨by decide +kernel, by decide +kernel, ?_⟩
  intro h
  obtain ⟨e, he, _⟩ := h [.step .fault 1] 1 (List.prefix_refl _) (by decide +kernel)
    (by decide +kernel)
  have hnone : reportsSinceOk b none 2 ops = [] := by decide +kernel
  rw [show [.step .fault 1] ++ [FdirOp.step .warn 1] = ops from rfl, hnone] at he
  exact List.not_mem_nil he

end Run

end Fdir
end SpacecraftFsw
