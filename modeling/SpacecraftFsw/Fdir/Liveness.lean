import SpacecraftFsw.Fdir.Watchdog

/-!
# The watchdog under interleaving

Tasks kick at any time, also between two iterations of a check.  What matters of
such a run is its history: the kicks, and the moments at which a check reads a
counter.

* `watchdogCheckWith` — a check with kicks arriving in the middle of it.
* `sinceRead` — how often a task has kicked since its counter was last read.
* `Tracks` — counters and snapshots are that number apart; `Tracks.kick` and
  `Tracks.read` are the arguments for one event.
* `watchdog_exact` — what every check of every run reports.
-/

namespace SpacecraftFsw
namespace Fdir

/-! ## Histories -/

/-- What happens to a watchdog: a kick, or a check reading the counter of task `i`. -/
inductive WdEvent
  | kick (id : ℤ)
  | read (i : ℕ)
  deriving DecidableEq, Repr

/-- Whether an event is about task `i`. -/
def WdEvent.about (i : ℕ) : WdEvent → Bool
  | .kick id => id = i
  | .read j => j = i

/-- One more event, seen from task `i`. -/
def countSince (i : ℕ) (n : ℕ) : WdEvent → ℕ
  | .kick id => if id = i then n + 1 else n
  | .read j => if j = i then 0 else n

/-- The kicks of task `i` since its counter was last read. -/
def sinceRead (i : ℕ) (h : List WdEvent) : ℕ := h.foldl (countSince i) 0

/-- The kicks of task `i`. -/
def kicksOf (i : ℕ) (h : List WdEvent) : ℕ := h.countP fun e => e = .kick i

/-- No counter comes round between two reads of it. -/
def Paced (h : List WdEvent) : Prop :=
  ∀ h₀ i, h₀ ++ [.read i] <+: h → sinceRead i h₀ < 2 ^ 32

theorem Paced.before {h h' : List WdEvent} (hp : Paced (h ++ h')) : Paced h :=
  fun h₀ i hpre => hp h₀ i (hpre.trans (List.prefix_append _ _))

@[simp] theorem sinceRead_nil (i : ℕ) : sinceRead i [] = 0 := rfl

@[simp] theorem sinceRead_kick (i : ℕ) (h : List WdEvent) (id : ℤ) :
    sinceRead i (h ++ [.kick id]) = if id = i then sinceRead i h + 1 else sinceRead i h := by
  simp [sinceRead, countSince]

@[simp] theorem sinceRead_read (i : ℕ) (h : List WdEvent) (j : ℕ) :
    sinceRead i (h ++ [.read j]) = if j = i then 0 else sinceRead i h := by
  simp [sinceRead, countSince]

@[simp] theorem kicksOf_append (i : ℕ) (h h' : List WdEvent) :
    kicksOf i (h ++ h') = kicksOf i h + kicksOf i h' := List.countP_append

@[simp] theorem kicksOf_kick (i : ℕ) (id : ℤ) :
    kicksOf i [.kick id] = if id = i then 1 else 0 := by
  by_cases hid : id = i <;> simp [kicksOf, hid]

@[simp] theorem kicksOf_read (i j : ℕ) : kicksOf i [.read j] = 0 := by
  simp [kicksOf]

/-- Only the events of its own task matter. -/
theorem sinceRead_filter (i : ℕ) (h : List WdEvent) :
    sinceRead i (h.filter (WdEvent.about i)) = sinceRead i h := by
  induction h using List.reverseRecOn with
  | nil => rfl
  | append_singleton h e ih =>
      cases e with
      | kick id =>
          by_cases hid : id = i <;> simp [List.filter_append, WdEvent.about, hid, ih]
      | read j =>
          by_cases hj : j = i <;> simp [List.filter_append, WdEvent.about, hj, ih]

/-! ## One event -/

/-- The counter of task `i`. -/
def Watchdog.beat (w : Watchdog) (i : ℕ) : U32 := w.heartbeat[i]?.getD 0

/-- The snapshot of task `i`. -/
def Watchdog.snap (w : Watchdog) (i : ℕ) : U32 := w.last[i]?.getD 0

/-- The store at the end of an iteration of the loop of `watchdog_check`. -/
def Watchdog.read (w : Watchdog) (i : ℕ) : Watchdog :=
  { w with last := w.last.setIfInBounds i (w.beat i) }

theorem wdKick_out_of_range {id : ℤ} (h : ¬(0 ≤ id ∧ id < 3)) (w : Watchdog) : wdKick w id = w :=
  if_neg h

@[simp] theorem snap_wdKick (w : Watchdog) (id : ℤ) (i : ℕ) : (wdKick w id).snap i = w.snap i := by
  unfold wdKick
  split <;> rfl

theorem beat_wdKick (w : Watchdog) (id : ℤ) {i : ℕ} (hi : i < nTasks) :
    (wdKick w id).beat i = if id = i then w.beat i + 1 else w.beat i := by
  unfold wdKick
  by_cases hid : id = i
  · subst hid
    have hrange : 0 ≤ (i : ℤ) ∧ (i : ℤ) < nTasks := ⟨by omega, by exact_mod_cast hi⟩
    simp [hrange, Watchdog.beat, hi]
  · rw [if_neg hid]
    split
    · have hne : id.toNat ≠ i := by omega
      simp [Watchdog.beat, hne]
    · rfl

@[simp] theorem beat_read (w : Watchdog) (j i : ℕ) : (w.read j).beat i = w.beat i := rfl

theorem snap_read (w : Watchdog) {j i : ℕ} (hi : i < nTasks) :
    (w.read j).snap i = if j = i then w.beat i else w.snap i := by
  by_cases hj : j = i
  · subst hj
    simp [Watchdog.snap, Watchdog.read, hi]
  · simp [Watchdog.snap, Watchdog.read, hj]

theorem checkTask_eq (worst : Health) (mask : U8) (w : Watchdog) (i : ℕ) :
    checkTask (worst, mask, w) i =
      if w.beat i = w.snap i then (.fault, mask ||| (1#8 <<< i), w.read i)
      else (worst, mask, w.read i) := by
  by_cases hstuck : w.beat i = w.snap i
  · rw [if_pos hstuck]
    simp only [checkTask, if_pos (show w.heartbeat[i]?.getD 0 = w.last[i]?.getD 0 from hstuck)]
    rfl
  · rw [if_neg hstuck]
    simp only [checkTask, if_neg (show ¬w.heartbeat[i]?.getD 0 = w.last[i]?.getD 0 from hstuck)]
    rfl

/-- **The counters run ahead of the snapshots** by the kicks since the last read. -/
def Tracks (h : List WdEvent) (w : Watchdog) : Prop :=
  ∀ i < nTasks, w.beat i = w.snap i + (sinceRead i h : U32)

theorem tracks_wdInit (w : Watchdog) : Tracks [] (wdInit w) := by
  intro i _
  simp [Watchdog.beat, Watchdog.snap, wdInit]

namespace Tracks

variable {h : List WdEvent} {w : Watchdog}

theorem kick (ht : Tracks h w) (id : ℤ) : Tracks (h ++ [.kick id]) (wdKick w id) := by
  intro i hi
  rw [beat_wdKick w id hi, snap_wdKick, sinceRead_kick, ht i hi]
  split
  · push_cast
    ring
  · rfl

theorem kicks (ht : Tracks h w) (ids : List ℤ) :
    Tracks (h ++ ids.map .kick) (ids.foldl wdKick w) := by
  induction ids generalizing h w with
  | nil => simpa using ht
  | cons id ids ih => simpa using ih (ht.kick id)

theorem read (ht : Tracks h w) (j : ℕ) : Tracks (h ++ [.read j]) (w.read j) := by
  intro i hi
  rw [beat_read, snap_read w hi, sinceRead_read]
  split
  · simp
  · exact ht i hi

/-- Counter and snapshot agree if the kicks since the last read come to nothing. -/
theorem stuck_iff (ht : Tracks h w) {i : ℕ} (hi : i < nTasks) :
    w.beat i = w.snap i ↔ (sinceRead i h : U32) = 0 := by
  rw [ht i hi]
  exact add_eq_left

end Tracks

/-! ## A check -/

/-- `watchdog_check`, with the kicks `before i` arriving ahead of iteration `i`. -/
def watchdogCheckWith (before : ℕ → List ℤ) (w : Watchdog) : Health × U8 × Watchdog :=
  (List.range nTasks).foldl
    (fun r i => checkTask (r.1, r.2.1, (before i).foldl wdKick r.2.2) i) (.ok, 0, w)

/-- Without kicks in the middle it is `watchdog_check`. -/
theorem watchdogCheckWith_none (w : Watchdog) :
    watchdogCheckWith (fun _ => []) w = watchdogCheck w := rfl

/-- The events of the first `k` iterations of a check. -/
def firstRounds (before : ℕ → List ℤ) (k : ℕ) : List WdEvent :=
  (List.range k).flatMap fun i => (before i).map .kick ++ [.read i]

/-- The history at the moment a check reads the counter of task `i`. -/
def atRead (h : List WdEvent) (before : ℕ → List ℤ) (i : ℕ) : List WdEvent :=
  h ++ firstRounds before i ++ (before i).map .kick

theorem firstRounds_succ (h : List WdEvent) (before : ℕ → List ℤ) (k : ℕ) :
    h ++ firstRounds before (k + 1) = atRead h before k ++ [.read k] := by
  simp [firstRounds, atRead, List.range_succ]

/-- What the first `k` iterations of a check have found out. -/
structure Checked (h : List WdEvent) (w : Watchdog) (before : ℕ → List ℤ) (k : ℕ)
    (r : Health × U8 × Watchdog) : Prop where
  tracks : Tracks (h ++ firstRounds before k) r.2.2
  agree : Agree r.1 r.2.1
  mask : ∀ i, r.2.1.getLsbD i = true ↔ i < k ∧ (sinceRead i (atRead h before i) : U32) = 0
  moved : ∀ i < nTasks, r.2.2.snap i =
    w.snap i + if i < k then (sinceRead i (atRead h before i) : U32) else 0

theorem getLsbD_bit {k : ℕ} (hk : k < nTasks) (mask : U8) (i : ℕ) :
    (mask ||| (1#8 <<< k)).getLsbD i = (mask.getLsbD i || decide (i = k)) := by
  unfold nTasks at hk
  rw [BitVec.getLsbD_or]
  congr 1
  rw [BitVec.getLsbD_shiftLeft, BitVec.getLsbD_one]
  grind

@[simp] theorem snap_kicks (w : Watchdog) (ids : List ℤ) (i : ℕ) :
    (ids.foldl wdKick w).snap i = w.snap i := by
  induction ids generalizing w with
  | nil => rfl
  | cons id ids ih => rw [List.foldl_cons, ih, snap_wdKick]

/-- **One iteration.** -/
theorem Checked.round {h : List WdEvent} {w : Watchdog} {before : ℕ → List ℤ} {k : ℕ}
    {r : Health × U8 × Watchdog} (hr : Checked h w before k r) (hk : k < nTasks) :
    Checked h w before (k + 1) (checkTask (r.1, r.2.1, (before k).foldl wdKick r.2.2) k) := by
  set w' := (before k).foldl wdKick r.2.2 with hw'
  have htracks : Tracks (atRead h before k) w' := hr.tracks.kicks (before k)
  have hstuck := htracks.stuck_iff hk
  have hagree := checkTask_agree (r := (r.1, r.2.1, w')) hr.agree hk
  have hread : (checkTask (r.1, r.2.1, w') k).2.2 = w'.read k := by
    rw [checkTask_eq]
    split <;> rfl
  refine ⟨?_, hagree, fun i => ?_, fun i hi => ?_⟩
  · rw [hread, firstRounds_succ]
    exact htracks.read k
  · rw [checkTask_eq]
    by_cases hbeat : w'.beat k = w'.snap k
    · have hzero := hstuck.1 hbeat
      rw [if_pos hbeat, getLsbD_bit hk, Bool.or_eq_true, hr.mask i, decide_eq_true_eq]
      constructor
      · rintro (⟨hlt, hnone⟩ | rfl)
        · exact ⟨hlt.trans (Nat.lt_succ_self k), hnone⟩
        · exact ⟨Nat.lt_succ_self i, hzero⟩
      · rintro ⟨hlt, hnone⟩
        rcases Nat.lt_succ_iff_lt_or_eq.1 hlt with hlt | heq
        · exact .inl ⟨hlt, hnone⟩
        · exact .inr heq
    · have hmoved : (sinceRead k (atRead h before k) : U32) ≠ 0 := fun hnone => hbeat (hstuck.2 hnone)
      rw [if_neg hbeat, hr.mask i]
      refine and_congr_left fun hnone => ⟨fun hlt => hlt.trans (Nat.lt_succ_self k), ?_⟩
      intro hlt
      refine lt_of_le_of_ne (Nat.le_of_lt_succ hlt) ?_
      rintro rfl
      exact hmoved hnone
  · have hsnap : w'.snap i = _ := (snap_kicks r.2.2 (before k) i).trans (hr.moved i hi)
    rw [hread, snap_read w' hi]
    by_cases hki : k = i
    · subst hki
      rw [if_pos rfl, htracks k hk, hsnap, if_neg (lt_irrefl k), if_pos (Nat.lt_succ_self k),
        add_zero]
    · have hlt : i < k + 1 ↔ i < k := by omega
      rw [if_neg hki, hsnap]
      simp only [hlt]

/-- **A whole check.** -/
theorem checked {h : List WdEvent} {w : Watchdog} (ht : Tracks h w) (before : ℕ → List ℤ) :
    Checked h w before nTasks (watchdogCheckWith before w) := by
  have hloop : ∀ k ≤ nTasks, Checked h w before k ((List.range k).foldl
      (fun r i => checkTask (r.1, r.2.1, (before i).foldl wdKick r.2.2) i) (.ok, 0, w)) := by
    intro k
    induction k with
    | zero =>
        intro _
        exact ⟨by simpa [firstRounds] using ht, .inl ⟨rfl, rfl⟩, by simp, by simp⟩
    | succ k ih =>
        intro hk
        rw [List.range_succ, List.foldl_append]
        exact (ih (Nat.le_of_succ_le hk)).round hk
  exact hloop nTasks (Nat.le_refl _)

/-! ## Runs -/

/-- A kick between checks, or a check with the kicks that arrive in it. -/
inductive WdOp
  | kick (id : ℤ)
  | check (before : ℕ → List ℤ)

/-- The watchdog after one operation. -/
def wdOp (w : Watchdog) : WdOp → Watchdog
  | .kick id => wdKick w id
  | .check before => (watchdogCheckWith before w).2.2

/-- The watchdog after a sequence of operations. -/
def wdRun (w : Watchdog) (ops : List WdOp) : Watchdog := ops.foldl wdOp w

/-- The events of one operation. -/
def WdOp.events : WdOp → List WdEvent
  | .kick id => [.kick id]
  | .check before => firstRounds before nTasks

/-- The history of a run. -/
def wdHistory (ops : List WdOp) : List WdEvent := ops.flatMap WdOp.events

theorem wdHistory_append (ops : List WdOp) (op : WdOp) :
    wdHistory (ops ++ [op]) = wdHistory ops ++ op.events := by
  simp [wdHistory]

theorem wdRun_append (w : Watchdog) (ops : List WdOp) (op : WdOp) :
    wdRun w (ops ++ [op]) = wdOp (wdRun w ops) op := by
  simp [wdRun]

/-- **Counters and snapshots in every run.** -/
theorem tracks_run (w₀ : Watchdog) (ops : List WdOp) :
    Tracks (wdHistory ops) (wdRun (wdInit w₀) ops) := by
  induction ops using List.reverseRecOn with
  | nil => exact tracks_wdInit w₀
  | append_singleton ops op ih =>
      rw [wdHistory_append, wdRun_append]
      cases op with
      | kick id => exact ih.kick id
      | check before => exact (checked ih before).tracks

/-! ## Every kick is counted once -/

/-- What the checks of a run add to the snapshot of task `i`, all told. -/
def counted (i : ℕ) (w : Watchdog) : List WdOp → ℕ
  | [] => 0
  | op :: ops => ((wdOp w op).snap i - w.snap i).toNat + counted i (wdOp w op) ops

theorem counted_append (i : ℕ) (w : Watchdog) (ops : List WdOp) (op : WdOp) :
    counted i w (ops ++ [op]) =
      counted i w ops + ((wdOp (wdRun w ops) op).snap i - (wdRun w ops).snap i).toNat := by
  induction ops generalizing w with
  | nil => simp [counted, wdRun]
  | cons op' ops ih =>
      rw [List.cons_append, counted, counted, ih, ← Nat.add_assoc]
      rfl

theorem sinceRead_kicks (i : ℕ) (h : List WdEvent) (ids : List ℤ) :
    sinceRead i (h ++ ids.map .kick) = sinceRead i h + kicksOf i (ids.map .kick) := by
  induction ids using List.reverseRecOn with
  | nil => simp [kicksOf]
  | append_singleton ids id ih =>
      rw [List.map_append, ← List.append_assoc, List.map_singleton, sinceRead_kick, ih,
        kicksOf_append, kicksOf_kick]
      split
      · rw [Nat.add_assoc]
      · rfl

/-- The kicks that arrive in a check are counted by it, or left for the next one. -/
theorem kicksOf_rounds (h : List WdEvent) (before : ℕ → List ℤ) (i k : ℕ) :
    sinceRead i h + kicksOf i (firstRounds before k) =
      (if i < k then sinceRead i (atRead h before i) else 0)
        + sinceRead i (h ++ firstRounds before k) := by
  induction k with
  | zero => simp [firstRounds, kicksOf]
  | succ k ih =>
      have hkicks : kicksOf i (firstRounds before (k + 1)) =
          kicksOf i (firstRounds before k) + kicksOf i ((before k).map .kick) := by
        simp [firstRounds, List.range_succ]
      have hread : sinceRead i (atRead h before k) =
          sinceRead i (h ++ firstRounds before k) + kicksOf i ((before k).map .kick) :=
        sinceRead_kicks i _ _
      rw [firstRounds_succ, sinceRead_read, hkicks]
      by_cases hik : k = i
      · subst hik
        simp only [lt_irrefl, if_false] at ih
        simp only [Nat.lt_succ_self, if_true]
        omega
      · have hlt : i < k + 1 ↔ i < k := by omega
        simp only [hik, if_false, hlt]
        omega

theorem firstRounds_initial (before : ℕ → List ℤ) {k n : ℕ} (hkn : k ≤ n) :
    firstRounds before k <+: firstRounds before n := by
  induction n, hkn using Nat.le_induction with
  | base => exact List.prefix_refl _
  | succ n _ ih =>
      have hsucc := firstRounds_succ [] before n
      rw [List.nil_append, atRead, List.nil_append, List.append_assoc] at hsucc
      rw [hsucc]
      exact ih.trans (List.prefix_append _ _)

/-- The moment of a read is a moment of the history. -/
theorem Paced.atRead {h : List WdEvent} {before : ℕ → List ℤ}
    (hp : Paced (h ++ firstRounds before nTasks)) {i : ℕ} (hi : i < nTasks) :
    sinceRead i (atRead h before i) < 2 ^ 32 := by
  refine hp _ i ?_
  rw [← firstRounds_succ]
  exact (List.prefix_append_right_inj h).2 (firstRounds_initial before hi)

/-- **No kick is lost, and none is counted twice.** -/
theorem counted_run (w₀ : Watchdog) {ops : List WdOp} (hpace : Paced (wdHistory ops)) {i : ℕ}
    (hi : i < nTasks) :
    counted i (wdInit w₀) ops + sinceRead i (wdHistory ops) = kicksOf i (wdHistory ops) := by
  induction ops using List.reverseRecOn with
  | nil => rfl
  | append_singleton ops op ih =>
      rw [wdHistory_append] at hpace ⊢
      rw [counted_append]
      have hbefore := ih hpace.before
      cases op with
      | kick id =>
          rw [wdOp, snap_wdKick, BitVec.sub_self, WdOp.events, sinceRead_kick, kicksOf_append,
            kicksOf_kick, ← hbefore]
          split
          · exact (Nat.add_assoc _ _ _).symm
          · rfl
      | check before =>
          have hmoved := (checked (tracks_run w₀ ops) before).moved i hi
          have hrounds := kicksOf_rounds (wdHistory ops) before i nTasks
          rw [if_pos hi] at hmoved hrounds
          have hcount : ((wdOp (wdRun (wdInit w₀) ops) (.check before)).snap i
              - (wdRun (wdInit w₀) ops).snap i).toNat =
                sinceRead i (atRead (wdHistory ops) before i) := by
            rw [wdOp, hmoved, add_sub_cancel_left]
            simpa using Nat.mod_eq_of_lt (hpace.atRead hi)
          rw [hcount, kicksOf_append, WdOp.events]
          omega

/-- **The watchdog is exact under every interleaving.**  After every run from
`wd_init`, whatever the counters were, and for every check, whatever kicks arrive
in it, as long as no counter comes round between two reads of it:

* task `i` is in the stalled mask if and only if it has not kicked since its
  counter was last read, and no other bit is ever set;
* the verdict is a fault exactly when the mask is not empty, and health otherwise;
* what the checks have counted for a task, and what is still to be counted, are
  its kicks;
* a kick with an identifier out of range changes nothing;
* whatever else differs, counters at the start or kicks of other tasks, two runs
  in which task `i` kicks alike give the same verdict on it. -/
theorem watchdog_exact (w₀ : Watchdog) (ops : List WdOp) (before : ℕ → List ℤ)
    (hpace : Paced (wdHistory (ops ++ [WdOp.check before]))) :
    let r := watchdogCheckWith before (wdRun (wdInit w₀) ops)
    (∀ i, r.2.1.getLsbD i = true ↔ i < 3 ∧ sinceRead i (atRead (wdHistory ops) before i) = 0) ∧
    (r.1 = .fault ↔ r.2.1 ≠ 0) ∧ (r.1 = .ok ↔ r.2.1 = 0) ∧
    (∀ i < 3, counted i (wdInit w₀) (ops ++ [WdOp.check before])
        + sinceRead i (wdHistory (ops ++ [WdOp.check before]))
      = kicksOf i (wdHistory (ops ++ [WdOp.check before]))) ∧
    (∀ w id, ¬(0 ≤ id ∧ id < 3) → wdKick w id = w) ∧
    (∀ w₀' ops' before', Paced (wdHistory (ops' ++ [WdOp.check before'])) → ∀ i < 3,
      (atRead (wdHistory ops') before' i).filter (WdEvent.about i) =
          (atRead (wdHistory ops) before i).filter (WdEvent.about i) →
        (watchdogCheckWith before' (wdRun (wdInit w₀') ops')).2.1.getLsbD i = r.2.1.getLsbD i) := by
  intro r
  have hmask : ∀ w₀ ops before, Paced (wdHistory (ops ++ [WdOp.check before])) → ∀ i,
      (watchdogCheckWith before (wdRun (wdInit w₀) ops)).2.1.getLsbD i = true ↔
        i < 3 ∧ sinceRead i (atRead (wdHistory ops) before i) = 0 := by
    intro w₀ ops before hpace i
    rw [wdHistory_append] at hpace
    rw [(checked (tracks_run w₀ ops) before).mask i]
    refine and_congr_right fun hi => ?_
    have hlt := hpace.atRead hi
    constructor
    · intro hzero
      have hmod : sinceRead i (atRead (wdHistory ops) before i) % 2 ^ 32 = 0 := by
        simpa using congrArg BitVec.toNat hzero
      rwa [Nat.mod_eq_of_lt hlt] at hmod
    · intro hzero
      rw [hzero]
      rfl
  have hagree : Agree r.1 r.2.1 := (checked (tracks_run w₀ ops) before).agree
  refine ⟨hmask w₀ ops before hpace, ?_, ?_, fun i hi => counted_run w₀ hpace hi,
    fun w id hid => wdKick_out_of_range hid w, ?_⟩
  · rcases hagree with ⟨hok, hnone⟩ | ⟨hfault, hsome⟩
    · simp [hok, hnone]
    · exact iff_of_true hfault hsome
  · rcases hagree with ⟨hok, hnone⟩ | ⟨hfault, hsome⟩
    · exact iff_of_true hok hnone
    · exact iff_of_false (by simp [hfault]) hsome
  · intro w₀' ops' before' hpace' i _ hsame
    rw [Bool.eq_iff_iff, hmask w₀' ops' before' hpace', hmask w₀ ops before hpace,
      ← sinceRead_filter i (atRead (wdHistory ops') before' i), hsame, sinceRead_filter]

/-- A short history is paced. -/
theorem paced_of_short {h : List WdEvent} (hlen : h.length < 2 ^ 32) : Paced h := by
  have hle : ∀ i (h : List WdEvent), sinceRead i h ≤ h.length := by
    intro i h
    induction h using List.reverseRecOn with
    | nil => exact Nat.le_refl _
    | append_singleton h e ih =>
        rw [List.length_append, List.length_singleton]
        cases e with
        | kick id =>
            rw [sinceRead_kick]
            split <;> omega
        | read j =>
            rw [sinceRead_read]
            split <;> omega
  intro h₀ i hpre
  have hlength := hpre.length_le
  have := hle i h₀
  rw [List.length_append] at hlength
  omega

/-- One task kicks before the check, one in the middle of it, one not at all. -/
theorem watchdog_exact_three_tasks :
    let w₀ : Watchdog := ⟨#v[0xFFFFFFFF, 5, 9], #v[0, 0, 0]⟩
    let before : ℕ → List ℤ := fun i => if i = 1 then [1, -1] else []
    let h := wdHistory [.kick 0, .check before]
    Paced h ∧ ∀ i, (watchdogCheckWith before (wdRun (wdInit w₀) [.kick 0])).2.1.getLsbD i = true ↔
      i < 3 ∧ sinceRead i (atRead (wdHistory [.kick 0]) before i) = 0 := by
  intro w₀ before h
  have hpace : Paced h := paced_of_short (by decide)
  exact ⟨hpace, (watchdog_exact w₀ [.kick 0] before hpace).1⟩

end Fdir
end SpacecraftFsw
