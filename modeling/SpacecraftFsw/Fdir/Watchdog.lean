import SpacecraftFsw.Fdir.Monitors

/-!
# The liveness watchdog

`wd_init`, `wd_kick` and `watchdog_check` of `labs/05-fdir/fdir.c`.  A check
compares every heartbeat with its last snapshot, so only whether a task moved
matters and counter wrap-around does not.

* `watchdogCheck_agree` — the verdict is a fault exactly when the mask names a task.
* `evaluate_watchdog` — the same after the monitors have had their say.
-/

namespace SpacecraftFsw
namespace Fdir

/-- `N_TASKS`. -/
def nTasks : ℕ := 3

/-- `watchdog_t`. -/
structure Watchdog where
  heartbeat : Vector U32 nTasks
  last : Vector U32 nTasks
  deriving DecidableEq, Repr

/-- `wd_init`. -/
def wdInit (w : Watchdog) : Watchdog := { w with last := w.heartbeat }

/-- `wd_kick`. -/
def wdKick (w : Watchdog) (id : ℤ) : Watchdog :=
  if 0 ≤ id ∧ id < nTasks then
    { w with heartbeat :=
      w.heartbeat.setIfInBounds id.toNat (w.heartbeat[id.toNat]?.getD 0 + 1) }
  else w

/-- The body of the loop of `watchdog_check`, for task `i`. -/
def checkTask (r : Health × U8 × Watchdog) (i : ℕ) : Health × U8 × Watchdog :=
  let (worst, mask, w) := r
  let now := w.heartbeat[i]?.getD 0
  let stuck := now = w.last[i]?.getD 0
  (if stuck then .fault else worst,
    if stuck then mask ||| (1#8 <<< i) else mask,
    { w with last := w.last.setIfInBounds i now })

/-- `watchdog_check`: the verdict, `*stalled_mask`, and the watchdog afterwards. -/
def watchdogCheck (w : Watchdog) : Health × U8 × Watchdog :=
  (List.range nTasks).foldl checkTask (.ok, 0, w)

/-- A verdict and a mask that agree. -/
def Agree (worst : Health) (mask : U8) : Prop :=
  (worst = .ok ∧ mask = 0) ∨ (worst = .fault ∧ mask ≠ 0)

theorem checkTask_agree {r : Health × U8 × Watchdog} (h : Agree r.1 r.2.1) {i : ℕ}
    (hi : i < nTasks) : Agree (checkTask r i).1 (checkTask r i).2.1 := by
  have hbit : 1#8 <<< i ≠ 0 := by
    unfold nTasks at hi
    interval_cases i <;> decide
  obtain ⟨worst, mask, w⟩ := r
  simp only [checkTask]
  by_cases hstuck : w.heartbeat[i]?.getD 0 = w.last[i]?.getD 0
  · simp only [hstuck, if_true]
    exact .inr ⟨rfl, or_ne_zero_iff.2 (.inr hbit)⟩
  · simp only [hstuck, if_false]
    exact h

/-- **The verdict and the mask agree.** -/
theorem watchdogCheck_agree (w : Watchdog) :
    Agree (watchdogCheck w).1 (watchdogCheck w).2.1 := by
  have hloop : ∀ is : List ℕ, (∀ i ∈ is, i < nTasks) → ∀ r : Health × U8 × Watchdog,
      Agree r.1 r.2.1 → Agree (is.foldl checkTask r).1 (is.foldl checkTask r).2.1 := by
    intro is
    induction is with
    | nil => exact fun _ r hr => hr
    | cons i is ih =>
        intro his r hr
        exact ih (fun j hj => his j (List.mem_cons_of_mem i hj)) _
          (checkTask_agree hr (his i List.mem_cons_self))
  exact hloop _ (fun i hi => List.mem_range.1 hi) _ (.inl ⟨rfl, rfl⟩)

/-- A cycle's evaluation, with the watchdog's verdict in it: the source mask is
empty exactly in health, and it names the watchdog exactly when the stalled mask
names a task. -/
theorem evaluate_watchdog (s : SpacecraftState) (w : Watchdog) :
    let wd := watchdogCheck w
    let r := fdirEvaluate s wd.1
    (r.2 = 0 ↔ r.1 = .ok) ∧ (r.2 &&& fdirSrcWatchdog ≠ 0 ↔ wd.2.1 ≠ 0) := by
  intro wd r
  obtain ⟨hzero, hbit, hfault⟩ :=
    evaluate_sources (monitorPower s) (monitorThermal s) (monitorBattery s) wd.1
  refine ⟨hzero, hbit.trans ?_⟩
  rcases watchdogCheck_agree w with ⟨hok, hmask⟩ | ⟨hf, hmask⟩
  · have hno : ¬(wd.1 = r.1 ∧ wd.1 ≠ .ok) := fun h => h.2 hok
    exact iff_of_false hno (not_not.2 hmask)
  · refine iff_of_true ⟨?_, ?_⟩ hmask
    · exact hf.trans (hfault hf).symm
    · rw [show wd.1 = .fault from hf]
      exact Health.noConfusion

end Fdir
end SpacecraftFsw
