import SpacecraftFsw.Flight.Server

/-!
# What FDIR can hear

FDIR shares the processor with the router and the command path, and calls the one and is
called by the other.  All it hears is its cycle, the heartbeats, the requests for its
housekeeping and the exit command; two runs that agree on these are the same to it,
whatever else is done to the system in the one or the other.

* `FdirMem.next` — `fdir_step` as a function of FDIR's memory alone.
* `SameFdir` — two systems that FDIR cannot tell apart, and `SameFdir.heard` what keeps
  them so.
* `fdir_isolated` — the two runs.
-/

namespace SpacecraftFsw

open Tmtc Obdh Fdir

/-! ## A step of FDIR -/

namespace Fdir

/-- What a step makes of FDIR's memory. -/
def FdirMem.next (m : FdirMem) (worst : Health) (sources : U8) : FdirMem :=
  match m.ctx.state with
  | .nominal =>
    if worst = .fault then
      if m.ctx.need ≤ streakUp m.ctx.faultStreak then
        ((m.withCtx (m.ctx.confirm sources)).emit evtFault .medium worst).saw worst
      else
        (m.withCtx { m.ctx with
          faultStreak := streakUp m.ctx.faultStreak
          nFiltered := m.ctx.nFiltered + 1 }).saw worst
    else if worst = .warn ∧ m.ctx.prevWorst = .ok then
      ((m.withCtx { m.ctx with faultStreak := 0 }).emit evtWarn .low worst).saw worst
    else (m.withCtx { m.ctx with faultStreak := 0 }).saw worst
  | .recovering =>
    if worst = .ok then
      ((m.withCtx { m.ctx.merge sources with state := .nominal }).emit
        evtRecovered .low worst).clearMasks.saw worst
    else if fdirMaxAttempts ≤ m.ctx.attempts then
      (((m.withCtx (m.ctx.enterSafe sources)).emit evtSafeEnter .high worst).callIf
        m.ctx.hooks.enterSafe (.enterSafe (m.ctx.merge sources).sourceMask)).saw worst
    else
      (((m.withCtx (m.ctx.attempt sources)).callIf m.ctx.hooks.recover
        (.recover (actionForAttempt (m.ctx.attempts + 1)) (m.ctx.merge sources).sourceMask)).emit
          evtRecoveryAction .info worst).saw worst
  | .safe => m.saw worst

/-- **No transition leaves a choice.** -/
theorem FdirTrans.eq_next {m m' : FdirMem} {worst : Health} {sources : U8}
    (h : FdirTrans m worst sources m') : m' = m.next worst sources := by
  cases h with
  | confirmed hs hw hneed => simp [FdirMem.next, hs, hw, hneed]
  | filtered hs hw hneed => simp [FdirMem.next, hs, hw, BitVec.not_le.2 hneed]
  | warned hs hw hprev => simp [FdirMem.next, hs, hw, hprev]
  | calm hs hw hprev => simp only [FdirMem.next, hs, if_neg hw, if_neg hprev]
  | recovered hs hw => simp [FdirMem.next, hs, hw]
  | safeEntered hs hw hattempts => simp [FdirMem.next, hs, hw, hattempts]
  | attempted hs hw hattempts => simp [FdirMem.next, hs, hw, BitVec.not_le.2 hattempts]
  | safe hs => simp [FdirMem.next, hs]

/-- A cycle, whatever the router is like. -/
theorem cycleBus_user {ingest : Ingest} (hi : TmIngest ingest) (b : Bus FdirMem)
    (s : SpacecraftState) (w : Watchdog) :
    (cycleBus ingest b s w).user = (b.user.stall (watchdogCheck w).2.1).next
      (fdirEvaluate s (watchdogCheck w).1).1 (fdirEvaluate s (watchdogCheck w).1).2 :=
  (fdirCycle_trans hi b s w).eq_next

end Fdir

namespace Flight

/-! ## What is heard -/

/-- The operations that FDIR hears. -/
def VehicleOp.heard : VehicleOp → Bool
  | .ingest (some p) => executes p = some .exitSafe
  | .ingest none | .setContact _ | .tick | .obdhHk _ => false
  | .fdirHk _ | .kick _ | .cycle _ => true

/-- Two systems with the same to FDIR, its watchdog and its spacecraft. -/
structure SameFdir (v v' : Vehicle) : Prop where
  fdir : v.fdir = v'.fdir
  watchdog : v.watchdog = v'.watchdog
  spacecraft : v.spacecraft = v'.spacecraft
  left : v.bus.obdh.uplink.exitSafeHook = true
  right : v'.bus.obdh.uplink.exitSafeHook = true

namespace SameFdir

variable {v v' : Vehicle}

theorem symm (h : SameFdir v v') : SameFdir v' v :=
  ⟨h.fdir.symm, h.watchdog.symm, h.spacecraft.symm, h.right, h.left⟩

/-- An operation on one side that FDIR does not hear. -/
theorem unheard (h : SameFdir v v') {op : VehicleOp} (hop : op.heard = false) :
    SameFdir (vehicleOp v op) v' := by
  have hwired := wired_vehicleOp h.left op
  have hsame : (vehicleOp v op).fdir = v.fdir → SameFdir v v' →
      (vehicleOp v op).watchdog = v.watchdog → (vehicleOp v op).spacecraft = v.spacecraft →
      SameFdir (vehicleOp v op) v' := by
    intro hfdir h hwd hsc
    exact ⟨hfdir.trans h.fdir, hwd.trans h.watchdog, hsc.trans h.spacecraft, hwired, h.right⟩
  cases op with
  | ingest pkt =>
      refine hsame (fdirIngest_other v.bus ?_) h rfl rfl
      cases pkt with
      | none =>
          rintro ⟨parsed, hp, -⟩
          cases hp
      | some p =>
          rw [← executes_exitSafe_iff]
          simpa [VehicleOp.heard] using hop
  | setContact inContact => exact hsame (obdhSetContact_frame v.bus inContact).user h rfl rfl
  | tick => exact hsame rfl h rfl rfl
  | obdhHk cap => exact hsame (obdhBuildHk_frame v.bus cap).2 h rfl rfl
  | fdirHk | kick | cycle => cases hop

/-- The exit command on both sides: granted on both, or refused on both. -/
theorem exit (h : SameFdir v v') {p : Bytes} (hp : IsExitCommand (some p)) :
    (vehicleOp v (.ingest (some p))).fdir = (vehicleOp v' (.ingest (some p))).fdir := by
  have hfdir : v.bus.user = v'.bus.user := h.fdir
  by_cases hs : v.bus.user.ctx.state = .safe
  · have hs' : v'.bus.user.ctx.state = .safe := hfdir ▸ hs
    have hleft := fdirIngest_granted v.bus h.left hp hs
    have hright := fdirIngest_granted v'.bus h.right hp hs'
    exact hleft.trans ((congrArg FdirMem.exitSafe hfdir).trans hright.symm)
  · have hs' : v'.bus.user.ctx.state ≠ .safe := hfdir ▸ hs
    obtain ⟨parsed, hok, hpair, happ⟩ := hp
    have hleft := (fdirIngest_refused v.bus h.left hok hpair happ hs).1
    have hright := (fdirIngest_refused v'.bus h.right hok hpair happ hs').1
    exact hleft.trans (hfdir.trans hright.symm)

/-- **An operation on both sides that FDIR hears.** -/
theorem heard (h : SameFdir v v') {op : VehicleOp} (hop : op.heard = true) :
    SameFdir (vehicleOp v op) (vehicleOp v' op) := by
  have hleft := wired_vehicleOp h.left op
  have hright := wired_vehicleOp h.right op
  have hfdir : v.bus.user = v'.bus.user := h.fdir
  cases op with
  | ingest pkt =>
      cases pkt with
      | none => cases hop
      | some p =>
          have hexit : IsExitCommand (some p) :=
            (executes_exitSafe_iff p).1 (by simpa [VehicleOp.heard] using hop)
          exact ⟨h.exit hexit, h.watchdog, h.spacecraft, hleft, hright⟩
  | fdirHk cap =>
      refine ⟨?_, h.watchdog, h.spacecraft, hleft, hright⟩
      simp only [vehicleOp, Vehicle.fdir, fdirBuildHk]
      rw [← hfdir]
      split
      · exact hfdir
      · rw [setCtx_user, setCtx_user, hfdir]
  | kick id => exact ⟨h.fdir, congrArg (wdKick · id) h.watchdog, h.spacecraft, hleft, hright⟩
  | cycle readings =>
      have hcycle : (cycleBus fdirIngest v.bus readings v.watchdog).user =
          (cycleBus fdirIngest v'.bus readings v'.watchdog).user := by
        rw [cycleBus_user tmIngest_fdirIngest, cycleBus_user tmIngest_fdirIngest, hfdir,
          h.watchdog]
      refine ⟨hcycle, ?_, ?_, hleft, hright⟩
      · rw [vehicleOp, vehicleOp, h.watchdog]
        rfl
      · rw [vehicleOp, vehicleOp]
        simp only [fdirCycle_mode, hcycle]
  | setContact | tick | obdhHk => cases hop

end SameFdir

theorem unwinds_fdir : Unwinding.Unwinds vehicleOp VehicleOp.heard SameFdir where
  symm := SameFdir.symm
  hidden := fun _ hop h => h.unheard hop
  visible := fun _ hop h => h.heard hop

/-- **FDIR is isolated.**  Take two runs of the system that agree on the cycles with their
readings, the heartbeats, the requests for FDIR's housekeeping and the exit commands, in
their order; they may differ in the downlink and the contact they begin with, and in all
other operations: telemetry, good or malformed, from anyone, any other telecommands,
changes of contact, the clock and the router's housekeeping.  Then FDIR's memory with all
the events it has emitted and all the hook calls it has made is the same, and so are the
watchdog and the spacecraft. -/
theorem fdir_isolated (downlink₁ downlink₂ contact₁ contact₂ : Bool) (hooks : Option FdirHooks)
    (confirmCycles : U8) (w : Watchdog) (s : SpacecraftState) (ops₁ ops₂ : List VehicleOp)
    (hops : ops₁.filter VehicleOp.heard = ops₂.filter VehicleOp.heard) :
    let r₁ := vehicleRun (vehicleInit downlink₁ contact₁ hooks confirmCycles w s) ops₁
    let r₂ := vehicleRun (vehicleInit downlink₂ contact₂ hooks confirmCycles w s) ops₂
    r₁.fdir = r₂.fdir ∧ r₁.watchdog = r₂.watchdog ∧ r₁.spacecraft = r₂.spacecraft := by
  intro r₁ r₂
  have hstart : SameFdir (vehicleInit downlink₁ contact₁ hooks confirmCycles w s)
      (vehicleInit downlink₂ contact₂ hooks confirmCycles w s) := ⟨rfl, rfl, rfl, rfl, rfl⟩
  have hend : SameFdir r₁ r₂ := unwinds_fdir.related hstart hops
  exact ⟨hend.fdir, hend.watchdog, hend.spacecraft⟩

/-- Two faulty cycles on a quiet board, and among traffic. -/
theorem fdir_isolated_two_faults :
    let junk : Bytes := [0x18, 0x65, 0xC0, 0x00, 0x00, 0x00]
    let low : VehicleOp := .cycle ⟨0x41A00000, 80, 0x41C80000, 0x41A00000, .nominal⟩
    let w : Watchdog := ⟨Vector.replicate nTasks 0, Vector.replicate nTasks 0⟩
    let r₁ := vehicleRun (vehicleInit true true none 2 w ⟨0, 0, 0, 0, .boot⟩)
      [.ingest (some junk), low, .setContact false, .tick, low]
    let r₂ := vehicleRun (vehicleInit false false none 2 w ⟨0, 0, 0, 0, .boot⟩) [low, low]
    r₁.fdir.ctx.state = .recovering ∧ r₁.fdir = r₂.fdir := by
  intro junk low w r₁ r₂
  have hjunk : ¬VehicleOp.heard (.ingest (some junk)) = true := by decide +kernel
  have hops : [.ingest (some junk), low, .setContact false, .tick, low].filter VehicleOp.heard =
      [low, low].filter VehicleOp.heard := List.filter_cons_of_neg hjunk
  have hsame := fdir_isolated true false true false none 2 w ⟨0, 0, 0, 0, .boot⟩
    [.ingest (some junk), low, .setContact false, .tick, low] [low, low] hops
  exact ⟨by decide +kernel, hsame.1⟩

end Flight
end SpacecraftFsw
