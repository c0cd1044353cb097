import SpacecraftFsw.Lib.Unwinding
import SpacecraftFsw.Obdh.Relay
import SpacecraftFsw.Fdir.Feedback
import SpacecraftFsw.Flight

/-!
# Two runs of the whole system

What the ground and FDIR may notice of the contact schedule, and what one class of
telemetry may notice of the other.

* `Alike` — a congruence of routers carried over to the system; `Alike.op` is the
  argument for one operation made on both sides.
* `event_trail` — the contact schedule changes nothing for FDIR, and nothing for
  the ground once all is sent.
* `classes_isolated` — packets of one class change nothing for the other.
-/

namespace SpacecraftFsw
namespace Flight

open Tmtc Obdh Fdir
open Relation (ReflTransGen)

/-! ## Operations -/

/-- An operation is one of the contact state, one of the clock, or quiet. -/
theorem vehicleOp_cases (v : Vehicle) (op : VehicleOp) :
    (∃ inContact, op = .setContact inContact) ∨ op = .tick ∨
      ReflTransGen QuietStep v.bus (vehicleOp v op).bus := by
  cases op with
  | ingest pkt => exact .inr (.inr (obdhIngest_quiet fdirHook v.bus pkt))
  | setContact inContact => exact .inl ⟨inContact, rfl⟩
  | tick => exact .inr (.inl rfl)
  | obdhHk cap => exact .inr (.inr (obdhBuildHk_quiet v.bus cap))
  | fdirHk cap =>
      refine .inr (.inr ?_)
      simp only [vehicleOp, fdirBuildHk]
      split
      · exact .refl
      · exact .single (.user v.bus _)
  | kick id => exact .inr (.inr .refl)
  | cycle readings =>
      have hsteps := fdirCycle_steps tmIngest_fdirIngest v.bus readings v.watchdog
      exact .inr (.inr (quiet_of_telemetry hsteps))

theorem vehicleOp_steps (v : Vehicle) (op : VehicleOp) :
    ReflTransGen BusStep v.bus (vehicleOp v op).bus := by
  rcases vehicleOp_cases v op with ⟨inContact, rfl⟩ | rfl | h
  · exact .single (.contact v.bus inContact)
  · exact .single (.tick v.bus)
  · exact steps_of_quiet h

theorem vehicleRun_steps (v : Vehicle) (ops : List VehicleOp) :
    ReflTransGen BusStep v.bus (vehicleRun v ops).bus :=
  Schedule.invariant_run (P := fun u : Vehicle => ReflTransGen BusStep v.bus u.bus)
    (fun u op h => h.trans (vehicleOp_steps u op)) .refl ops

theorem vehicleRun_append (v : Vehicle) (ops : List VehicleOp) (op : VehicleOp) :
    vehicleRun v (ops ++ [op]) = vehicleOp (vehicleRun v ops) op := by
  rw [vehicleRun, List.foldl_append]
  rfl

/-! ## Related systems -/

/-- Two systems with related routers. -/
structure Alike (R : Bus FdirMem → Bus FdirMem → Prop) (v w : Vehicle) : Prop where
  bus : R v.bus w.bus
  watchdog : v.watchdog = w.watchdog
  spacecraft : v.spacecraft = w.spacecraft

/-- A relation that does not mind the clock ticking or the housekeeping counter
moving on, on both sides. -/
structure Steady (R : Bus FdirMem → Bus FdirMem → Prop) : Prop extends Congruence R where
  tick : ∀ {b c}, R b c → R (obdhTick b) (obdhTick c)
  hkSeq : ∀ {b c}, R b c → ∀ m n, R { b with obdh := { b.obdh with hkSeq := m } }
    { c with obdh := { c.obdh with hkSeq := n } }

/-- **One operation on both sides.** -/
theorem Alike.op {R : Bus FdirMem → Bus FdirMem → Prop} (h : Steady R) {v w : Vehicle}
    (hvw : Alike R v w) {op : VehicleOp}
    (hcontact : ∀ inContact, op = .setContact inContact →
      R (obdhSetContact v.bus inContact) (obdhSetContact w.bus inContact)) :
    Alike R (vehicleOp v op) (vehicleOp w op) := by
  obtain ⟨hbus, hwd, hsc⟩ := hvw
  cases op with
  | ingest pkt => exact ⟨related_fdirIngest h.toCongruence hbus pkt, hwd, hsc⟩
  | setContact inContact => exact ⟨hcontact inContact rfl, hwd, hsc⟩
  | tick => exact ⟨h.tick hbus, hwd, hsc⟩
  | obdhHk cap =>
      obtain ⟨m, hm⟩ := obdhBuildHk_hkSeq v.bus cap
      obtain ⟨n, hn⟩ := obdhBuildHk_hkSeq w.bus cap
      refine ⟨?_, hwd, hsc⟩
      rw [vehicleOp, vehicleOp, hm, hn]
      exact h.hkSeq hbus m n
  | fdirHk cap =>
      refine ⟨?_, hwd, hsc⟩
      simp only [vehicleOp, fdirBuildHk]
      rw [← h.user hbus]
      split
      · exact hbus
      · exact related_setCtx h.toCongruence hbus _
  | kick id => exact ⟨hbus, congrArg (wdKick · id) hwd, hsc⟩
  | cycle readings =>
      have hcycle := related_cycleBus h.toCongruence tmIngest_fdirIngest hbus readings v.watchdog
      rw [vehicleOp, vehicleOp, ← hwd]
      refine ⟨hcycle, rfl, ?_⟩
      simp only [fdirCycle_mode]
      rw [h.user hcycle]

theorem classed_vehicleInit (downlink inContact : Bool) (hooks : Option FdirHooks)
    (confirmCycles : U8) (w : Watchdog) (s : SpacecraftState) :
    Classed (vehicleInit downlink inContact hooks confirmCycles w s).bus :=
  (classed_init downlink inContact (fdirStart hooks confirmCycles)).step (.uplink _ _)

/-! ## The contact schedule -/

/-- An operation that does not change the contact state. -/
def VehicleOp.keepsContact : VehicleOp → Bool
  | .setContact _ => false
  | _ => true

theorem steady_sameTrail : Steady (SameTrail (υ := FdirMem)) where
  toCongruence := SameTrail.congruence
  tick := fun h => h.congr (.tick _) (.tick _) h.user h.uplink h.ingested h.link rfl rfl
  hkSeq := fun h m n =>
    h.congr (.hkSeq _ m) (.hkSeq _ n) h.user h.uplink h.ingested h.link rfl rfl

/-- FDIR, the command path and the packets ingested do not notice the contact. -/
theorem unwinds_contact :
    Unwinding.Unwinds vehicleOp VehicleOp.keepsContact (Alike (SameTrail (υ := FdirMem))) where
  symm := fun h => ⟨h.bus.symm, h.watchdog.symm, h.spacecraft.symm⟩
  hidden := by
    intro v w op hop h
    cases op with
    | setContact inContact => exact ⟨h.bus.contact inContact, h.watchdog, h.spacecraft⟩
    | ingest | tick | obdhHk | fdirHk | kick | cycle => cases hop
  visible := by
    intro v w op hop h
    refine h.op steady_sameTrail ?_
    rintro inContact rfl
    cases hop

/-! ## Stretches out of contact -/

/-- No stretch of the run out of contact receives more than sixteen events. -/
def ShortGaps (v : Vehicle) (ops : List VehicleOp) : Prop :=
  ∀ before during, before ++ during <+: ops →
    (∀ q, q <+: during → (vehicleRun v (before ++ q)).bus.obdh.inContact = false) →
    ((vehicleRun v (before ++ during)).bus.offered .ev).length ≤
      ((vehicleRun v before).bus.offered .ev).length + 16

/-- What it takes for no event of a run to be lost or left behind. -/
structure Relayable (v : Vehicle) (ops : List VehicleOp) : Prop where
  gaps : ShortGaps v ops
  fits : ∀ p ∈ (vehicleRun v ops).bus.offered .ev, p.length ≤ 64
  ends : (vehicleRun v ops).bus.obdh.inContact = true

/-- The stretch out of contact that a run ends in began with `n` events ingested. -/
def StretchFrom (v : Vehicle) (ops : List VehicleOp) (n : ℕ) : Prop :=
  ∃ before during, ops = before ++ during ∧
    (∀ q, q <+: during → (vehicleRun v (before ++ q)).bus.obdh.inContact = false) ∧
    n = ((vehicleRun v before).bus.offered .ev).length

theorem StretchFrom.extend {v : Vehicle} {ops : List VehicleOp} {n : ℕ} (h : StretchFrom v ops n)
    {op : VehicleOp} (hout : (vehicleRun v (ops ++ [op])).bus.obdh.inContact = false) :
    StretchFrom v (ops ++ [op]) n := by
  obtain ⟨before, during, rfl, hduring, hn⟩ := h
  refine ⟨before, during ++ [op], List.append_assoc .., ?_, hn⟩
  intro q hq
  rcases List.prefix_concat_iff.1 hq with rfl | hq
  · rw [← List.append_assoc]
    exact hout
  · exact hduring q hq

theorem StretchFrom.room {v : Vehicle} {ops : List VehicleOp} {n : ℕ} (h : StretchFrom v ops n)
    (hgaps : ShortGaps v ops) : ((vehicleRun v ops).bus.offered .ev).length ≤ n + 16 := by
  obtain ⟨before, during, rfl, hduring, rfl⟩ := h
  exact hgaps before during (List.prefix_refl _) hduring

theorem ingested_vehicleOp (v : Vehicle) (op : VehicleOp) :
    v.bus.ingested <+: (vehicleOp v op).bus.ingested := by
  rcases vehicleOp_cases v op with ⟨inContact, rfl⟩ | rfl | h
  · rw [vehicleOp, (obdhSetContact_frame v.bus inContact).ingested]
  · exact List.prefix_refl _
  · generalize (vehicleOp v op).bus = b at h
    induction h with
    | refl => exact List.prefix_refl _
    | tail _ hstep ih => exact ih.trans (ingested_quiet hstep)

theorem ingested_run (v : Vehicle) (ops : List VehicleOp) :
    v.bus.ingested <+: (vehicleRun v ops).bus.ingested :=
  Schedule.invariant_run (P := fun u : Vehicle => v.bus.ingested <+: u.bus.ingested)
    (fun u op h => h.trans (ingested_vehicleOp u op)) (List.prefix_refl _) ops

theorem ShortGaps.before {v : Vehicle} {ops : List VehicleOp} {op : VehicleOp}
    (h : ShortGaps v (ops ++ [op])) : ShortGaps v ops :=
  fun before during hpre => h before during (hpre.trans (List.prefix_append _ _))

/-- **No event is lost on the way**: those ingested before the present stretch out of
contact have gone down, the others are in the store. -/
theorem relayed_run (downlink inContact : Bool) (hooks : Option FdirHooks) (confirmCycles : U8)
    (w : Watchdog) (s : SpacecraftState) (ops : List VehicleOp) :
    let v := vehicleInit downlink inContact hooks confirmCycles w s
    ShortGaps v ops → (∀ p ∈ (vehicleRun v ops).bus.offered .ev, p.length ≤ 64) →
      ∃ n, Relayed .ev (vehicleRun v ops).bus n ∧
        ((vehicleRun v ops).bus.obdh.inContact = false → StretchFrom v ops n) := by
  intro v
  induction ops using List.reverseRecOn with
  | nil =>
      intro _ _
      have hinit := relayed_init .ev downlink inContact (fdirStart hooks confirmCycles)
      refine ⟨0, hinit.congr rfl ⟨rfl, rfl, rfl⟩ rfl rfl, fun hout => ⟨[], [], rfl, ?_, rfl⟩⟩
      intro q hq
      rw [List.prefix_nil.1 hq]
      exact hout
  | append_singleton ops op ih =>
      intro hgaps hfits
      rw [vehicleRun_append] at hfits ⊢
      have hsame : ∀ {x}, (vehicleOp (vehicleRun v ops) op).bus.obdh.inContact = x →
          (vehicleRun v (ops ++ [op])).bus.obdh.inContact = x := by
        intro x hx
        rw [vehicleRun_append, hx]
      obtain ⟨n, h, hstretch⟩ := ih hgaps.before fun p hp =>
        hfits p ((offered_extends (ingested_vehicleOp _ op) .ev).subset hp)
      set b := (vehicleRun v ops).bus with hb
      rcases vehicleOp_cases (vehicleRun v ops) op with ⟨c, rfl⟩ | rfl | hquiet
      · have hclassed : Classed b :=
          (classed_vehicleInit downlink inContact hooks confirmCycles w s).steps
            (vehicleRun_steps v ops)
        have hframe := obdhSetContact_frame b c
        obtain ⟨n', h', hn'⟩ := h.contact hclassed c
        refine ⟨n', h', fun hout => ?_⟩
        have hc : c = false := hframe.contact.symm.trans hout
        rw [hn' (.inr hc)]
        cases hwas : b.obdh.inContact with
        | false => exact (hstretch hwas).extend (hsame hout)
        | true =>
            -- contact is lost here: a stretch begins
            refine ⟨ops ++ [.setContact c], [], (List.append_nil _).symm, ?_, ?_⟩
            · intro q hq
              rw [List.prefix_nil.1 hq, List.append_nil]
              exact hsame hout
            · rw [vehicleRun_append, h.live hwas, Bus.offered, Bus.offered]
              exact congrArg (fun x => (ofClass .ev (List.reduceOption x)).length)
                hframe.ingested.symm
      · exact ⟨n, h.tick, fun hout => (hstretch hout).extend (hsame hout)⟩
      · have hroom : b.obdh.inContact = false →
            ((vehicleOp (vehicleRun v ops) op).bus.offered .ev).length ≤ n + storeCap := by
          intro hout
          have hnow := hsame ((sameLink_of_quiet hquiet).contact.trans hout)
          rw [← vehicleRun_append]
          exact ((hstretch hout).extend hnow).room hgaps
        obtain ⟨n', h', hn'⟩ := h.quiets hquiet hfits hroom
        refine ⟨n', h', fun hout => ?_⟩
        have hwas : b.obdh.inContact = false :=
          (sameLink_of_quiet hquiet).contact.symm.trans hout
        rw [hn' hwas]
        exact (hstretch hwas).extend (hsame hout)

/-- **The event trail does not depend on the contact schedule.**  Take two runs that
differ in their changes of contact only, and in whether they began in contact.
FDIR's context, its hook calls and the events it has emitted are the same, and so
is what went down in answer to telecommands.  If neither run keeps the events
waiting for longer than the store can, no event is too long for it, and both end
in contact, then the ground has received the same events, and none was lost. -/
theorem event_trail (downlink contact₁ contact₂ : Bool) (hooks : Option FdirHooks)
    (confirmCycles : U8) (w : Watchdog) (s : SpacecraftState) (ops₁ ops₂ : List VehicleOp)
    (hops : ops₁.filter VehicleOp.keepsContact = ops₂.filter VehicleOp.keepsContact) :
    let v₁ := vehicleInit downlink contact₁ hooks confirmCycles w s
    let v₂ := vehicleInit downlink contact₂ hooks confirmCycles w s
    let r₁ := vehicleRun v₁ ops₁
    let r₂ := vehicleRun v₂ ops₂
    (r₁.fdir = r₂.fdir ∧ r₁.watchdog = r₂.watchdog ∧ r₁.spacecraft = r₂.spacecraft ∧
      r₁.bus.downlinked (· = 0x065) = r₂.bus.downlinked (· = 0x065)) ∧
    (Relayable v₁ ops₁ → Relayable v₂ ops₂ →
      r₁.bus.downlinked (· = 0x066) = r₂.bus.downlinked (· = 0x066) ∧
        r₁.bus.obdh.evStore.1.dropped = 0 ∧ r₂.bus.obdh.evStore.1.dropped = 0) := by
  intro v₁ v₂ r₁ r₂
  have hclassed₁ := classed_vehicleInit downlink contact₁ hooks confirmCycles w s
  have hclassed₂ := classed_vehicleInit downlink contact₂ hooks confirmCycles w s
  have hinit : Alike SameTrail v₁ v₂ :=
    ⟨⟨rfl, rfl, rfl, rfl, rfl, hclassed₁, hclassed₂⟩, rfl, rfl⟩
  have halike : Alike SameTrail r₁ r₂ := unwinds_contact.related hinit hops
  have htrail := halike.bus
  refine ⟨⟨htrail.user, halike.watchdog, halike.spacecraft, htrail.command⟩, ?_⟩
  rintro ⟨hgaps₁, hfits₁, hends₁⟩ ⟨hgaps₂, hfits₂, hends₂⟩
  obtain ⟨_, h₁, _⟩ := relayed_run downlink contact₁ hooks confirmCycles w s ops₁ hgaps₁ hfits₁
  obtain ⟨_, h₂, _⟩ := relayed_run downlink contact₂ hooks confirmCycles w s ops₂ hgaps₂ hfits₂
  obtain ⟨hground₁, hdropped₁⟩ := h₁.complete hends₁
  obtain ⟨hground₂, hdropped₂⟩ := h₂.complete hends₂
  have hapid : ∀ b : Bus FdirMem, b.downlinked (· = 0x066) = b.downlinked (· ∈ classApids .ev) := by
    intro b
    simp [classApids]
  refine ⟨?_, hdropped₁, hdropped₂⟩
  rw [hapid, hapid, htrail.left.downlinked, htrail.right.downlinked, hground₁, hground₂,
    htrail.link, Bus.offered, Bus.offered, htrail.ingested]

/-- A run with few events has short gaps. -/
theorem shortGaps_of_few {v : Vehicle} {ops : List VehicleOp}
    (h : ((vehicleRun v ops).bus.offered .ev).length ≤ 16) : ShortGaps v ops := by
  intro before during hpre _
  obtain ⟨later, rfl⟩ := hpre
  have hgrows := ingested_run (vehicleRun v (before ++ during)) later
  rw [vehicleRun, vehicleRun, ← List.foldl_append] at hgrows
  exact ((offered_extends hgrows .ev).length_le.trans h).trans (Nat.le_add_left _ _)

/-- One event, once in contact and once out of it. -/
theorem event_trail_one_event :
    let e := tmPacket 0x066 0 5 1 []
    let w : Watchdog := ⟨Vector.replicate nTasks 0, Vector.replicate nTasks 0⟩
    let v := vehicleInit true true none 2 w ⟨0, 0, 0, 0, .boot⟩
    let ops₁ : List VehicleOp := [.ingest (some e)]
    let ops₂ : List VehicleOp := [.setContact false, .ingest (some e), .setContact true]
    Relayable v ops₁ ∧ Relayable v ops₂ ∧
      (vehicleRun v ops₁).bus.downlinked (· = 0x066) =
        (vehicleRun v ops₂).bus.downlinked (· = 0x066) := by
  intro e w v ops₁ ops₂
  have h₁ : Relayable v ops₁ :=
    ⟨shortGaps_of_few (by decide +kernel), by decide +kernel, by decide +kernel⟩
  have h₂ : Relayable v ops₂ :=
    ⟨shortGaps_of_few (by decide +kernel), by decide +kernel, by decide +kernel⟩
  exact ⟨h₁, h₂, ((event_trail true true true none 2 w _ ops₁ ops₂ rfl).2 h₁ h₂).1⟩

/-! ## One class and the other -/

/-- An operation other than the ingest of telemetry of class `i`. -/
def VehicleOp.otherThan (i : StoreId) : VehicleOp → Bool
  | .ingest (some p) => tmClass p ≠ some i
  | _ => true

theorem steady_apart (i : StoreId) : Steady (Apart (υ := FdirMem) i) where
  toCongruence := Apart.congruence i
  tick := fun h => ⟨h.user, h.uplink, h.link, h.contact, congrArg (· + 1) h.time,
    fun j hij => by cases j <;> exact h.stores _ hij, h.sent, h.left.step (.tick _),
    h.right.step (.tick _)⟩
  hkSeq := fun h m n => ⟨h.user, h.uplink, h.link, h.contact, h.time,
    fun j hij => by cases j <;> exact h.stores _ hij, h.sent, h.left.step (.hkSeq _ m),
    h.right.step (.hkSeq _ n)⟩

/-- Nothing but its own store and its own downlink notices a class of telemetry. -/
theorem unwinds_class (i : StoreId) :
    Unwinding.Unwinds vehicleOp (VehicleOp.otherThan i) (Alike (Apart (υ := FdirMem) i)) where
  symm := fun h => ⟨h.bus.symm, h.watchdog.symm, h.spacecraft.symm⟩
  hidden := by
    intro v w op hop h
    cases op with
    | ingest pkt =>
        cases pkt with
        | none => cases hop
        | some p =>
            have hclass : tmClass p = some i := by simpa [VehicleOp.otherThan] using hop
            have hpkt := isTm_of_consistent (consistent_of_class hclass)
            refine ⟨?_, h.watchdog, h.spacecraft⟩
            rw [vehicleOp, tmIngest_fdirIngest v.bus (some p) hpkt]
            exact h.bus.hidden hclass
    | setContact | tick | obdhHk | fdirHk | kick | cycle => cases hop
  visible := by
    intro v w op _ h
    refine h.op (steady_apart i) ?_
    rintro inContact rfl
    exact h.bus.setContact inContact

/-- **Traffic classes do not interfere.**  Take two runs that differ in ingests of
length-consistent telemetry of one class `i` only: events, or housekeeping.  The
store of the other class is the same, stamps and losses included, and so are the
packets sent down on all other APIDs, the command path's context and FDIR. -/
theorem classes_isolated (i : StoreId) (downlink inContact : Bool) (hooks : Option FdirHooks)
    (confirmCycles : U8) (w : Watchdog) (s : SpacecraftState) (ops₁ ops₂ : List VehicleOp)
    (hops : ops₁.filter (VehicleOp.otherThan i) = ops₂.filter (VehicleOp.otherThan i)) :
    let v := vehicleInit downlink inContact hooks confirmCycles w s
    let r₁ := vehicleRun v ops₁
    let r₂ := vehicleRun v ops₂
    (∀ j, j ≠ i → r₁.bus.obdh.store j = r₂.bus.obdh.store j) ∧
      r₁.bus.downlinked (· ∉ classApids i) = r₂.bus.downlinked (· ∉ classApids i) ∧
      r₁.bus.obdh.uplink = r₂.bus.obdh.uplink ∧ r₁.fdir = r₂.fdir := by
  intro v r₁ r₂
  have hclassed := classed_vehicleInit downlink inContact hooks confirmCycles w s
  have hinit : Alike (Apart i) v v :=
    ⟨⟨rfl, rfl, rfl, rfl, rfl, fun _ _ => rfl, rfl, hclassed, hclassed⟩, rfl, rfl⟩
  have halike : Alike (Apart i) r₁ r₂ := (unwinds_class i).related hinit hops
  exact ⟨halike.bus.stores, halike.bus.sent, halike.bus.uplink, halike.bus.user⟩

/-- A housekeeping packet stored before an event, and the same run without it. -/
theorem classes_isolated_one_packet :
    let e := tmPacket 0x066 0 5 1 []
    let hk := tmPacket 0x064 0 3 25 [1, 2]
    let w : Watchdog := ⟨Vector.replicate nTasks 0, Vector.replicate nTasks 0⟩
    let v := vehicleInit true false none 2 w ⟨0, 0, 0, 0, .boot⟩
    let ops₁ : List VehicleOp := [.ingest (some hk), .ingest (some e), .setContact true]
    let ops₂ : List VehicleOp := [.ingest (some e), .setContact true]
    ops₁.filter (VehicleOp.otherThan .hk) = ops₂.filter (VehicleOp.otherThan .hk) ∧
      (vehicleRun v ops₁).bus.downlinked (· ∉ classApids .hk) =
        (vehicleRun v ops₂).bus.downlinked (· ∉ classApids .hk) := by
  intro e hk w v ops₁ ops₂
  have hclass : ¬VehicleOp.otherThan .hk (.ingest (some hk)) = true := by decide
  have hops : ops₁.filter (VehicleOp.otherThan .hk) = ops₂.filter (VehicleOp.otherThan .hk) :=
    List.filter_cons_of_neg hclass
  exact ⟨hops, (classes_isolated .hk true false none 2 w _ ops₁ ops₂ hops).2.1⟩

end Flight
end SpacecraftFsw
