import SpacecraftFsw.Flight.Producers

/-!
# What the uplink can do

Anything may be sent up as a telecommand, any number of times.  Beyond the command path and
its reports it comes to one call of `fdir_exit_safe`, if that.

* `Untouched` — two states that differ in the command path and its traffic only.
* `Untouched.released` — the ground exit does the same to both.
* `untouched_ingest` — one telecommand, whatever its bytes.
* `uplink_authority` — any number of them, in every reachable state.
-/

namespace SpacecraftFsw

/-- FDIR's memory once the exit from SAFE has been reported. -/
def Fdir.FdirMem.exitNote (m : FdirMem) : FdirMem :=
  (m.withCtx m.ctx.exitSafe).emit evtSafeExit .info m.ctx.prevWorst

namespace Flight

open Tmtc Obdh Fdir

/-- The router without the command path and without the counters of its traffic. -/
def others (c : ObdhCtx) : ObdhCtx :=
  { c with uplink := uplinkInit, nDispatched := 0, nDownlinked := 0 }

/-- Nothing has been touched but the command path and what it sends. -/
structure Untouched (b b' : Bus FdirMem) : Prop where
  user : b'.user = b.user
  router : others b'.obdh = others b.obdh
  drained : b'.drained = b.drained
  sent : b'.downlinked (· ≠ ccsdsApidCmd) = b.downlinked (· ≠ ccsdsApidCmd)
  offered : ∀ i, b'.offered i = b.offered i

/-- A report is of neither class. -/
theorem tmClass_report (seq : U16) (r : Report) : tmClass (r.packet seq) = none := by
  rw [tmClass]
  split
  · rfl
  · rw [report_apid]
    decide

/-- The ground exit, called from outside. -/
def released (b : Bus FdirMem) : Bus FdirMem := (fdirExitSafe fdirIngest b).2

theorem released_refused {b : Bus FdirMem} (hs : b.user.ctx.state ≠ .safe) : released b = b := by
  rw [released, fdirExitSafe_refused fdirIngest hs]

/-- In SAFE the exit is an event and a change of FDIR's own memory. -/
theorem released_granted {b : Bus FdirMem} (hs : b.user.ctx.state = .safe) :
    released b =
      { (obdhIngestTm { b with user := b.user.exitNote } (some (eventPacket b.user.ctx.exitSafe
        evtSafeExit .info b.user.ctx.prevWorst))).2 with user := b.user.exitSafe } := by
  have huser := (fdirExitSafe_granted tmIngest_fdirIngest hs).2
  have hexit : released b = setCtx (emitEvent fdirIngest (setCtx b b.user.ctx.exitSafe)
      evtSafeExit .info b.user.ctx.prevWorst) (released b).user.ctx := by
    rw [released, huser]
    simp only [fdirExitSafe, hs, ne_eq, not_true_eq_false, if_false]
    rw [emitEvent_user tmIngest_fdirIngest]
    rfl
  have hnote := (tmFrame_obdhIngestTm { b with user := b.user.exitNote }
    (isTm_eventPacket b.user.ctx.exitSafe evtSafeExit .info b.user.ctx.prevWorst)).user
  set noted := (obdhIngestTm { b with user := b.user.exitNote } (some (eventPacket
    b.user.ctx.exitSafe evtSafeExit .info b.user.ctx.prevWorst))).2 with hnoted
  rw [hexit, emitEvent_eq tmIngest_fdirIngest]
  change { noted with user := { noted.user with ctx := (released b).user.ctx } } = _
  rw [hnote, show (released b).user = b.user.exitSafe from huser]
  rfl

namespace Untouched

variable {b b' b'' : Bus FdirMem}

theorem refl (b : Bus FdirMem) : Untouched b b := ⟨rfl, rfl, rfl, rfl, fun _ => rfl⟩

theorem trans (h : Untouched b b') (h' : Untouched b' b'') : Untouched b b'' :=
  ⟨h'.user.trans h.user, h'.router.trans h.router, h'.drained.trans h.drained,
    h'.sent.trans h.sent, fun i => (h'.offered i).trans (h.offered i)⟩

theorem uplink (h : Untouched b b') (c : UplinkCtx) :
    Untouched b { b' with obdh := { b'.obdh with uplink := c } } :=
  ⟨h.user, h.router, h.drained, h.sent, h.offered⟩

/-- A telecommand goes into the log. -/
theorem dispatched (b : Bus FdirMem) {p : Bytes} (h : IsTc p) : Untouched b (b.dispatched p) := by
  refine ⟨rfl, rfl, rfl, rfl, fun i => ?_⟩
  refine offered_record_of_malformed ?_ i
  rintro q hq hc
  rw [← Option.some.inj hq] at hc
  exact absurd (h.2.symm.trans hc.2.1) (by decide)

/-- A report goes by. -/
theorem report (b : Bus FdirMem) (seq : U16) (r : Report) :
    Untouched b (deliver (b.record (some (r.packet seq))) (r.packet seq)) := by
  refine ⟨rfl, rfl, rfl, ?_, fun i => ?_⟩
  · have hnone : withApid (· ≠ ccsdsApidCmd) [r.packet seq] = [] := by
      simp [withApid]
    rw [downlinked_deliver, hnone, ite_self, List.append_nil]
    rfl
  · refine offered_record_of_ne ?_
    rw [tmClass_report]
    exact (Option.some_ne_none i).symm

theorem downlinkAll (b : Bus FdirMem) {pkts : List Bytes}
    (h : ∀ pkt ∈ pkts, ∃ seq, ∃ r : Report, r.data.length ≤ 5 ∧ pkt = r.packet seq) :
    Untouched b (Flight.downlinkAll b pkts) := by
  induction pkts generalizing b with
  | nil => exact refl b
  | cons pkt pkts ih =>
      obtain ⟨seq, r, -, rfl⟩ := h _ List.mem_cons_self
      rw [Flight.downlinkAll, List.foldl_cons, ← Flight.downlinkAll]
      exact (report b seq r).trans (ih _ fun q hq => h q (List.mem_cons_of_mem _ hq))

/-- An event goes into its store or down, and by the same way on either side. -/
theorem event (h : Untouched b b') {p : Bytes} (hclass : tmClass p = some .ev) :
    Untouched (obdhIngestTm b (some p)).2 (obdhIngestTm b' (some p)).2 := by
  have hc := consistent_of_class hclass
  have hrouter := h.router
  have hcontact := congrArg ObdhCtx.inContact hrouter
  have hlink := congrArg ObdhCtx.downlink hrouter
  change b'.obdh.inContact = b.obdh.inContact at hcontact
  change b'.obdh.downlink = b.obdh.downlink at hlink
  have hoffered : ∀ i, (b'.record (some p)).offered i = (b.record (some p)).offered i := by
    intro i
    rw [offered_record, offered_record, h.offered i]
  rw [obdhIngestTm_consistent hc, obdhIngestTm_consistent hc, hclass]
  simp only [hcontact]
  split
  · refine ⟨h.user, hrouter, h.drained, ?_, hoffered⟩
    rw [downlinked_deliver, downlinked_deliver]
    change (b'.downlinked _ ++ if b'.obdh.downlink then _ else _) = b.downlinked _ ++ _
    rw [h.sent, hlink]
    rfl
  · refine ⟨h.user, ?_, h.drained, h.sent, hoffered⟩
    -- the event store, its clock and its count are the same on both sides
    exact congrArg (fun c : ObdhCtx => { c with
      evStore := c.evStore.putAt p c.onboardTime
      nStored := c.nStored + 1 }) hrouter

/-- FDIR's own memory is out of the uplink's reach. -/
theorem withUser (h : Untouched b b') (u : FdirMem) :
    Untouched { b with user := u } { b' with user := u } :=
  ⟨rfl, h.router, h.drained, h.sent, h.offered⟩

/-- **The ground exit does the same to both.** -/
theorem released (h : Untouched b b') : Untouched (released b) (Flight.released b') := by
  have huser := h.user
  by_cases hs : b.user.ctx.state = .safe
  · have hs' : b'.user.ctx.state = .safe := by rw [huser, hs]
    rw [released_granted hs, released_granted hs', huser]
    have hstart := h.withUser (b.user.exitNote)
    have hevent := hstart.event (tmClass_eventPacket b.user.ctx.exitSafe evtSafeExit .info
      b.user.ctx.prevWorst)
    exact hevent.withUser b.user.exitSafe
  · have hs' : b'.user.ctx.state ≠ .safe := by rwa [huser]
    rw [released_refused hs, released_refused hs']
    exact h

end Untouched

/-- **One telecommand**, whatever its bytes. -/
theorem untouched_ingest {b : Bus FdirMem} (hwired : b.obdh.uplink.exitSafeHook = true)
    {p : Bytes} (h : IsTc p) :
    (IsExitCommand (some p) → Untouched (released b) (fdirIngest b (some p)).2) ∧
      (¬IsExitCommand (some p) → Untouched b (fdirIngest b (some p)).2) := by
  set r := (b.dispatched p).handleTc fdirHook.call p with hr
  have hend : ∀ {b₀ : Bus FdirMem}, Untouched b₀ r.2.world →
      Untouched b₀ (fdirIngest b (some p)).2 := by
    intro b₀ hworld
    rw [ingest_tc_delivers b h]
    exact (hworld.uplink r.2.ctx).trans (.downlinkAll _ (uplinkHandleTc_reports _ _ _))
  constructor
  · rintro ⟨parsed, hp, hpair, happ⟩
    refine hend ?_
    have hservice : parsed.tc.service = 130 := (Prod.mk.inj hpair).1
    obtain ⟨-, hworld, -, -⟩ := uplinkHandleTc_accepted (busHook fdirHook.call)
      ⟨(b.dispatched p).obdh.uplink, TmOut.blank, b.dispatched p⟩ (verdict_exitSafe hp happ hpair)
    have hwired' : (b.dispatched p).obdh.uplink.exitSafeHook = true := hwired
    simp only [hservice, hwired', true_and, if_true] at hworld
    have hcall : r.2.world = released (atHook b p parsed) :=
      hworld.trans (congrArg Prod.snd (fdirHook_call _))
    rw [hcall]
    exact ((Untouched.dispatched b h).uplink _).released
  · intro hexit
    have hworld : r.2.world = b.dispatched p := world_of_not_exit _ _ hexit
    exact hend (hworld ▸ Untouched.dispatched b h)

/-- A second exit does nothing. -/
theorem released_released (b : Bus FdirMem) : released (released b) = released b := by
  refine released_refused ?_
  by_cases hs : b.user.ctx.state = .safe
  · rw [released_granted hs]
    exact nofun
  · rwa [released_refused hs]

/-- Telecommands ingested one after the other. -/
def commands (pkts : List Bytes) : List VehicleOp := pkts.map fun p => .ingest (some p)

/-- **Any number of telecommands** are worth one call of `fdir_exit_safe`, if there is an
exit command among them, and else nothing. -/
theorem untouched_commands {v : Vehicle} (hwired : v.bus.obdh.uplink.exitSafeHook = true)
    {pkts : List Bytes} (h : ∀ p ∈ pkts, IsTc p) :
    ((∃ p ∈ pkts, IsExitCommand (some p)) →
        Untouched (released v.bus) (vehicleRun v (commands pkts)).bus) ∧
      ((∀ p ∈ pkts, ¬IsExitCommand (some p)) →
        Untouched v.bus (vehicleRun v (commands pkts)).bus) := by
  induction pkts using List.reverseRecOn with
  | nil => exact ⟨fun ⟨p, hp, _⟩ => absurd hp List.not_mem_nil, fun _ => .refl _⟩
  | append_singleton pkts p ih =>
      obtain ⟨hsome, hnone⟩ := ih fun q hq => h q (List.mem_append_left _ hq)
      have hp : IsTc p := h p (List.mem_append_right _ (List.mem_singleton_self p))
      have hrun : vehicleRun v (commands (pkts ++ [p])) =
          vehicleOp (vehicleRun v (commands pkts)) (.ingest (some p)) := by
        rw [commands, List.map_append, List.map_singleton, vehicleRun_append, commands]
      obtain ⟨hexit, hother⟩ := untouched_ingest (wired_run hwired (commands pkts)) hp
      rw [hrun]
      constructor
      · intro hany
        by_cases hlast : IsExitCommand (some p)
        · refine Untouched.trans ?_ (hexit hlast)
          by_cases hbefore : ∃ q ∈ pkts, IsExitCommand (some q)
          · have hagain := (hsome hbefore).released
            rwa [released_released] at hagain
          · push Not at hbefore
            exact (hnone hbefore).released
        · refine Untouched.trans (hsome ?_) (hother hlast)
          obtain ⟨q, hq, hqexit⟩ := hany
          rcases List.mem_append.1 hq with hq | hq
          · exact ⟨q, hq, hqexit⟩
          · rw [List.mem_singleton.1 hq] at hqexit
            exact absurd hqexit hlast
      · intro hall
        have hlast := hall p (List.mem_append_right _ (List.mem_singleton_self p))
        exact (hnone fun q hq => hall q (List.mem_append_left _ hq)).trans (hother hlast)

theorem frame_commands (v : Vehicle) (pkts : List Bytes) :
    (vehicleRun v (commands pkts)).watchdog = v.watchdog ∧
      (vehicleRun v (commands pkts)).spacecraft = v.spacecraft := by
  induction pkts generalizing v with
  | nil => exact ⟨rfl, rfl⟩
  | cons p pkts ih => exact ih (vehicleOp v (.ingest (some p)))

/-- **What the uplink can do.**  In every reachable state, any number of telecommands of
any bytes leave the watchdog and the spacecraft as they were; and FDIR, the contact, the
clock, both stores, what has gone down besides command reports, and the counters other
than those of the command path and of the traffic it makes (`n_dispatched` and
`n_downlinked`) are as they were too, or, if an exit command is among them, as one direct
call of `fdir_exit_safe` would have left them. -/
theorem uplink_authority (downlink inContact : Bool) (hooks : Option FdirHooks)
    (confirmCycles : U8) (w : Watchdog) (s : SpacecraftState) (ops : List VehicleOp)
    (pkts : List Bytes) (hpkts : ∀ p ∈ pkts, IsTc p) :
    let v := vehicleRun (vehicleInit downlink inContact hooks confirmCycles w s) ops
    let v' := vehicleRun v (commands pkts)
    (v'.watchdog = v.watchdog ∧ v'.spacecraft = v.spacecraft) ∧
    ((∃ p ∈ pkts, IsExitCommand (some p)) →
      Untouched (fdirExitSafe fdirIngest v.bus).2 v'.bus) ∧
    ((∀ p ∈ pkts, ¬IsExitCommand (some p)) → Untouched v.bus v'.bus) := by
  intro v v'
  exact ⟨frame_commands v pkts, untouched_commands (wired_run rfl ops) hpkts⟩

/-- In SAFE, an exit command, a command that is none, and the exit command again. -/
theorem uplink_authority_three_commands :
    let leave : Bytes := [0x18, 0x65, 0xC0, 0x01, 0x00, 0x06, 0x20, 0x82, 0x01, 0x00, 0x00, 0x8F,
      0x56]
    let junk : Bytes := [0x18, 0x65, 0xC0, 0x00, 0x00, 0x00]
    let low : VehicleOp := .cycle ⟨0x41A00000, 80, 0x41C80000, 0x41A00000, .nominal⟩
    let w : Watchdog := ⟨Vector.replicate nTasks 0, Vector.replicate nTasks 0⟩
    let v := vehicleRun (vehicleInit true false none 1 w ⟨0, 0, 0, 0, .boot⟩)
      [low, low, low, low, low]
    v.fdir.ctx.state = .safe ∧
      (vehicleRun v (commands [leave, junk, leave])).fdir.ctx.state = .nominal ∧
      (vehicleRun v (commands [leave, junk, leave])).fdir = (released v.bus).user := by
  intro leave junk low w
  have hleave : IsTc leave := ⟨by decide +kernel, by decide +kernel⟩
  have hjunk : IsTc junk := ⟨by decide +kernel, by decide +kernel⟩
  have hcommands : ∀ p ∈ [leave, junk, leave], IsTc p := by
    intro p hp
    simp only [List.mem_cons, List.not_mem_nil, or_false] at hp
    rcases hp with rfl | rfl | rfl
    · exact hleave
    · exact hjunk
    · exact hleave
  have hexit : IsExitCommand (some leave) := by
    have hok : (match tcParse (some leave) with
        | .ok p => decide ((p.tc.service, p.tc.subtype) = (130, 1) ∧ p.appData = [])
        | .error _ => false) = true := by decide +kernel
    cases hp : tcParse (some leave) with
    | error e =>
        rw [hp] at hok
        cases hok
    | ok p =>
        rw [hp] at hok
        exact ⟨p, hp, of_decide_eq_true hok⟩
  have hall := uplink_authority true false none 1 w ⟨0, 0, 0, 0, .boot⟩ [low, low, low, low, low]
    [leave, junk, leave] hcommands
  have hsame := (hall.2.1 ⟨leave, List.mem_cons_self, hexit⟩).user
  exact ⟨by decide +kernel, by decide +kernel, hsame⟩

end Flight
end SpacecraftFsw
