import SpacecraftFsw.Obdh.Retention
import SpacecraftFsw.Flight.Authority

/-!
# What the ground knows of FDIR

FDIR's state, its attempts and its masks change on a cycle only if an event goes out, and
the event is made of them.  So the last event tells them, and the stores, which lose the
oldest packets first, never lose that one.

* `Picture` — what can be seen of FDIR, in its context and in an event.
* `shows_trans`, `shows_exitSafe` — after every transition the last event shows the context.
* `FdirMove` — what one operation of the system can do to FDIR.
* `Followed` — the events, the router and the ideal link along a run.
* `ground_view` — the ground sees FDIR as it was when contact was lost.
-/

namespace SpacecraftFsw

open Tmtc Obdh

/-! ## Pictures -/

namespace Fdir

/-- FDIR as it can be seen from outside; `next` is the sequence count of its next event. -/
structure Picture where
  state : U8
  attempts : U8
  sources : U8
  tasks : U8
  next : U16
  deriving DecidableEq, Repr

def FdirCtx.picture (c : FdirCtx) : Picture :=
  ⟨c.state.code, c.attempts, c.sourceMask, c.taskMask, c.evSeq⟩

/-- What a report shows.  In NOMINAL the masks it carries are those of an episode that is
over. -/
def Event.picture (e : Event) : Picture :=
  if e.state = FdirState.nominal.code then ⟨e.state, e.attempts, 0, 0, seqNext e.seqCount⟩
  else ⟨e.state, e.attempts, e.sources, e.tasks, seqNext e.seqCount⟩

/-- What some events show: the last one counts, and none means that nothing has happened. -/
def shown (pkts : List Bytes) : Picture :=
  match pkts.getLast? with
  | none => ⟨FdirState.nominal.code, 0, 0, 0, 0⟩
  | some p => (readEvent p).picture

theorem shown_concat (pkts : List Bytes) (p : Bytes) :
    shown (pkts ++ [p]) = (readEvent p).picture := by
  rw [shown, List.getLast?_concat]

theorem shown_next_lt (pkts : List Bytes) : (shown pkts).next.toNat < 16384 := by
  have hnext : ∀ seq : U16, (seqNext seq).toNat < 16384 := by
    intro seq
    rw [seqNext_toNat]
    exact Nat.mod_lt _ (by decide)
  rw [shown]
  split
  · decide
  · rw [Event.picture]
    split
    · exact hnext _
    · exact hnext _

/-- In NOMINAL no masks are shown. -/
theorem shown_nominal {pkts : List Bytes}
    (h : (shown pkts).state = FdirState.nominal.code) :
    (shown pkts).sources = 0 ∧ (shown pkts).tasks = 0 := by
  rw [shown] at h ⊢
  split at h
  · exact ⟨rfl, rfl⟩
  · rw [Event.picture] at h ⊢
    split at h
    · rename_i hs
      rw [if_pos hs]
      exact ⟨rfl, rfl⟩
    · rename_i hs
      exact absurd h hs

/-- The last event shows FDIR's context. -/
def Shows (m : FdirMem) : Prop := shown m.events = m.ctx.picture

theorem Shows.evSeq_lt {m : FdirMem} (h : Shows m) : m.ctx.evSeq.toNat < 16384 := by
  have hlt := shown_next_lt m.events
  rwa [show shown m.events = _ from h] at hlt

theorem Shows.masks {m : FdirMem} (h : Shows m) (hs : m.ctx.state = .nominal) :
    m.ctx.sourceMask = 0 ∧ m.ctx.taskMask = 0 := by
  have hpic : shown m.events = m.ctx.picture := h
  have hzero : (shown m.events).sources = 0 ∧ (shown m.events).tasks = 0 := by
    refine shown_nominal ?_
    rw [hpic]
    exact congrArg FdirState.code hs
  rwa [hpic] at hzero

theorem shows_fdirStart (hooks : Option FdirHooks) (confirmCycles : U8) :
    Shows (fdirStart hooks confirmCycles) := rfl

/-- An event shows the context it is made of, without the masks in NOMINAL. -/
theorem shown_emit (m : FdirMem) (evt : U16) (sev : FdirSev) (worst : Health)
    (hseq : m.ctx.evSeq.toNat < 16384) :
    shown (m.emit evt sev worst).events =
      if m.ctx.state = .nominal then ⟨m.ctx.state.code, m.ctx.attempts, 0, 0, seqNext m.ctx.evSeq⟩
      else (m.emit evt sev worst).ctx.picture := by
  have hcount : (m.ctx.event evt sev worst).seqCount = m.ctx.evSeq := seqMask_of_lt hseq
  have hcode : (m.ctx.event evt sev worst).state = FdirState.nominal.code ↔
      m.ctx.state = .nominal := by
    change m.ctx.state.code = FdirState.nominal.code ↔ _
    cases m.ctx.state <;> decide
  rw [FdirMem.emit_events, shown_concat, readEvent_eventPacket, Event.picture, hcount]
  simp only [hcode]
  rfl

/-- **A step of FDIR** that changes the picture emits an event that shows the new one. -/
theorem shows_trans {m m' : FdirMem} {worst : Health} {sources : U8} (h : Shows m)
    (ht : FdirTrans m worst sources m') : Shows m' := by
  have hseq := h.evSeq_lt
  cases ht with
  | confirmed hs hw hneed =>
      exact (shown_emit (m.withCtx (m.ctx.confirm sources)) _ _ _ hseq).trans (if_neg nofun)
  | filtered hs hw hneed => exact h
  | warned hs hw hprev =>
      obtain ⟨hsources, htasks⟩ := h.masks hs
      set c : FdirCtx := { m.ctx with faultStreak := 0 } with hc
      refine ((shown_emit (m.withCtx c) _ _ _ hseq).trans (if_pos hs)).trans ?_
      change _ = Picture.mk c.state.code c.attempts m.ctx.sourceMask m.ctx.taskMask _
      rw [hsources, htasks]
      rfl
  | calm hs hw hprev => exact h
  | recovered hs hw =>
      set c : FdirCtx := { m.ctx.merge sources with state := .nominal } with hc
      exact (shown_emit (m.withCtx c) _ _ _ hseq).trans (if_pos rfl)
  | safeEntered hs hw hattempts =>
      exact (shown_emit (m.withCtx (m.ctx.enterSafe sources)) _ _ _ hseq).trans (if_neg nofun)
  | attempted hs hw hattempts =>
      have hne : ¬m.ctx.state = .nominal := by simp [hs]
      exact (shown_emit (m.withCtx (m.ctx.attempt sources)) _ _ _ hseq).trans (if_neg hne)
  | safe hs => exact h

/-- **The ground exit** shows that the episode is over. -/
theorem shows_exitSafe {m : FdirMem} (h : Shows m) : Shows m.exitSafe :=
  (shown_emit (m.withCtx m.ctx.exitSafe) _ _ _ h.evSeq_lt).trans (if_pos rfl)

end Fdir

namespace Flight

open Fdir
open Relation (ReflTransGen)

/-! ## FDIR along a run -/

/-- Everything one operation of the system can do to FDIR. -/
inductive FdirMove (v : Vehicle) : VehicleOp → FdirMem → Prop
  | other (op : VehicleOp) (hcycle : ∀ readings, op ≠ .cycle readings)
      (hhk : ∀ cap, op = .fdirHk cap → (fdirBuildHk v.bus cap).1 = none) : FdirMove v op v.fdir
  | hk (cap : Option Size) (p : Bytes) (hp : (fdirBuildHk v.bus cap).1 = some p) :
      FdirMove v (.fdirHk cap)
        (v.fdir.withCtx { v.fdir.ctx with hkSeq := seqNext v.fdir.ctx.hkSeq })
  | cycle (readings : SpacecraftState) (m' : FdirMem)
      (h : FdirTrans (v.fdir.stall (watchdogCheck v.watchdog).2.1)
        (fdirEvaluate readings (watchdogCheck v.watchdog).1).1
        (fdirEvaluate readings (watchdogCheck v.watchdog).1).2 m') :
      FdirMove v (.cycle readings) m'
  | exitSafe (pkt : Option Bytes) (hs : v.fdir.ctx.state = .safe) :
      FdirMove v (.ingest pkt) v.fdir.exitSafe

/-- A call that returns a packet moves the sequence count on, and one that does not leaves
everything as it was. -/
theorem fdirBuildHk_user (b : Bus FdirMem) (cap : Option Size) :
    (fdirBuildHk b cap).2.user =
      match (fdirBuildHk b cap).1 with
      | none => b.user
      | some _ => b.user.withCtx { b.user.ctx with hkSeq := seqNext b.user.ctx.hkSeq } := by
  simp only [fdirBuildHk]
  split
  · rfl
  · rfl

theorem fdirMove_vehicleOp {v : Vehicle} (hwired : v.bus.obdh.uplink.exitSafeHook = true)
    (op : VehicleOp) : FdirMove v op (vehicleOp v op).fdir := by
  have hsame : (∀ readings, op ≠ .cycle readings) →
      (∀ cap, op = .fdirHk cap → (fdirBuildHk v.bus cap).1 = none) →
      (vehicleOp v op).fdir = v.fdir → FdirMove v op (vehicleOp v op).fdir := by
    intro hcycle hhk heq
    rw [heq]
    exact .other op hcycle hhk
  cases op with
  | ingest pkt =>
      by_cases hexit : IsExitCommand pkt
      · by_cases hs : v.fdir.ctx.state = .safe
        · have huser : (vehicleOp v (.ingest pkt)).fdir = v.fdir.exitSafe :=
            fdirIngest_granted v.bus hwired hexit hs
          rw [huser]
          exact .exitSafe pkt hs
        · obtain ⟨p, hp, hpair, happ⟩ := hexit
          cases pkt with
          | none => cases hp
          | some c => exact hsame nofun nofun (fdirIngest_refused v.bus hwired hp hpair happ hs).1
      · exact hsame nofun nofun (fdirIngest_other v.bus hexit)
  | setContact inContact => exact hsame nofun nofun (obdhSetContact_frame v.bus inContact).user
  | obdhHk cap => exact hsame nofun nofun (obdhBuildHk_frame v.bus cap).2
  | fdirHk cap =>
      cases hp : (fdirBuildHk v.bus cap).1 with
      | none =>
          have hnone : ∀ cap', VehicleOp.fdirHk cap = .fdirHk cap' →
              (fdirBuildHk v.bus cap').1 = none := by
            rintro _ ⟨⟩
            exact hp
          have huser := fdirBuildHk_user v.bus cap
          rw [hp] at huser
          exact hsame nofun hnone huser
      | some p =>
          have huser : (vehicleOp v (.fdirHk cap)).fdir = _ := fdirBuildHk_user v.bus cap
          rw [huser, hp]
          exact .hk cap p hp
  | tick | kick id => exact .other _ nofun nofun
  | cycle readings =>
      exact .cycle readings _ (fdirCycle_trans tmIngest_fdirIngest v.bus readings v.watchdog)

/-- **FDIR after one operation.** -/
theorem FdirMove.shows {v : Vehicle} {op : VehicleOp} {m : FdirMem} (h : Shows v.fdir)
    (hm : FdirMove v op m) : Shows m := by
  cases hm with
  | other _ hcycle hhk => exact h
  | hk cap p hp => exact h
  | cycle readings _ ht =>
      have hstall : Shows (v.fdir.stall (watchdogCheck v.watchdog).2.1) := h
      exact shows_trans hstall ht
  | exitSafe pkt hs => exact shows_exitSafe h

/-! ## Events and the router -/

/-- The router has been given FDIR's events, and no others. -/
def Offered (b : Bus FdirMem) : Prop := b.offered .ev = b.user.events

theorem offered_of_events {b b' : Bus FdirMem} (h : Offered b)
    (hs : ReflTransGen EventStep b b') : Offered b' := by
  induction hs with
  | refl => exact h
  | tail _ hstep ih =>
      cases hstep with
      | own u hevents hlost => exact Eq.trans ih hevents.symm
      | emit evt sev worst =>
          rename_i c _
          have hframe := tmFrame_obdhIngestTm { c with user := c.user.emit evt sev worst }
            (isTm_eventPacket c.user.ctx evt sev worst)
          have hoffered : c.offered .ev = c.user.events := ih
          have hone := ofClass_single (tmClass_eventPacket c.user.ctx evt sev worst)
          rw [Offered, Bus.offered, hframe.ingested, hframe.user, FdirMem.emit_events, ← hoffered,
            List.reduceOption_append, ofClass_append]
          exact congrArg (_ ++ ·) hone

/-- What an ingest gives the router besides is no event. -/
theorem offered_append {b b' : Bus FdirMem} (h : Offered b) (huser : b'.user = b.user)
    {pkts : List (Option Bytes)} (hpkts : b'.ingested = b.ingested ++ pkts)
    (hnone : ∀ p, some p ∈ pkts → tmClass p ≠ some .ev) : Offered b' := by
  have hnil : ofClass .ev pkts.reduceOption = [] := by
    rw [ofClass, List.filter_eq_nil_iff]
    intro p hp
    simpa using hnone p (List.reduceOption_mem_iff.1 hp)
  rw [Offered, Bus.offered, hpkts, List.reduceOption_append, ofClass_append, hnil,
    List.append_nil, huser]
  exact h

/-- **One operation of the system.** -/
theorem offered_vehicleOp {v : Vehicle} (hwired : v.bus.obdh.uplink.exitSafeHook = true)
    (h : Offered v.bus) {op : VehicleOp} (hop : op.otherThan .ev = true) :
    Offered (vehicleOp v op).bus := by
  cases op with
  | ingest pkt =>
      rcases isTm_or_isTc pkt with htm | ⟨p, rfl, htc⟩
      · have hframe := tmFrame_obdhIngestTm v.bus htm
        have hbus : (vehicleOp v (.ingest pkt)).bus = (obdhIngestTm v.bus pkt).2 :=
          congrArg Prod.snd (tmIngest_fdirIngest v.bus pkt htm)
        rw [hbus]
        refine offered_append h hframe.user hframe.ingested fun p hp => ?_
        rw [← List.mem_singleton.1 hp] at hop
        simpa [VehicleOp.otherThan] using hop
      · -- a telecommand comes to an exit from SAFE, or to nothing
        obtain ⟨hexit, hother⟩ := untouched_ingest hwired htc
        have hsame : ∀ {b : Bus FdirMem}, Offered b →
            Untouched b (fdirIngest v.bus (some p)).2 → Offered (fdirIngest v.bus (some p)).2 := by
          intro b hb hu
          rw [Offered, hu.offered, hu.user]
          exact hb
        by_cases hc : IsExitCommand (some p)
        · have hsteps := fdirExitSafe_events tmIngest_fdirIngest v.bus
          exact hsame (offered_of_events h hsteps) (hexit hc)
        · exact hsame h (hother hc)
  | setContact inContact =>
      have hframe := obdhSetContact_frame v.bus inContact
      have hpkts : (obdhSetContact v.bus inContact).ingested = v.bus.ingested ++ [] := by
        rw [List.append_nil, hframe.ingested]
      exact offered_append h hframe.user hpkts fun p hp => absurd hp List.not_mem_nil
  | tick | kick id => exact h
  | obdhHk cap =>
      obtain ⟨n, hn⟩ := obdhBuildHk_hkSeq v.bus cap
      rw [vehicleOp, hn]
      exact h
  | fdirHk cap =>
      simp only [vehicleOp, fdirBuildHk]
      split
      · exact h
      · exact h
  | cycle readings =>
      exact offered_of_events h (fdirCycle_events tmIngest_fdirIngest v.bus readings v.watchdog)

/-! ## The system along a run -/

/-- What a run keeps up, with the ideal link that the event store stands for. -/
structure Followed (v : Vehicle) (l : Link) : Prop where
  classed : Classed v.bus
  wired : v.bus.obdh.uplink.exitSafeHook = true
  events : EventsKept v.fdir
  shows : Shows v.fdir
  offered : Offered v.bus
  retains : Retains .ev v.bus l
  newest : l.Newest v.fdir.events

theorem followed_init (inContact : Bool) (hooks : Option FdirHooks) (confirmCycles : U8)
    (w : Watchdog) (s : SpacecraftState) :
    Followed (vehicleInit true inContact hooks confirmCycles w s) ⟨inContact, [], []⟩ where
  classed := classed_vehicleInit true inContact hooks confirmCycles w s
  wired := rfl
  events := ⟨nofun, rfl⟩
  shows := shows_fdirStart hooks confirmCycles
  offered := rfl
  retains := ⟨rfl, rfl, fun _ => rfl, rfl, rfl⟩
  newest := ⟨fun _ => rfl, rfl⟩

/-- **One operation.**  The link goes along, and where it ends out of contact it has
delivered nothing. -/
theorem Followed.step {v : Vehicle} {l : Link} (h : Followed v l) {op : VehicleOp}
    (hop : op.otherThan .ev = true) :
    ∃ l', Followed (vehicleOp v op) l' ∧
      ((vehicleOp v op).bus.obdh.inContact = false → l'.delivered = l.delivered) := by
  have hclassed := h.classed.steps (vehicleOp_steps v op)
  have hwired := wired_vehicleOp h.wired op
  have hevents := eventsKept_vehicleOp h.events op
  have hshows := (fdirMove_vehicleOp h.wired op).shows h.shows
  have hoffered := offered_vehicleOp h.wired h.offered hop
  rcases vehicleOp_cases v op with ⟨inContact, rfl⟩ | rfl | hquiet
  · have hframe := obdhSetContact_frame v.bus inContact
    have hretains := h.retains.contact_step h.classed inContact
    have hnewest := h.newest.contact inContact
    rw [← show (vehicleOp v (.setContact inContact)).fdir = v.fdir from hframe.user] at hnewest
    refine ⟨_, ⟨hclassed, hwired, hevents, hshows, hoffered, hretains, hnewest⟩, fun hout => ?_⟩
    rw [show inContact = false from hframe.contact.symm.trans hout]
    rfl
  · have hretains : Retains .ev (obdhTick v.bus) l := h.retains.congr rfl rfl rfl rfl
    exact ⟨l, ⟨hclassed, hwired, hevents, hshows, hoffered, hretains, h.newest⟩, fun _ => rfl⟩
  · obtain ⟨pkts, hpkts, hretains⟩ := h.retains.quiets hquiet
    -- the packets offered are the events that this operation adds
    have hmore : (vehicleOp v op).fdir.events =
        v.fdir.events ++ ofClass .ev pkts.reduceOption := by
      have hnow : (vehicleOp v op).bus.offered .ev = (vehicleOp v op).fdir.events := hoffered
      have hwas : v.bus.offered .ev = v.fdir.events := h.offered
      rw [← hnow, ← hwas, Bus.offered, Bus.offered, hpkts, List.reduceOption_append,
        ofClass_append]
    have hnewest :
        ((offers .ev pkts).foldl Gaps.Link.step l).Newest (vehicleOp v op).fdir.events := by
      rw [hmore]
      refine h.newest.offers (by decide) fun p hp => ?_
      have hmem : p ∈ (vehicleOp v op).fdir.events := by
        rw [hmore]
        exact List.mem_append_right _ hp
      exact (hevents.routable p hmem).fits
    refine ⟨_, ⟨hclassed, hwired, hevents, hshows, hoffered, hretains, hnewest⟩, fun hout => ?_⟩
    have hwas : v.bus.obdh.inContact = false := (sameLink_of_quiet hquiet).contact.symm.trans hout
    exact Gaps.Link.delivered_offers (h.retains.contact.symm.trans hwas) _

theorem Followed.run {v : Vehicle} {l : Link} (h : Followed v l) {ops : List VehicleOp}
    (hops : ∀ op ∈ ops, op.otherThan .ev = true) : ∃ l', Followed (vehicleRun v ops) l' := by
  induction ops using List.reverseRecOn with
  | nil => exact ⟨l, h⟩
  | append_singleton ops op ih =>
      obtain ⟨l', h'⟩ := ih fun op' hop' => hops op' (List.mem_append_left _ hop')
      have hop := hops op (List.mem_append_right _ (List.mem_singleton_self op))
      obtain ⟨l'', h'', -⟩ := h'.step hop
      rw [vehicleRun_append]
      exact ⟨l'', h''⟩

/-- Out of contact nothing is delivered, however long it lasts. -/
theorem Followed.gap {v : Vehicle} {l : Link} (h : Followed v l) {during : List VehicleOp}
    (hops : ∀ op ∈ during, op.otherThan .ev = true)
    (hout : ∀ q, q <+: during → q ≠ [] → (vehicleRun v q).bus.obdh.inContact = false) :
    ∃ l', Followed (vehicleRun v during) l' ∧ l'.delivered = l.delivered := by
  induction during using List.reverseRecOn with
  | nil => exact ⟨l, h, rfl⟩
  | append_singleton during op ih =>
      obtain ⟨l', h', hsame⟩ := ih (fun op' hop' => hops op' (List.mem_append_left _ hop'))
        fun q hq hne => hout q (hq.trans (List.prefix_append _ _)) hne
      have hop := hops op (List.mem_append_right _ (List.mem_singleton_self op))
      obtain ⟨l'', h'', hlast⟩ := h'.step hop
      have hend := hout (during ++ [op]) (List.prefix_refl _) (by simp)
      rw [vehicleRun_append] at hend ⊢
      exact ⟨l'', h'', (hlast hend).trans hsame⟩

/-- What the ground has of the events. -/
def eventLog (b : Bus FdirMem) : List Bytes := b.downlinked (· = apidEvent)

theorem Followed.eventLog_eq {v : Vehicle} {l : Link} (h : Followed v l) :
    eventLog v.bus = l.delivered := by
  have hapid : v.bus.downlinked (· = 0x066) = v.bus.downlinked (· ∈ classApids .ev) := by
    simp [classApids]
  change v.bus.downlinked (· = 0x066) = l.delivered
  rw [hapid, h.classed.downlinked, h.retains.sent]

/-- In contact the newest event is on the ground. -/
theorem Followed.shown_delivered {v : Vehicle} {l : Link} (h : Followed v l)
    (hin : v.bus.obdh.inContact = true) : shown l.delivered = v.fdir.ctx.picture := by
  have hlast : l.delivered.getLast? = v.fdir.events.getLast? :=
    h.newest.delivered (h.retains.contact.symm.trans hin)
  have hshows : shown v.fdir.events = v.fdir.ctx.picture := h.shows
  rw [← hshows, shown, hlast, shown]

/-- **The ground sees FDIR as it was when contact was lost.**  Take any run of a system
with a downlink into which nobody else brings events, a state of it in contact, and what
comes out of contact after that, if anything.  Then the last event on the ground shows
FDIR's state, its attempts, its masks and the number of its next event as they were in
that state in contact, whatever the stores have lost before. -/
theorem ground_view (inContact : Bool) (hooks : Option FdirHooks) (confirmCycles : U8)
    (w : Watchdog) (s : SpacecraftState) (before during : List VehicleOp)
    (hops : ∀ op ∈ before ++ during, op.otherThan .ev = true) :
    let v := vehicleRun (vehicleInit true inContact hooks confirmCycles w s) before
    v.bus.obdh.inContact = true →
    (∀ q, q <+: during → q ≠ [] → (vehicleRun v q).bus.obdh.inContact = false) →
    shown (eventLog (vehicleRun v during).bus) = v.fdir.ctx.picture := by
  intro v hin hout
  obtain ⟨l, h⟩ := (followed_init inContact hooks confirmCycles w s).run fun op hop =>
    hops op (List.mem_append_left _ hop)
  obtain ⟨l', h', hsame⟩ := h.gap (fun op hop => hops op (List.mem_append_right _ hop)) hout
  rw [h'.eventLog_eq, hsame]
  exact h.shown_delivered hin

/-- Contact is lost between two cycles of a fault: the ground still sees the first. -/
theorem ground_view_undervoltage :
    let low : VehicleOp := .cycle ⟨0x41A00000, 80, 0x41C80000, 0x41A00000, .nominal⟩
    let w : Watchdog := ⟨Vector.replicate nTasks 0, Vector.replicate nTasks 0⟩
    let v := vehicleRun (vehicleInit true true none 1 w ⟨0, 0, 0, 0, .boot⟩) [low]
    v.fdir.ctx.state = .recovering ∧
      shown (eventLog (vehicleRun v [.setContact false, low, low]).bus) = v.fdir.ctx.picture := by
  intro low w
  have hops : ∀ op ∈ [low] ++ [.setContact false, low, low], op.otherThan .ev = true := by
    intro op hop
    simp only [List.cons_append, List.nil_append, List.mem_cons, List.not_mem_nil, or_false] at hop
    rcases hop with rfl | rfl | rfl | rfl <;> rfl
  have hview := ground_view true none 1 w ⟨0, 0, 0, 0, .boot⟩ [low] _ hops (by decide +kernel)
  refine ⟨by decide +kernel, hview ?_⟩
  intro q hq hne
  simp only [List.prefix_cons_iff, List.prefix_nil] at hq
  rcases hq with rfl | ⟨q, rfl, rfl | ⟨q, rfl, rfl | ⟨q, rfl, rfl⟩⟩⟩
  · exact absurd rfl hne
  · decide +kernel
  · decide +kernel
  · decide +kernel

end Flight
end SpacecraftFsw
