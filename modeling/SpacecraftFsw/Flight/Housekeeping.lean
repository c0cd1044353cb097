import SpacecraftFsw.Tmtc.HkPayload
import SpacecraftFsw.Fdir.Grammar
import SpacecraftFsw.Flight.Commands
import SpacecraftFsw.Flight.GroundView

/-!
# What housekeeping tells

The two kinds of housekeeping on board, FDIR's and the router's, read on the ground and
held against what has really happened.

* `journal` — the operations of a run, each with the state it met.
* `hkStream` — the packets a unit has built along a run.
* `fdir_housekeeping` — FDIR's housekeeping says what its events say, and what they do
  not: the last verdict, and the faults filtered out.
* `obdh_housekeeping` — the router's tells how many packets are waiting, lost or refused.
* `losses_agree` — what it gives as lost is what the numbers of the events leave out.
-/

namespace SpacecraftFsw
namespace Flight

open Tmtc Obdh Fdir
open Relation (ReflTransGen)

/-! ## The journal of a run -/

/-- The operations of a run, each with the state it met. -/
def journal : Vehicle → List VehicleOp → List (Vehicle × VehicleOp)
  | _, [] => []
  | v, op :: ops => (v, op) :: journal (vehicleOp v op) ops

theorem journal_append (v : Vehicle) (ops : List VehicleOp) (op : VehicleOp) :
    journal v (ops ++ [op]) = journal v ops ++ [(vehicleRun v ops, op)] := by
  induction ops generalizing v with
  | nil => rfl
  | cons op' ops ih => exact congrArg ((v, op') :: ·) (ih (vehicleOp v op'))

/-- The units that build housekeeping. -/
inductive HkUnit
  | obdh
  | fdir
  deriving DecidableEq, Repr

/-- The packet that an operation returns, if it is a call to the unit. -/
def HkUnit.packet : HkUnit → Vehicle × VehicleOp → Option Bytes
  | .obdh, (v, .obdhHk cap) => (obdhBuildHk v.bus cap).1
  | .fdir, (v, .fdirHk cap) => (fdirBuildHk v.bus cap).1
  | _, _ => none

/-- The housekeeping that a unit has built along a run. -/
def hkStream (u : HkUnit) (v : Vehicle) (ops : List VehicleOp) : List Bytes :=
  (journal v ops).filterMap u.packet

/-- The verdict of a cycle. -/
def verdictOf : Vehicle × VehicleOp → Option Health
  | (v, .cycle readings) => some (fdirEvaluate readings (watchdogCheck v.watchdog).1).1
  | _ => none

/-- The verdict of the last cycle of a run. -/
def lastVerdict (v : Vehicle) (ops : List VehicleOp) : Health :=
  ((journal v ops).filterMap verdictOf).getLastD .ok

/-- A cycle that shows a fault to NOMINAL and leaves it there. -/
def filteredOut (entry : Vehicle × VehicleOp) : Bool :=
  entry.1.fdir.ctx.state = .nominal ∧ verdictOf entry = some .fault ∧
    (vehicleOp entry.1 entry.2).fdir.ctx.state = .nominal

theorem hkStream_append (u : HkUnit) (v : Vehicle) (ops : List VehicleOp) (op : VehicleOp) :
    hkStream u v (ops ++ [op]) = hkStream u v ops ++ (u.packet (vehicleRun v ops, op)).toList := by
  rw [hkStream, journal_append, List.filterMap_append, hkStream]
  cases h : u.packet (vehicleRun v ops, op) <;> simp [h]

theorem lastVerdict_append (v : Vehicle) (ops : List VehicleOp) (op : VehicleOp) :
    lastVerdict v (ops ++ [op]) = (verdictOf (vehicleRun v ops, op)).getD (lastVerdict v ops) := by
  rw [lastVerdict, journal_append, List.filterMap_append]
  cases h : verdictOf (vehicleRun v ops, op) <;> simp [h, lastVerdict]

/-! ## FDIR's housekeeping -/

/-- FDIR's housekeeping, with the sequence count and the message counter of its packet. -/
structure FdirHk where
  seqCount : U16
  counter : U16
  state : U8
  attempts : U8
  worst : U8
  sources : U8
  faults : U16
  safeEntries : U16
  filtered : U16
  deriving DecidableEq, Repr

def readFdirHk (pkt : Bytes) : FdirHk where
  seqCount := (ccsdsParsePrimary pkt).seqCount
  counter := be16 (octet pkt 9) (octet pkt 10)
  state := octet pkt 11
  attempts := octet pkt 12
  worst := octet pkt 13
  sources := octet pkt 14
  faults := be16 (octet pkt 15) (octet pkt 16)
  safeEntries := be16 (octet pkt 17) (octet pkt 18)
  filtered := be16 (octet pkt 19) (octet pkt 20)

/-- **What FDIR packs is what the ground reads.** -/
theorem readFdirHk_build {b : Bus FdirMem} {cap : Option Size} {p : Bytes}
    (h : (fdirBuildHk b cap).1 = some p) (hseq : b.user.ctx.hkSeq.toNat < 16384) :
    let c := b.user.ctx
    readFdirHk p = ⟨c.hkSeq, c.hkSeq, c.state.code, c.attempts, BitVec.ofNat 8 c.prevWorst.code,
      c.sourceMask, c.nFaults, c.nSafeEntries, c.nFiltered⟩ := by
  have hlen : (fdirHkPayload b.user.ctx).length = 10 := rfl
  simp only [fdirBuildHk] at h
  split at h
  · cases h
  · rename_i hpack
    rw [obdhPackTm_some (by omega) hpack, Option.some.injEq, seqMask_of_lt hseq] at h
    subst h
    intro c
    have hcount := tmPacket_seqCount apidFdirHk b.user.ctx.hkSeq pusServiceHousekeeping pusHkSubtype
      (fdirHkPayload b.user.ctx)
    have hcounter := tmPacket_counter apidFdirHk b.user.ctx.hkSeq pusServiceHousekeeping
      pusHkSubtype (fdirHkPayload b.user.ctx)
    rw [seqMask_of_lt hseq] at hcount
    rw [readFdirHk, hcount, hcounter]
    have hword : ∀ w : U16, be16 (hi8 w) (lo8 w) = w := be16_hi8_lo8
    congr 1
    · exact hword c.nFaults
    · exact hword c.nSafeEntries
    · exact hword c.nFiltered

/-- The fields of FDIR's context that its housekeeping reports and its events do not, and
what they are worth after a run. -/
structure Kept (v₀ : Vehicle) (ops : List VehicleOp) (m : FdirMem) : Prop where
  next : m.ctx.hkSeq.toNat = (hkStream .fdir v₀ ops).length % 16384
  worst : m.ctx.prevWorst = lastVerdict v₀ ops
  filtered : m.ctx.nFiltered = ((journal v₀ ops).countP filteredOut : U16)

/-- A step of FDIR counts the fault that it filters out. -/
theorem nFiltered_trans {m m' : FdirMem} {worst : Health} {sources : U8}
    (h : FdirTrans m worst sources m') :
    m'.ctx.hkSeq = m.ctx.hkSeq ∧ m'.ctx.prevWorst = worst ∧
      m'.ctx.nFiltered = m.ctx.nFiltered +
        if m.ctx.state = .nominal ∧ worst = .fault ∧ m'.ctx.state = .nominal then 1 else 0 := by
  have hadd : ∀ (n : U16) {p : Prop} [Decidable p], ¬p → n = n + if p then 1 else 0 := by
    intro n p _ hp
    rw [if_neg hp, add_zero]
  have hcount : ∀ (n : U16) {p : Prop} [Decidable p], p → n + 1 = n + if p then 1 else 0 := by
    intro n p _ hp
    rw [if_pos hp]
  cases h with
  | confirmed hs hw hneed => exact ⟨rfl, rfl, hadd _ fun hif => FdirState.noConfusion hif.2.2⟩
  | filtered hs hw hneed => exact ⟨rfl, rfl, hcount _ ⟨hs, hw, hs⟩⟩
  | warned hs hw hprev =>
      refine ⟨rfl, rfl, hadd _ fun hif => ?_⟩
      exact Health.noConfusion (hw.symm.trans hif.2.1)
  | calm hs hw hprev => exact ⟨rfl, rfl, hadd _ fun hif => hw hif.2.1⟩
  | recovered hs hw | safeEntered hs hw hattempts | attempted hs hw hattempts =>
      refine ⟨rfl, rfl, hadd _ fun hif => ?_⟩
      exact FdirState.noConfusion (hs.symm.trans hif.1)
  | safe hs =>
      refine ⟨rfl, rfl, hadd _ fun hif => ?_⟩
      exact FdirState.noConfusion (hs.symm.trans hif.1)

/-- **One operation.** -/
theorem Kept.move {v₀ : Vehicle} {ops : List VehicleOp} (h : Kept v₀ ops (vehicleRun v₀ ops).fdir)
    {op : VehicleOp} {m : FdirMem} (hm : FdirMove (vehicleRun v₀ ops) op m)
    (hlast : m = (vehicleOp (vehicleRun v₀ ops) op).fdir) : Kept v₀ (ops ++ [op]) m := by
  set v := vehicleRun v₀ ops with hv
  -- an operation that is no cycle and returns no packet
  have hother : (∀ readings, op ≠ .cycle readings) →
      HkUnit.fdir.packet (v, op) = none → m.ctx.hkSeq = v.fdir.ctx.hkSeq →
      m.ctx.prevWorst = v.fdir.ctx.prevWorst → m.ctx.nFiltered = v.fdir.ctx.nFiltered →
      Kept v₀ (ops ++ [op]) m := by
    intro hcycle hpacket hseq hworst hfiltered
    have hverdict : verdictOf (v, op) = none := by
      cases op with
      | cycle readings => exact absurd rfl (hcycle readings)
      | ingest | setContact | tick | obdhHk | fdirHk | kick => rfl
    refine ⟨?_, ?_, ?_⟩
    · rw [hkStream_append, ← hv, hpacket, hseq, h.next, Option.toList_none, List.append_nil]
    · rw [lastVerdict_append, ← hv, hverdict, hworst, h.worst]
      rfl
    · rw [journal_append, List.countP_append, List.countP_singleton, ← hv, filteredOut, hverdict,
        hfiltered, h.filtered]
      simp
  cases hm with
  | other _ hcycle hhk =>
      refine hother hcycle ?_ rfl rfl rfl
      cases op with
      | fdirHk cap => exact hhk cap rfl
      | ingest | setContact | tick | obdhHk | kick | cycle => rfl
  | hk cap p hp =>
      have hpacket : HkUnit.fdir.packet (v, .fdirHk cap) = some p := hp
      refine ⟨?_, ?_, ?_⟩
      · rw [hkStream_append, ← hv, hpacket, List.length_append]
        change (seqNext v.fdir.ctx.hkSeq).toNat = _
        rw [seqNext_toNat, h.next]
        exact Nat.mod_add_mod _ _ _
      · rw [lastVerdict_append, ← hv]
        exact h.worst
      · rw [journal_append, List.countP_append, List.countP_singleton, ← hv]
        simpa [filteredOut, verdictOf] using h.filtered
  | exitSafe pkt hs => exact hother nofun rfl rfl rfl rfl
  | cycle readings _ ht =>
      obtain ⟨hseq, hworst, hfiltered⟩ := nFiltered_trans ht
      have hpacket : HkUnit.fdir.packet (v, .cycle readings) = none := rfl
      refine ⟨?_, ?_, ?_⟩
      · rw [hkStream_append, ← hv, hpacket, hseq, Option.toList_none, List.append_nil]
        exact h.next
      · rw [lastVerdict_append, ← hv, hworst]
        rfl
      · rw [journal_append, List.countP_append, List.countP_singleton, ← hv, hfiltered,
          Nat.cast_add]
        have hsame : (v.fdir.stall (watchdogCheck v.watchdog).2.1).ctx.nFiltered =
          v.fdir.ctx.nFiltered := rfl
        rw [hsame, h.filtered]
        congr 1
        have hiff : filteredOut (v, .cycle readings) = true ↔
            (v.fdir.stall (watchdogCheck v.watchdog).2.1).ctx.state = .nominal ∧
              (fdirEvaluate readings (watchdogCheck v.watchdog).1).1 = .fault ∧
                m.ctx.state = .nominal := by
          change _ ↔ v.fdir.ctx.state = .nominal ∧ _
          rw [hlast]
          simp [filteredOut, verdictOf]
        by_cases hout : filteredOut (v, .cycle readings) = true
        · rw [if_pos hout, if_pos (hiff.1 hout), Nat.cast_one]
        · rw [if_neg hout, if_neg (fun hif => hout (hiff.2 hif)), Nat.cast_zero]

/-- FDIR along a run of the system. -/
structure Recorded (hooks : FdirHooks) (v₀ : Vehicle) (ops : List VehicleOp) (v : Vehicle) :
    Prop where
  wired : v.bus.obdh.uplink.exitSafeHook = true
  bounded : Bounded v.fdir.ctx
  counted : Counted hooks v.fdir
  shows : Shows v.fdir
  kept : Kept v₀ ops v.fdir

/-- The grammar's step, for an operation of the system. -/
theorem FdirMove.counted {v : Vehicle} {op : VehicleOp} {m : FdirMem} {hooks : FdirHooks}
    (hb : Bounded v.fdir.ctx) (h : Counted hooks v.fdir) (hm : FdirMove v op m) :
    Bounded m.ctx ∧ Counted hooks m := by
  have hmoved : ∀ {m₀ m₁ : FdirMem}, Counted hooks m₀ → Move m₀ m₁ → Counted hooks m₁ := by
    intro m₀ m₁ h₀ hmove
    cases hmove with
    | silent hs _ => exact h₀.silent hs
    | speaks e hs _ => exact h₀.speaks hs
  cases hm with
  | other _ hcycle hhk => exact ⟨hb, h⟩
  | hk cap p hp => exact ⟨⟨hb.le, hb.safe⟩, h.silent ⟨rfl, rfl, rfl, rfl, rfl, rfl, rfl⟩⟩
  | cycle readings _ ht =>
      have hstall : Bounded (v.fdir.stall (watchdogCheck v.watchdog).2.1).ctx := ⟨hb.le, hb.safe⟩
      have hsame : Counted hooks (v.fdir.stall (watchdogCheck v.watchdog).2.1) :=
        h.silent ⟨rfl, rfl, rfl, rfl, rfl, rfl, rfl⟩
      exact ⟨ht.bounded hstall, hmoved hsame (ht.move hstall)⟩
  | exitSafe pkt hs => exact ⟨bounded_exitSafe _, hmoved h (move_exitSafe hs)⟩

theorem recorded_run (downlink inContact : Bool) (hooks : Option FdirHooks) (confirmCycles : U8)
    (w : Watchdog) (s : SpacecraftState) (ops : List VehicleOp) :
    let v₀ := vehicleInit downlink inContact hooks confirmCycles w s
    Recorded (hooks.getD ⟨false, false⟩) v₀ ops (vehicleRun v₀ ops) := by
  intro v₀
  induction ops using List.reverseRecOn with
  | nil =>
      have hstart := trace_start hooks confirmCycles
      have hshows := shows_fdirStart hooks confirmCycles
      exact ⟨rfl, hstart.bounded, hstart.counted, hshows, rfl, rfl, rfl⟩
  | append_singleton ops op ih =>
      have hmove := fdirMove_vehicleOp ih.wired op
      obtain ⟨hbounded, hcounted⟩ := hmove.counted ih.bounded ih.counted
      rw [vehicleRun_append]
      exact ⟨wired_vehicleOp ih.wired op, hbounded, hcounted, hmove.shows ih.shows,
        ih.kept.move hmove rfl⟩

/-- **FDIR's housekeeping agrees with its events.**  Whenever FDIR builds a housekeeping
packet, in any run:

* both of its headers carry the number of such packets built before, modulo 16384, failed
  calls not counted;
* the state, the attempts and the sources are those that the last event shows, and the
  faults and SAFE entries are as many as have been reported, modulo 2^16;
* the health is the verdict of the last cycle, and the filtered faults are the cycles that
  showed a fault to NOMINAL and left it there, modulo 2^16. -/
theorem fdir_housekeeping (downlink inContact : Bool) (hooks : Option FdirHooks)
    (confirmCycles : U8) (w : Watchdog) (s : SpacecraftState) (ops : List VehicleOp)
    (cap : Option Size) (p : Bytes) :
    let v₀ := vehicleInit downlink inContact hooks confirmCycles w s
    let v := vehicleRun v₀ ops
    (fdirBuildHk v.bus cap).1 = some p →
    let n := BitVec.ofNat 16 ((hkStream .fdir v₀ ops).length % 16384)
    let last := shown v.fdir.events
    readFdirHk p =
      { seqCount := n
        counter := n
        state := last.state
        attempts := last.attempts
        worst := BitVec.ofNat 8 (lastVerdict v₀ ops).code
        sources := last.sources
        faults := (countId evtFault v.fdir.reports : U16)
        safeEntries := (countId evtSafeEnter v.fdir.reports : U16)
        filtered := ((journal v₀ ops).countP filteredOut : U16) } := by
  intro v₀ v hp n last
  have h : Recorded (hooks.getD ⟨false, false⟩) v₀ ops v :=
    recorded_run downlink inContact hooks confirmCycles w s ops
  have hnext := h.kept.next
  have hlt : v.bus.user.ctx.hkSeq.toNat < 16384 := hnext ▸ Nat.mod_lt _ (by decide)
  have hseq : v.bus.user.ctx.hkSeq = n := by
    apply BitVec.eq_of_toNat_eq
    rw [BitVec.toNat_ofNat]
    exact hnext.trans (Nat.mod_eq_of_lt (by omega)).symm
  have hpic : last = v.bus.user.ctx.picture := h.shows
  have hworst : v.bus.user.ctx.prevWorst = lastVerdict v₀ ops := h.kept.worst
  have hfaults : v.bus.user.ctx.nFaults = _ := h.counted.faults
  have hentries : v.bus.user.ctx.nSafeEntries = _ := h.counted.safeEntries
  have hfiltered : v.bus.user.ctx.nFiltered = _ := h.kept.filtered
  rw [readFdirHk_build hp hlt, hseq, hworst, hfaults, hentries, hfiltered, hpic]
  rfl

/-- One fault seen and filtered out, then a packet, then another. -/
theorem fdir_housekeeping_one_fault :
    let low : VehicleOp := .cycle ⟨0x41A00000, 80, 0x41C80000, 0x41A00000, .nominal⟩
    let w : Watchdog := ⟨Vector.replicate nTasks 0, Vector.replicate nTasks 0⟩
    let v := vehicleRun (vehicleInit true true none 2 w ⟨0, 0, 0, 0, .boot⟩)
      [low, .fdirHk (some 21)]
    ∃ p, (fdirBuildHk v.bus (some 21)).1 = some p ∧ (readFdirHk p).filtered = 1 ∧
      (readFdirHk p).seqCount = 1 := by
  intro low w
  have hbuilt : ((fdirBuildHk (vehicleRun (vehicleInit true true none 2 w ⟨0, 0, 0, 0, .boot⟩)
      [low, .fdirHk (some 21)]).bus (some 21)).1).isSome := by decide +kernel
  obtain ⟨p, hp⟩ := Option.isSome_iff_exists.1 hbuilt
  have hread := fdir_housekeeping true true none 2 w ⟨0, 0, 0, 0, .boot⟩ [low, .fdirHk (some 21)]
    (some 21) p hp
  refine ⟨p, hp, ?_⟩
  rw [hread]
  decide +kernel

/-! ## The router's housekeeping -/

/-- The router's housekeeping, with the sequence count and the message counter of its
packet. -/
structure ObdhHk where
  seqCount : U16
  counter : U16
  count : StoreId → U8
  dropped : StoreId → U32
  dropUnknown : U32

/-- Four octets of a packet as `put_be32` writes them. -/
def be32 (pkt : Bytes) (i : ℕ) : U32 := unpackF32Be (pkt.drop i)

def readObdhHk (pkt : Bytes) : ObdhHk where
  seqCount := (ccsdsParsePrimary pkt).seqCount
  counter := be16 (octet pkt 9) (octet pkt 10)
  count
    | .hk => octet pkt 11
    | .ev => octet pkt 12
  dropped
    | .hk => be32 pkt 13
    | .ev => be32 pkt 17
  dropUnknown := be32 pkt 21

/-- `put_be32` and `pack_f32_be` write the same four octets. -/
theorem putBe32_eq (v : U32) : putBe32 v = packF32Be v := by
  have hlow : v.setWidth 8 = (v &&& 0xFF#32).setWidth 8 := by
    ext i hi
    simp only [BitVec.getElem_setWidth, BitVec.getLsbD_and]
    interval_cases i <;> simp
  rw [putBe32, packF32Be, hlow]

/-- **What the router packs is what the ground reads.** -/
theorem readObdhHk_build {b : Bus FdirMem} {cap : Option Size} {p : Bytes}
    (h : (obdhBuildHk b cap).1 = some p) (hseq : b.obdh.hkSeq.toNat < 16384) :
    (readObdhHk p).seqCount = b.obdh.hkSeq ∧ (readObdhHk p).counter = b.obdh.hkSeq ∧
      (∀ i, (readObdhHk p).count i = BitVec.ofNat 8 (b.obdh.store i).1.count) ∧
      (∀ i, (readObdhHk p).dropped i = (b.obdh.store i).1.dropped) ∧
      (readObdhHk p).dropUnknown = b.obdh.nDropUnknown := by
  have hlen : (obdhHkPayload b.obdh).length = 14 := rfl
  unfold obdhBuildHk at h
  split at h
  · cases h
  · rename_i hpack
    rw [obdhPackTm_some (by omega) hpack, Option.some.injEq, seqMask_of_lt hseq] at h
    subst h
    have hcount := tmPacket_seqCount apidObdhHk b.obdh.hkSeq pusServiceHousekeeping pusHkSubtype
      (obdhHkPayload b.obdh)
    rw [seqMask_of_lt hseq] at hcount
    have hword : ∀ (v : U32) (rest : Bytes), unpackF32Be (putBe32 v ++ rest) = v := by
      intro v rest
      rw [putBe32_eq]
      exact unpack_packF32Be v rest
    refine ⟨hcount, tmPacket_counter _ _ _ _ _, ?_, ?_, ?_⟩
    · intro i
      cases i <;> rfl
    · intro i
      cases i with
      | hk => exact hword b.obdh.hkStore.1.dropped _
      | ev => exact hword b.obdh.evStore.1.dropped (putBe32 b.obdh.nDropUnknown)
    · have hlast := hword b.obdh.nDropUnknown []
      rwa [List.append_nil] at hlast

/-- Only a call to the router moves its sequence count. -/
theorem hkSeq_vehicleOp (v : Vehicle) (op : VehicleOp) :
    (vehicleOp v op).bus.obdh.hkSeq =
      match HkUnit.obdh.packet (v, op) with
      | none => v.bus.obdh.hkSeq
      | some _ => seqNext v.bus.obdh.hkSeq := by
  cases op with
  | ingest pkt =>
      rcases isTm_or_isTc pkt with htm | ⟨p, rfl, htc⟩
      · have hbus : (vehicleOp v (.ingest pkt)).bus = (obdhIngestTm v.bus pkt).2 :=
          congrArg Prod.snd (tmIngest_fdirIngest v.bus pkt htm)
        rw [hbus]
        exact (sameCounts_obdhIngestTm v.bus htm).hkSeq
      · obtain ⟨c, hsteps⟩ := world_events (v.bus.dispatched p) p
        have hworld := (sameCounts_of_events hsteps).hkSeq
        have hbus : (vehicleOp v (.ingest (some p))).bus = _ :=
          congrArg Prod.snd (ingest_tc_delivers v.bus htc)
        rw [hbus]
        exact (frame_downlinkAll _ _).2.hkSeq.trans hworld
  | setContact inContact => exact (sameCounts_contact v.bus inContact).hkSeq
  | obdhHk cap =>
      simp only [vehicleOp, HkUnit.packet, obdhBuildHk]
      split
      · rfl
      · rfl
  | fdirHk cap => exact congrArg ObdhCtx.hkSeq (fdirBuildHk_frame v.bus cap).1
  | tick | kick id => rfl
  | cycle readings =>
      have hsteps := fdirCycle_events tmIngest_fdirIngest v.bus readings v.watchdog
      exact (sameCounts_of_events hsteps).hkSeq

theorem hkSeq_run {v : Vehicle} (h : v.bus.obdh.hkSeq = 0) (ops : List VehicleOp) :
    (vehicleRun v ops).bus.obdh.hkSeq.toNat = (hkStream .obdh v ops).length % 16384 := by
  induction ops using List.reverseRecOn with
  | nil =>
      rw [vehicleRun, List.foldl_nil, h]
      rfl
  | append_singleton ops op ih =>
      rw [vehicleRun_append, hkSeq_vehicleOp, hkStream_append]
      split
      · rename_i hnone
        rw [ih, hnone, Option.toList_none, List.append_nil]
      · rename_i p hsome
        rw [seqNext_toNat, ih, hsome, List.length_append]
        exact Nat.mod_add_mod _ _ _

/-- Telemetry for no application that the router knows. -/
def unknownTm : Option Bytes → Bool
  | some p => Consistent p ∧ tmClass p = none ∧ (ccsdsParsePrimary p).apid ≠ ccsdsApidCmd
  | none => false

/-- The router has counted the packets for unknown applications. -/
def CountsUnknown {υ : Type} (b : Bus υ) : Prop :=
  b.obdh.nDropUnknown = (b.ingested.countP unknownTm : U32)

theorem CountsUnknown.record {υ : Type} {b b' : Bus υ} (h : CountsUnknown b) {pkt : Option Bytes}
    (hingested : b'.ingested = b.ingested ++ [pkt])
    (hcount : b'.obdh.nDropUnknown = b.obdh.nDropUnknown + if unknownTm pkt then 1 else 0) :
    CountsUnknown b' := by
  rw [CountsUnknown, hcount, hingested, List.countP_append, List.countP_singleton, Nat.cast_add,
    show b.obdh.nDropUnknown = _ from h]
  split
  · rw [Nat.cast_one]
  · rw [Nat.cast_zero]

theorem CountsUnknown.telemetry {υ : Type} {b : Bus υ} (h : CountsUnknown b) {pkt : Option Bytes}
    (hpkt : IsTm pkt) : CountsUnknown (obdhIngestTm b pkt).2 := by
  refine h.record (tmFrame_obdhIngestTm b hpkt).ingested ?_
  by_cases hbad : ∀ p, pkt = some p → ¬Consistent p
  · have hknown : unknownTm pkt = false := by
      cases pkt with
      | none => rfl
      | some p => simp [unknownTm, hbad p rfl]
    rw [obdhIngestTm_malformed hpkt hbad, hknown]
    exact (add_zero _).symm
  · push Not at hbad
    obtain ⟨p, rfl, hc⟩ := hbad
    rw [obdhIngestTm_consistent hc]
    cases hclass : tmClass p with
    | some i =>
        have hknown : unknownTm (some p) = false := by simp [unknownTm, hclass]
        rw [hknown]
        cases b.obdh.inContact with
        | true => exact (add_zero _).symm
        | false => cases i <;> exact (add_zero _).symm
    | none =>
        by_cases hcmd : (ccsdsParsePrimary p).apid = ccsdsApidCmd
        · have hknown : unknownTm (some p) = false := by simp [unknownTm, hcmd]
          simp only [hcmd, if_true, hknown]
          exact (add_zero _).symm
        · have hunknown : unknownTm (some p) = true := by simp [unknownTm, hclass, hcmd, hc]
          simp only [hcmd, if_false, hunknown]
          rfl

theorem CountsUnknown.step {υ : Type} {b b' : Bus υ} (h : CountsUnknown b) (hs : BusStep b b') :
    CountsUnknown b' := by
  cases hs with
  | user u | uplink c | tick | hkSeq n => exact h
  | telemetry pkt hpkt => exact h.telemetry hpkt
  | dispatch p hp =>
      have hknown : unknownTm (some p) = false := by
        have hbad : ¬Consistent p := fun hc => absurd (hp.2.symm.trans hc.2.1) (by decide)
        simp [unknownTm, hbad]
      refine h.record rfl ?_
      rw [hknown]
      exact (add_zero _).symm
  | contact inContact =>
      have hingested := (obdhSetContact_frame b inContact).ingested
      have hcount : (obdhSetContact b inContact).obdh.nDropUnknown = b.obdh.nDropUnknown := by
        cases inContact with
        | false =>
            rw [obdhSetContact_leave]
        | true =>
            cases hwas : b.obdh.inContact with
            | true => rw [← hwas, obdhSetContact_same]
            | false =>
                obtain ⟨sev, shk, -, -, -, -, heq⟩ := obdhSetContact_enter hwas
                rw [heq]
                rfl
      rw [CountsUnknown, hcount, hingested]
      exact h

theorem CountsUnknown.steps {υ : Type} {b b' : Bus υ} (h : CountsUnknown b)
    (hs : ReflTransGen BusStep b b') : CountsUnknown b' := by
  induction hs with
  | refl => exact h
  | tail _ hstep ih => exact ih.step hstep

theorem ordered_vehicleRun (inContact : Bool) (hooks : Option FdirHooks) (confirmCycles : U8)
    (w : Watchdog) (s : SpacecraftState) (ops : List VehicleOp) :
    Ordered (vehicleRun (vehicleInit true inContact hooks confirmCycles w s) ops).bus := by
  have hstart : Ordered (vehicleInit true inContact hooks confirmCycles w s).bus :=
    (ordered_init inContact (fdirStart hooks confirmCycles)).step (.uplink _ _)
  exact hstart.steps (vehicleRun_steps _ ops)

/-- **The router's housekeeping tells what became of the telemetry.**  Whenever the router
of a system with a downlink builds a housekeeping packet, in any run:

* both of its headers carry the number of such packets built before, modulo 16384, failed
  calls not counted;
* for events and for housekeeping each, it gives the number of packets waiting, and what
  is missing of those ingested, neither on the ground nor waiting, modulo 2^32;
* and the number of packets ingested for applications that are not known, modulo 2^32. -/
theorem obdh_housekeeping (inContact : Bool) (hooks : Option FdirHooks) (confirmCycles : U8)
    (w : Watchdog) (s : SpacecraftState) (ops : List VehicleOp) (cap : Option Size) (p : Bytes) :
    let v₀ := vehicleInit true inContact hooks confirmCycles w s
    let v := vehicleRun v₀ ops
    (obdhBuildHk v.bus cap).1 = some p →
    let n := BitVec.ofNat 16 ((hkStream .obdh v₀ ops).length % 16384)
    let hk := readObdhHk p
    (hk.seqCount = n ∧ hk.counter = n) ∧
    (∀ i, (hk.count i).toNat = (v.bus.obdh.store i).packets.length ∧
      ((v.bus.offered i).length : U32) =
        ((ofClass i v.bus.ground).length : U32) + (hk.count i).toNat + hk.dropped i) ∧
    hk.dropUnknown = (v.bus.ingested.countP unknownTm : U32) := by
  intro v₀ v hp n hk
  have hsteps : ReflTransGen BusStep v₀.bus v.bus := vehicleRun_steps v₀ ops
  have hnext : v.bus.obdh.hkSeq.toNat = _ := hkSeq_run (v := v₀) rfl ops
  have hlt : v.bus.obdh.hkSeq.toNat < 16384 := hnext ▸ Nat.mod_lt _ (by decide)
  have hseq : v.bus.obdh.hkSeq = n := by
    apply BitVec.eq_of_toNat_eq
    rw [BitVec.toNat_ofNat]
    exact hnext.trans (Nat.mod_eq_of_lt (by omega)).symm
  obtain ⟨hone, htwo, hcounts, hdropped, hunknown⟩ := readObdhHk_build hp hlt
  have hfill : ∀ i, (hk.count i).toNat = (v.bus.obdh.store i).packets.length := by
    intro i
    have hle : (v.bus.obdh.store i).1.count ≤ 16 := (v.bus.obdh.store i).2.count_le
    rw [show hk.count i = _ from hcounts i, Store.length_packets, BitVec.toNat_ofNat]
    omega
  have hordered : Ordered v.bus := ordered_vehicleRun inContact hooks confirmCycles w s ops
  have hrefused : CountsUnknown v.bus := by
    have hstart : CountsUnknown v₀.bus := rfl
    exact hstart.steps hsteps
  refine ⟨⟨hone.trans hseq, htwo.trans hseq⟩, fun i => ⟨hfill i, ?_⟩, hunknown.trans hrefused⟩
  obtain ⟨lost, hlost, hacc⟩ := hordered.classes i
  rw [hacc.missing, hfill i, show hk.dropped i = _ from hdropped i, hlost, Nat.cast_add,
    Nat.cast_add]

/-- Out of contact: an event waiting, and a packet for nobody. -/
theorem obdh_housekeeping_one_event :
    let e := tmPacket 0x066 0 5 1 []
    let stray := tmPacket 0x123 0 3 25 []
    let w : Watchdog := ⟨Vector.replicate nTasks 0, Vector.replicate nTasks 0⟩
    let v := vehicleRun (vehicleInit true false none 2 w ⟨0, 0, 0, 0, .boot⟩)
      [.ingest (some e), .ingest (some stray)]
    ∃ p, (obdhBuildHk v.bus (some 25)).1 = some p ∧ ((readObdhHk p).count .ev).toNat = 1 ∧
      (readObdhHk p).dropUnknown = 1 := by
  intro e stray w
  have hbuilt : ((obdhBuildHk (vehicleRun (vehicleInit true false none 2 w ⟨0, 0, 0, 0, .boot⟩)
      [.ingest (some e), .ingest (some stray)]).bus (some 25)).1).isSome := by decide +kernel
  obtain ⟨p, hp⟩ := Option.isSome_iff_exists.1 hbuilt
  obtain ⟨-, hclasses, hunknown⟩ := obdh_housekeeping false none 2 w ⟨0, 0, 0, 0, .boot⟩
    [.ingest (some e), .ingest (some stray)] (some 25) p hp
  refine ⟨p, hp, ?_, ?_⟩
  · rw [(hclasses .ev).1]
    decide +kernel
  · rw [hunknown]
    decide +kernel

/-! ## Losses -/

/-- **Three counts of the losses agree.**  In contact, in a system with a downlink and with
no events from elsewhere, the number that the ground expects of FDIR's next event, after
the last one it has, is the number of events it has together with those that the router's
housekeeping gives as lost, modulo 16384. -/
theorem losses_agree (inContact : Bool) (hooks : Option FdirHooks) (confirmCycles : U8)
    (w : Watchdog) (s : SpacecraftState) (ops : List VehicleOp)
    (hops : ∀ op ∈ ops, op.otherThan .ev = true) (cap : Option Size) (p : Bytes) :
    let v := vehicleRun (vehicleInit true inContact hooks confirmCycles w s) ops
    v.bus.obdh.inContact = true → (obdhBuildHk v.bus cap).1 = some p →
    (shown (eventLog v.bus)).next.toNat =
      ((eventLog v.bus).length + ((readObdhHk p).dropped .ev).toNat) % 16384 := by
  intro v hin hp
  obtain ⟨l, h⟩ := (followed_init inContact hooks confirmCycles w s).run hops
  have hrecorded := recorded_run true inContact hooks confirmCycles w s ops
  have hordered := ordered_vehicleRun inContact hooks confirmCycles w s ops
  obtain ⟨lost, hlost, hacc⟩ := hordered.classes .ev
  have hlt : v.bus.obdh.hkSeq.toNat < 16384 := by
    have hnext := hkSeq_run (v := vehicleInit true inContact hooks confirmCycles w s) rfl ops
    exact hnext ▸ Nat.mod_lt _ (by decide)
  have hdropped : (readObdhHk p).dropped .ev = (lost : U32) :=
    ((readObdhHk_build hp hlt).2.2.2.1 .ev).trans hlost
  have hcount : v.fdir.events.length = (eventLog v.bus).length + lost := by
    have hoffered : v.bus.offered .ev = v.fdir.events := h.offered
    have hsent : ofClass .ev v.bus.ground = eventLog v.bus :=
      h.retains.sent.trans h.eventLog_eq.symm
    have hmissing := hacc.missing
    rw [hoffered, hsent, hordered.empty hin .ev] at hmissing
    exact hmissing
  have hnext : v.fdir.ctx.evSeq.toNat = v.fdir.events.length % 16384 := by
    have hreports := hrecorded.counted.next
    rwa [FdirMem.reports, List.length_map] at hreports
  have hshown : (shown (eventLog v.bus)).next = v.fdir.ctx.evSeq := by
    rw [h.eventLog_eq, h.shown_delivered hin]
    rfl
  have hcast : (lost : U32).toNat = lost % 4294967296 := rfl
  rw [hshown, hnext, hcount, hdropped, hcast]
  omega

/-- Three episodes out of contact: eighteen events, two of them lost. -/
theorem losses_agree_three_episodes :
    let low : VehicleOp := .cycle ⟨0x41A00000, 80, 0x41C80000, 0x41A00000, .nominal⟩
    let leave : VehicleOp := .ingest (some [0x18, 0x65, 0xC0, 0x01, 0x00, 0x06, 0x20, 0x82, 0x01,
      0x00, 0x00, 0x8F, 0x56])
    let episode := [low, low, low, low, low, leave]
    let w : Watchdog := ⟨Vector.replicate nTasks 0, Vector.replicate nTasks 0⟩
    let v := vehicleRun (vehicleInit true false none 1 w ⟨0, 0, 0, 0, .boot⟩)
      (episode ++ episode ++ episode ++ [.setContact true])
    (eventLog v.bus).length = 16 ∧ ∃ p, (obdhBuildHk v.bus (some 25)).1 = some p ∧
      (shown (eventLog v.bus)).next.toNat =
        ((eventLog v.bus).length + ((readObdhHk p).dropped .ev).toNat) % 16384 := by
  intro low leave episode w
  have hops : ∀ op ∈ episode ++ episode ++ episode ++ [.setContact true],
      op.otherThan .ev = true := by decide +kernel
  have hbuilt : ((obdhBuildHk (vehicleRun (vehicleInit true false none 1 w ⟨0, 0, 0, 0, .boot⟩)
      (episode ++ episode ++ episode ++ [.setContact true])).bus (some 25)).1).isSome := by
    decide +kernel
  obtain ⟨p, hp⟩ := Option.isSome_iff_exists.1 hbuilt
  have hagree := losses_agree false none 1 w ⟨0, 0, 0, 0, .boot⟩ _ hops (some 25) p
  exact ⟨by decide +kernel, p, hp, hagree (by decide +kernel) hp⟩

end Flight
end SpacecraftFsw
