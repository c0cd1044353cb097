import SpacecraftFsw.Lib.Schedule
import SpacecraftFsw.Obdh.Housekeeping

/-!
# The packet ledger

Every packet the router is given is counted exactly once, whichever way it goes
and however deep the call that brought it in.

* `ObdhOp`, `obdhRun` — runs of the router from its initialisation.
* `Ledger` — the two balances; `Ledger.step` is the argument for one step,
  `ledger_run` the result for every run.
* `dropped_ingest_unchanged` — a refused packet moves its own counter and nothing
  else.
-/

namespace SpacecraftFsw
namespace Obdh

open Tmtc
open Relation (ReflTransGen)

variable {υ : Type}

/-! ## Runs -/

/-- The operations of the router.  `attach` wires the exit-safe hook. -/
inductive ObdhOp
  | ingest (pkt : Option Bytes)
  | setContact (inContact : Bool)
  | tick
  | buildHk (cap : Option Size)
  | attach

/-- The router after one operation. -/
def obdhOp (H : ExitSafeHook υ) (b : Bus υ) : ObdhOp → Bus υ
  | .ingest pkt => (obdhIngest H b pkt).2
  | .setContact inContact => obdhSetContact b inContact
  | .tick => obdhTick b
  | .buildHk cap => (obdhBuildHk b cap).2
  | .attach =>
    { b with obdh := { b.obdh with uplink := { b.obdh.uplink with exitSafeHook := true } } }

/-- The router after a sequence of operations. -/
def obdhRun (H : ExitSafeHook υ) (b : Bus υ) (ops : List ObdhOp) : Bus υ := ops.foldl (obdhOp H) b

def ObdhOp.isTick : ObdhOp → Bool
  | .tick => true
  | _ => false

/-- An operation is one of the contact state, one of the clock, or quiet. -/
theorem obdhOp_cases (H : ExitSafeHook υ) (b : Bus υ) (op : ObdhOp) :
    (∃ inContact, op = .setContact inContact) ∨ op = .tick ∨
      (op.isTick = false ∧ ReflTransGen QuietStep b (obdhOp H b op)) := by
  cases op with
  | ingest pkt => exact .inr (.inr ⟨rfl, obdhIngest_quiet H b pkt⟩)
  | setContact inContact => exact .inl ⟨inContact, rfl⟩
  | tick => exact .inr (.inl rfl)
  | buildHk cap => exact .inr (.inr ⟨rfl, obdhBuildHk_quiet b cap⟩)
  | attach => exact .inr (.inr ⟨rfl, .single (.uplink b _)⟩)

theorem obdhOp_steps (H : ExitSafeHook υ) (b : Bus υ) (op : ObdhOp) :
    ReflTransGen BusStep b (obdhOp H b op) := by
  rcases obdhOp_cases H b op with ⟨inContact, rfl⟩ | rfl | ⟨_, h⟩
  · exact .single (.contact b inContact)
  · exact .single (.tick b)
  · exact steps_of_quiet h

theorem obdhRun_steps (H : ExitSafeHook υ) (b : Bus υ) (ops : List ObdhOp) :
    ReflTransGen BusStep b (obdhRun H b ops) :=
  Schedule.invariant_run (fun b' op h => h.trans (obdhOp_steps H b' op)) .refl ops

/-! ## The balances -/

/-- Packets in a store, and packets it has lost. -/
def Store.held (s : Store) : U32 := (s.1.count : U32) + s.1.dropped

theorem Store.held_eq (s : Store) : s.held = (s.packets.length : U32) + s.1.dropped := by
  rw [Store.held, Store.length_packets]

/-- A put accounts for its packet: it is in the store, or counted as lost, or has
pushed out one that is. -/
theorem Store.held_putAt (s : Store) {p : Bytes} (hp : 1 ≤ p.length) (t : U32) :
    (s.putAt p t).held = s.held + 1 := by
  rw [Store.held_eq, Store.held_eq]
  by_cases hmax : p.length ≤ maxPkt
  · obtain ⟨hpackets, hdrop⟩ := s.putAt_storable ⟨hp, hmax⟩ t
    rw [hpackets, hdrop]
    by_cases hfull : s.packets.length = storeCap
    · have hlen : (s.packets.tail ++ [p]).length = s.packets.length := by
        rw [List.length_append, List.length_tail, hfull]
        rfl
      rw [DropOldest.push_of_full hfull, if_pos hfull, hlen]
      ring
    · rw [DropOldest.push, if_neg hfull, if_neg hfull, List.length_append, List.length_singleton,
        Nat.cast_succ]
      ring
  · obtain ⟨hpackets, hdrop⟩ := s.putAt_oversize (not_le.1 hmax) t
    rw [hpackets, hdrop]
    ring

/-- Every way a packet can be counted. -/
def ObdhCtx.accounted (c : ObdhCtx) : U32 :=
  c.nDownlinked + c.hkStore.held + c.evStore.held + c.nDispatched + c.nDropUnknown
    + c.nDropMalformed

/-- The two balances of the router. -/
structure Ledger (b : Bus υ) : Prop where
  ingested : (b.ingested.length : U32) = b.obdh.accounted
  stored : b.obdh.nStored = (b.drained.length : U32) + b.obdh.hkStore.held + b.obdh.evStore.held

theorem ledger_init (downlink inContact : Bool) (user : υ) :
    Ledger (obdhInit downlink inContact user) := ⟨rfl, rfl⟩

theorem length_record (b : Bus υ) (pkt : Option Bytes) :
    ((b.record pkt).ingested.length : U32) = b.ingested.length + 1 := by
  rw [Bus.record, List.length_append, List.length_singleton, Nat.cast_succ]

/-- A packet counted once: the calls and the counters move together. -/
theorem Ledger.count {b b' : Bus υ} (h : Ledger b) (pkt : Option Bytes)
    (hing : b'.ingested = (b.record pkt).ingested) (hacc : b'.obdh.accounted = b.obdh.accounted + 1)
    (hstored : b'.obdh.nStored - b'.obdh.hkStore.held - b'.obdh.evStore.held
      = b.obdh.nStored - b.obdh.hkStore.held - b.obdh.evStore.held)
    (hdrained : b'.drained = b.drained) : Ledger b' := by
  constructor
  · rw [hing, length_record, h.ingested, hacc]
  · rw [hdrained]
    linear_combination hstored + h.stored

theorem accounted_storeTm (b : Bus υ) (i : StoreId) {p : Bytes} (hp : 1 ≤ p.length) :
    (b.storeTm i p).obdh.accounted = b.obdh.accounted + 1 ∧
      (b.storeTm i p).obdh.nStored - (b.storeTm i p).obdh.hkStore.held
          - (b.storeTm i p).obdh.evStore.held
        = b.obdh.nStored - b.obdh.hkStore.held - b.obdh.evStore.held := by
  have hput := (b.obdh.store i).held_putAt hp b.obdh.onboardTime
  cases i <;>
    simp only [Bus.storeTm, ObdhCtx.setStore, ObdhCtx.store, ObdhCtx.accounted] at hput ⊢ <;>
    rw [hput] <;> constructor <;> ring

theorem Ledger.telemetry {b : Bus υ} (h : Ledger b) {pkt : Option Bytes}
    {r : ObdhDest × Bus υ} (hr : TmOutcome b pkt r) : Ledger r.2 := by
  cases hr with
  | malformed _ =>
      refine h.count pkt rfl ?_ rfl rfl
      simp only [Bus.dropMalformed, Bus.record, ObdhCtx.accounted]
      ring
  | unknown p _ _ _ =>
      refine h.count pkt rfl ?_ rfl rfl
      simp only [Bus.dropUnknown, Bus.record, ObdhCtx.accounted]
      ring
  | response p _ _ _ | downlink p _ _ _ _ _ =>
      refine h.count pkt rfl ?_ rfl rfl
      simp only [deliver, Bus.record, ObdhCtx.accounted]
      ring
  | store p i hp hc _ _ =>
      have hlen : 1 ≤ p.length := by
        have := hc.1
        simp only [ccsdsPriHdrLen] at this
        omega
      obtain ⟨hacc, hstored⟩ := accounted_storeTm (b.record pkt) i hlen
      exact h.count pkt rfl hacc hstored rfl

/-- Draining a store moves its packets from one side of the balance to another. -/
theorem Ledger.drainedTo {b : Bus υ} (h : Ledger b) {i : StoreId} {s : Store}
    (hs : s.packets = []) (hdrop : s.1.dropped = (b.obdh.store i).1.dropped) :
    Ledger (b.drainedTo i (b.obdh.store i).packets s) := by
  have hheld : s.held + ((b.obdh.store i).packets.length : U32) = (b.obdh.store i).held := by
    rw [Store.held_eq, Store.held_eq, hs, hdrop, List.length_nil]
    ring
  obtain ⟨hing, hstored⟩ := h
  simp only [ObdhCtx.accounted] at hing
  constructor
  · cases i <;>
      simp only [Bus.drainedTo, ObdhCtx.setStore, ObdhCtx.store, ObdhCtx.accounted] at hheld ⊢ <;>
      linear_combination hing - hheld
  · cases i <;>
      simp only [Bus.drainedTo, ObdhCtx.setStore, ObdhCtx.store, List.length_append,
        Nat.cast_add] at hheld ⊢ <;>
      linear_combination hstored - hheld

/-- **One step keeps the balances.** -/
theorem Ledger.step {b b' : Bus υ} (h : Ledger b) (hs : BusStep b b') : Ledger b' := by
  cases hs with
  | user u => exact ⟨h.ingested, h.stored⟩
  | telemetry pkt hpkt => exact h.telemetry (obdhIngestTm_outcome b hpkt)
  | dispatch p hp =>
      refine h.count (some p) rfl ?_ rfl rfl
      simp only [Bus.dispatched, Bus.record, ObdhCtx.accounted]
      ring
  | uplink c => exact ⟨h.ingested, h.stored⟩
  | contact inContact =>
      cases inContact with
      | false =>
          rw [obdhSetContact_leave]
          exact ⟨h.ingested, h.stored⟩
      | true =>
          cases hwas : b.obdh.inContact with
          | true =>
              rw [← hwas, obdhSetContact_same]
              exact h
          | false =>
              obtain ⟨sev, shk, hev, hhk, hevdrop, hhkdrop, heq⟩ := obdhSetContact_enter hwas
              rw [heq]
              have hon : Ledger { b with obdh := { b.obdh with inContact := true } } :=
                ⟨h.ingested, h.stored⟩
              exact (hon.drainedTo (i := .ev) hev hevdrop).drainedTo (i := .hk) hhk hhkdrop
  | tick => exact ⟨h.ingested, h.stored⟩
  | hkSeq n => exact ⟨h.ingested, h.stored⟩

theorem Ledger.steps {b b' : Bus υ} (h : Ledger b) (hs : ReflTransGen BusStep b b') :
    Ledger b' := by
  induction hs with
  | refl => exact h
  | tail _ hstep ih => exact ih.step hstep

/-- **A refused packet** moves the counter that names the reason, and nothing else
of the router, its stores, the ground or the unit behind the hook. -/
theorem dropped_ingest_unchanged (H : ExitSafeHook υ) (b : Bus υ) (pkt : Option Bytes)
    (hdrop : (obdhIngest H b pkt).1 = .drop) :
    (∀ p, pkt = some p → ¬Consistent p) ∧
        (obdhIngest H b pkt).2 = (b.record pkt).dropMalformed ∨
      (∃ p, pkt = some p ∧ Consistent p ∧ tmClass p = none) ∧
        (obdhIngest H b pkt).2 = (b.record pkt).dropUnknown := by
  rcases isTm_or_isTc pkt with h | ⟨p, rfl, h⟩
  · rw [obdhIngest_of_tm H b h] at hdrop ⊢
    have hout := obdhIngestTm_outcome b h
    generalize obdhIngestTm b pkt = r at hdrop hout ⊢
    cases hout with
    | malformed h => exact .inl ⟨h, rfl⟩
    | unknown p hp hc hclass => exact .inr ⟨⟨p, hp, hc, hclass⟩, rfl⟩
    | response | downlink | store => cases hdrop
  · rw [obdhIngest, obdhIngestBody_of_tc h] at hdrop
    cases hdrop

/-- **Packet conservation.**  In every run from `obdh_init` every call of
`obdh_ingest`, at the top or nested, is accounted for exactly once modulo `2 ^ 32`:
delivered, in a store, lost by a store, dispatched, or dropped.  The packets routed
into a store are those drained from it, those in it and those it has lost.  A
refused packet moves its own drop counter and nothing else. -/
theorem ledger_run (H : ExitSafeHook υ) (downlink inContact : Bool) (user : υ)
    (ops : List ObdhOp) :
    let b := obdhRun H (obdhInit downlink inContact user) ops
    (b.ingested.length : U32) = b.obdh.nDownlinked + (b.obdh.hkStore.1.count : U32)
        + (b.obdh.evStore.1.count : U32) + b.obdh.hkStore.1.dropped + b.obdh.evStore.1.dropped
        + b.obdh.nDispatched + b.obdh.nDropUnknown + b.obdh.nDropMalformed ∧
      b.obdh.nStored = (b.drained.length : U32) + (b.obdh.hkStore.1.count : U32)
        + (b.obdh.evStore.1.count : U32) + b.obdh.hkStore.1.dropped + b.obdh.evStore.1.dropped ∧
      ∀ pkt, (obdhIngest H b pkt).1 = .drop →
        (∀ p, pkt = some p → ¬Consistent p) ∧
            (obdhIngest H b pkt).2 = (b.record pkt).dropMalformed ∨
          (∃ p, pkt = some p ∧ Consistent p ∧ tmClass p = none) ∧
            (obdhIngest H b pkt).2 = (b.record pkt).dropUnknown := by
  intro b
  obtain ⟨hing, hstored⟩ : Ledger b :=
    (ledger_init downlink inContact user).steps (obdhRun_steps H _ ops)
  refine ⟨?_, ?_, dropped_ingest_unchanged H b⟩
  · simp only [ObdhCtx.accounted, Store.held] at hing
    linear_combination hing
  · simp only [Store.held] at hstored
    linear_combination hstored

end Obdh
end SpacecraftFsw
