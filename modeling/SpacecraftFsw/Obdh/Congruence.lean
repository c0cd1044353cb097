import SpacecraftFsw.Obdh.Housekeeping

/-!
# Relations the router keeps

Two routers compared while they do the same things.  A relation between them is a
`Congruence` if telemetry and the moves of the unit behind the hook keep it, and
if it makes that unit and the command path the same on both sides.  Nothing else
decides what an ingest does, so every ingest keeps it too (`Congruence.ingest`):
re-entrance, reports and all.

* `RelatedHook` — a hook that returns the same on both sides.
-/

namespace SpacecraftFsw
namespace Obdh

open Tmtc

variable {υ : Type}

/-- A relation between routers that telemetry keeps, and under which the command
path and the unit behind the hook cannot tell the two sides apart. -/
structure Congruence (R : Bus υ → Bus υ → Prop) : Prop where
  user : ∀ {b c}, R b c → b.user = c.user
  uplink : ∀ {b c}, R b c → b.obdh.uplink = c.obdh.uplink
  setUser : ∀ {b c}, R b c → ∀ u, R { b with user := u } { c with user := u }
  setUplink : ∀ {b c}, R b c → ∀ x,
    R { b with obdh := { b.obdh with uplink := x } } { c with obdh := { c.obdh with uplink := x } }
  telemetry : ∀ {b c}, R b c → ∀ {pkt}, IsTm pkt → R (obdhIngestTm b pkt).2 (obdhIngestTm c pkt).2
  dispatched : ∀ {b c}, R b c → ∀ {p}, IsTc p → R (b.dispatched p) (c.dispatched p)

/-- A hook that does the same on both sides. -/
def RelatedHook (R : Bus υ → Bus υ → Prop) (hook : Bus υ → ℤ × Bus υ) : Prop :=
  ∀ {b c}, R b c → (hook b).1 = (hook c).1 ∧ R (hook b).2 (hook c).2

namespace Congruence

variable {R : Bus υ → Bus υ → Prop} (h : Congruence R)
include h

theorem foldl_ingest {pkts : List Bytes} (hpkts : ∀ pkt ∈ pkts, IsTm (some pkt)) {b c : Bus υ}
    (hbc : R b c) :
    R (pkts.foldl (fun b pkt => (obdhIngestTm b (some pkt)).2) b)
      (pkts.foldl (fun b pkt => (obdhIngestTm b (some pkt)).2) c) := by
  induction pkts generalizing b c with
  | nil => exact hbc
  | cons pkt pkts ih =>
      have hhead := h.telemetry hbc (hpkts pkt List.mem_cons_self)
      exact ih (fun pkt hpkt => hpkts pkt (List.mem_cons_of_mem _ hpkt)) hhead

/-- The command path sends the same reports on both sides. -/
theorem handleTc {hook : Bus υ → ℤ × Bus υ} (hhook : RelatedHook R hook) {b c : Bus υ}
    (hbc : R b c) (p : Bytes) :
    let r := b.handleTc hook p
    let r' := c.handleTc hook p
    r.2.out.reports = r'.2.out.reports ∧ R (Bus.afterTc r) (Bus.afterTc r') := by
  intro r r'
  have hcall : ∀ x b c, R b c → (busHook hook x b).1 = (busHook hook x c).1 ∧
      R (busHook hook x b).2 (busHook hook x c).2 := by
    intro x b c hbc
    exact hhook (h.setUplink hbc x)
  have hstart : (UplinkState.mk b.obdh.uplink TmOut.blank b).ctx =
      (UplinkState.mk c.obdh.uplink TmOut.blank c).ctx := h.uplink hbc
  obtain ⟨hctx, hreports, hworld⟩ := uplinkHandleTc_related hcall hstart hbc (some p)
  refine ⟨hreports, ?_⟩
  have hctx' : r.2.ctx = r'.2.ctx := hctx
  rw [Bus.afterTc, Bus.afterTc, hctx']
  exact h.setUplink hworld r'.2.ctx

/-- **An ingest keeps the relation**, whatever the bytes. -/
theorem ingest {H : ExitSafeHook υ} (hhook : RelatedHook R H.call) {b c : Bus υ} (hbc : R b c)
    (pkt : Option Bytes) : R (obdhIngest H b pkt).2 (obdhIngest H c pkt).2 := by
  rcases isTm_or_isTc pkt with htm | ⟨p, rfl, htc⟩
  · rw [obdhIngest_of_tm H b htm, obdhIngest_of_tm H c htm]
    exact h.telemetry hbc htm
  · rw [obdhIngest, obdhIngestBody_of_tc htc, obdhIngest, obdhIngestBody_of_tc htc]
    obtain ⟨hreports, hafter⟩ := h.handleTc hhook (h.dispatched hbc htc) p
    dsimp only
    rw [hreports]
    exact h.foldl_ingest (isTm_of_report _ _ p) hafter

end Congruence

end Obdh
end SpacecraftFsw
