import SpacecraftFsw.Rtos.Ending

/-!
# The telemetry task, statement by statement

`Channel.receive` takes an iteration of `vTelemetryTask` in one step.  Here the other
tasks run between any two statements of it: with a sample in hand that is not emitted
yet, before the loop is tested again, and before `vTaskEndScheduler`.  The iterations of
the sampler need no such care: it meets the other tasks at its send alone, and in the
four-task system it is taken apart already.

* `Telemetry.advance` — one statement.
* `Telemetry.settle` — the channel without an iteration half done: brought to its end,
  except the last one, which is taken back, as the tasks run on until the scheduler ends.
* `Telemetry.Placed.advance_settle` — a statement is an iteration of `Channel.receive`,
  or nothing.
* `Program` — what both programs have in common, as far as the channel goes.
* `statements_refine` — so their runs are, either way, those with whole iterations.
* `statements_end_iff` — and they end under the same condition.
-/

namespace SpacecraftFsw
namespace Rtos

open Foundation

/-! ## The statements -/

/-- Where the telemetry task is in its loop. -/
inductive TelemetryAt
  | testing
  | receiving
  | stamping
  | emitting
  | counting
  | ending
  deriving DecidableEq, Repr

/-- What `vTelemetryTask` works with beside the channel: its place, its local `sample`,
which nothing initialises, and `g_sim_tick_ms`. -/
structure Telemetry where
  place : TelemetryAt
  sample : HkSample
  gSimTickMs : BitVec 64
  deriving DecidableEq, Repr

/-- The next statement of `vTelemetryTask`. -/
def Telemetry.advance (total : ℕ) (t : Telemetry) (c : Channel) : Telemetry × Channel :=
  if c.ended then (t, c)
  else
    match t.place with
    | .testing =>
      ({ t with place := if c.framesEmitted < total then .receiving else .ending }, c)
    | .receiving =>
      match xQueueReceive c.queue with
      | none => (t, c)
      | some (x, queue) =>
        ({ t with place := .stamping, sample := x }, { c with queue := queue })
    | .stamping => ({ t with place := .emitting, gSimTickMs := t.sample.tickMs.setWidth 64 }, c)
    | .emitting =>
      ({ t with place := .counting },
        { c with emitted := c.emitted ++ [⟨t.sample.frame, t.gSimTickMs, t.sample.state⟩] })
    | .counting =>
      ({ t with place := .testing }, { c with framesEmitted := c.framesEmitted + 1 })
    | .ending => (t, { c with ended := true })

/-- What a step of another task does to the channel: it may send a sample. -/
def Channel.offer (c : Channel) : Option HkSample → Channel
  | none => c
  | some x => c.send x

/-- As `main` starts the task, with the memory of its local. -/
def Telemetry.start (memory : HkSample) : Telemetry := ⟨.testing, memory, 0⟩

namespace Telemetry

variable {w : World} {total : ℕ} {t : Telemetry} {c : Channel}

theorem dropped_advance (total : ℕ) (t : Telemetry) (c : Channel) :
    (t.advance total c).2.dropped = c.dropped := by
  unfold advance
  split
  · rfl
  · split <;> try rfl
    split <;> rfl

/-! ## Whole iterations -/

/-- The channel with the iteration under way brought to its end, the test of the loop
apart. -/
def finish (t : Telemetry) (c : Channel) : Channel :=
  match t.place with
  | .testing | .receiving | .ending => c
  | .stamping | .emitting =>
    { c with
      emitted := c.emitted ++ [emitHkFrame t.sample]
      framesEmitted := c.framesEmitted + 1 }
  | .counting => { c with framesEmitted := c.framesEmitted + 1 }

/-- A reception taken back. -/
def putBack (x : HkSample) (c : Channel) : Channel :=
  { c with
    queue := x :: c.queue
    emitted := c.emitted.dropLast
    framesEmitted := c.framesEmitted - 1 }

/-- The channel as whole iterations leave it: the last of them is taken when the
scheduler ends. -/
def settle (total : ℕ) (t : Telemetry) (c : Channel) : Channel :=
  let d := t.finish c
  if d.ended = true ∨ d.framesEmitted < total then d else putBack t.sample d

theorem ended_finish (t : Telemetry) (c : Channel) : (t.finish c).ended = c.ended := by
  unfold finish
  split <;> rfl

/-- What holds between two statements. -/
structure Placed (total : ℕ) (t : Telemetry) (c : Channel) : Prop where
  stamped : t.place = .emitting → t.gSimTickMs = t.sample.tickMs.setWidth 64
  going : t.place ≠ .testing → t.place ≠ .ending → c.framesEmitted < total
  ending : t.place = .ending → c.framesEmitted = total
  bound : c.framesEmitted ≤ total
  ended : c.ended = true → t.place = .ending
  last : (t.finish c).framesEmitted = total →
    ∃ l, (t.finish c).emitted = l ++ [emitHkFrame t.sample]

theorem placed_start (memory : HkSample) (htotal : 0 < total) :
    (start memory).Placed total Channel.create where
  stamped := by simp [start]
  going := by simp [start]
  ending := by simp [start]
  bound := Nat.zero_le total
  ended := by simp [Channel.create]
  last h := absurd h htotal.ne

theorem Placed.advance (h : t.Placed total c) :
    (t.advance total c).1.Placed total (t.advance total c).2 := by
  cases hended : c.ended with
  | true => simpa [Telemetry.advance, hended] using h
  | false =>
      have hgo : ¬ c.ended = true := by simp [hended]
      obtain ⟨hstamped, hgoing, hending, hbound, -, hlast⟩ := h
      cases hat : t.place with
      | testing =>
          simp only [Telemetry.advance, if_neg hgo, hat]
          simp only [finish, hat] at hlast
          by_cases hmore : c.framesEmitted < total
          · rw [if_pos hmore]
            exact ⟨by simp, fun _ _ => hmore, by simp, hbound, by simp [hended],
              fun hn => absurd hn hmore.ne⟩
          · rw [if_neg hmore]
            exact ⟨by simp, by simp, fun _ => by omega, hbound, by simp, hlast⟩
      | receiving =>
          have hmore := hgoing (by simp [hat]) (by simp [hat])
          cases hq : c.queue with
          | nil =>
              simpa [Telemetry.advance, hended, hat, hq, xQueueReceive] using
                (⟨hstamped, hgoing, hending, hbound, by simp [hended], hlast⟩ : t.Placed total c)
          | cons x queue =>
              simp only [Telemetry.advance, if_neg hgo, hat, hq, xQueueReceive]
              exact ⟨by simp, fun _ _ => hmore, by simp, hbound, by simp [hended],
                fun _ => ⟨c.emitted, rfl⟩⟩
      | stamping =>
          have hmore := hgoing (by simp [hat]) (by simp [hat])
          simp only [Telemetry.advance, if_neg hgo, hat]
          exact ⟨fun _ => rfl, fun _ _ => hmore, by simp, hbound, by simp [hended],
            fun _ => ⟨c.emitted, rfl⟩⟩
      | emitting =>
          have hmore := hgoing (by simp [hat]) (by simp [hat])
          simp only [Telemetry.advance, if_neg hgo, hat]
          refine ⟨by simp, fun _ _ => hmore, by simp, hbound, by simp [hended], fun _ => ?_⟩
          exact ⟨c.emitted, by simp [finish, emitHkFrame, hstamped hat]⟩
      | counting =>
          have hmore := hgoing (by simp [hat]) (by simp [hat])
          simp only [Telemetry.advance, if_neg hgo, hat]
          simp only [finish, hat] at hlast
          exact ⟨by simp, by simp, by simp, hmore, by simp [hended], hlast⟩
      | ending =>
          simp only [Telemetry.advance, if_neg hgo, hat]
          simp only [finish, hat] at hlast
          exact ⟨by simp [hat], by simp [hat], hending, hbound, by simp [hat],
            by simpa [finish, hat] using hlast⟩

/-- Only the last iteration is taken back. -/
theorem settle_of_lt (h : (t.finish c).framesEmitted < total) :
    t.settle total c = t.finish c := if_pos (.inr h)

theorem settle_of_le (hended : c.ended = false) (h : total ≤ (t.finish c).framesEmitted) :
    t.settle total c = putBack t.sample (t.finish c) := by
  refine if_neg ?_
  rw [ended_finish, hended]
  simpa using h

/-- What the end of the iteration does not show. -/
theorem settle_congr {t' : Telemetry} {c' : Channel} (hsample : t'.sample = t.sample)
    (hfinish : t'.finish c' = t.finish c) : t'.settle total c' = t.settle total c := by
  simp only [settle, hsample, hfinish]

/-- **One statement** is an iteration of the task, or nothing: the reception of a sample
that is not the last, or the end of the scheduler. -/
theorem Placed.advance_settle (h : t.Placed total c) (htotal : 0 < total) :
    (t.advance total c).1.settle total (t.advance total c).2 = t.settle total c ∨
      (t.advance total c).1.settle total (t.advance total c).2 =
        (t.settle total c).receive total := by
  cases hended : c.ended with
  | true => exact .inl (by simp [Telemetry.advance, hended])
  | false =>
      have hgo : ¬ c.ended = true := by simp [hended]
      simp only [Telemetry.advance, if_neg hgo]
      cases hat : t.place with
      | testing =>
          refine .inl (settle_congr rfl ?_)
          by_cases hmore : c.framesEmitted < total <;> simp [finish, hat, hmore]
      | receiving =>
          have hmore := h.going (by simp [hat]) (by simp [hat])
          have hidle : t.finish c = c := by simp [finish, hat]
          have hbefore : t.settle total c = c := by
            rw [settle_of_lt (by rwa [hidle]), hidle]
          rw [hbefore]
          cases hq : c.queue with
          | nil => exact .inl hbefore
          | cons x queue =>
              simp only [xQueueReceive]
              rcases Nat.lt_or_ge (c.framesEmitted + 1) total with hlast | hlast
              · refine .inr ?_
                rw [settle_of_lt hlast]
                simp [finish, Channel.receive, xQueueReceive, hended, hq, hlast]
              · -- the last sample stays on the queue until the scheduler ends
                refine .inl ?_
                rw [settle_of_le (by exact hended) (by exact hlast)]
                simp [finish, putBack, ← hq]
      | stamping => exact .inl (settle_congr rfl (by simp [finish, hat]))
      | emitting =>
          refine .inl (settle_congr rfl ?_)
          simp [finish, hat, emitHkFrame, h.stamped hat]
      | counting => exact .inl (settle_congr rfl (by simp [finish, hat]))
      | ending =>
          have hall := h.ending hat
          have hidle : t.finish c = c := by simp [finish, hat]
          obtain ⟨l, hl⟩ := h.last (by rw [hidle, hall])
          have hbefore : t.settle total c = putBack t.sample c := by
            rw [settle_of_le hended (by rw [hidle, hall]), hidle]
          have hcount : total - 1 + 1 = total := by omega
          rw [hidle] at hl
          refine .inr ?_
          rw [hbefore]
          simp [settle, finish, hat, putBack, Channel.receive, xQueueReceive, hended, hl, hall,
            hcount]

/-! ## Beside the other tasks -/

@[simp] theorem sent_settle : (t.settle total c).sent = c.sent := by
  unfold settle finish
  cases t.place <;> simp only <;> split <;> rfl

@[simp] theorem ended_settle : (t.settle total c).ended = c.ended := by
  unfold settle finish
  cases t.place <;> simp only <;> split <;> rfl

theorem finish_send (t : Telemetry) (c : Channel) (x : HkSample) :
    t.finish (c.send x) = (t.finish c).send x := by
  unfold finish Channel.send
  cases t.place <;> simp only <;> split <;> simp_all

theorem Placed.offer (h : t.Placed total c) (x : Option HkSample) :
    t.Placed total (c.offer x) := by
  cases x with
  | none => exact h
  | some x =>
      exact {
        stamped := h.stamped
        going := by simpa [Channel.offer] using h.going
        ending := by simpa [Channel.offer] using h.ending
        bound := by simpa [Channel.offer] using h.bound
        ended := by simpa [Channel.offer] using h.ended
        last := by simpa [Channel.offer, finish_send] using h.last }

/-- A sampler with a sample to send finds the telemetry task before its last one. -/
theorem more_of_sound (hsound : (t.settle total c).Sound w total)
    (hmore : c.sent.length < total) : (t.finish c).framesEmitted < total := by
  by_contra hlast
  have hmissing := hsound.accounted.missing
  have hcounted := hsound.counted
  simp only [List.length_map, sent_settle] at hmissing
  cases hended : c.ended with
  | true =>
      have hall := (hsound.ended (by simpa using hmore.le) (by simpa using hended)).1
      rw [sent_settle] at hall
      omega
  | false =>
      -- the sample in hand and those before it make `total`
      rw [settle_of_le hended (Nat.le_of_not_lt hlast)] at hmissing hcounted
      simp only [putBack, List.length_cons] at hmissing hcounted
      omega

theorem settle_offer {x : Option HkSample}
    (hmore : x ≠ none → (t.finish c).framesEmitted < total) :
    t.settle total (c.offer x) = (t.settle total c).offer x := by
  cases x with
  | none => rfl
  | some x =>
      have hbefore := hmore (Option.some_ne_none x)
      have hafter : (t.finish (c.send x)).framesEmitted < total := by
        simpa [finish_send] using hbefore
      simp only [Channel.offer]
      rw [settle_of_lt hbefore, settle_of_lt hafter, finish_send]

/-! ## Emission and the end -/

theorem Placed.finish_le (h : t.Placed total c) : (t.finish c).framesEmitted ≤ total := by
  have hgoing := h.going
  have hbound := h.bound
  unfold finish
  cases hat : t.place with
  | testing | receiving | ending => exact hbound
  | stamping | emitting | counting => exact hgoing (by simp [hat]) (by simp [hat])

/-- What is emitted between two statements is emitted by whole iterations, one more at
most. -/
theorem Placed.emitted_prefix (h : t.Placed total c) :
    c.emitted <+: ((t.settle total c).receive total).emitted := by
  have hfirst : c.emitted <+: (t.finish c).emitted := by
    unfold finish
    split <;> simp
  refine hfirst.trans ?_
  by_cases hquiet : (t.finish c).ended = true ∨ (t.finish c).framesEmitted < total
  · have hsettle : t.settle total c = t.finish c := if_pos hquiet
    rw [hsettle]
    unfold Channel.receive
    split
    · exact List.prefix_rfl
    · split <;> simp
  · have hsettle : t.settle total c = putBack t.sample (t.finish c) := if_neg hquiet
    simp only [not_or, Bool.not_eq_true] at hquiet
    obtain ⟨l, hl⟩ := h.last (by have := h.finish_le; omega)
    rw [hsettle]
    simp [Channel.receive, putBack, xQueueReceive, hquiet.1, hl]

theorem Placed.faithful (h : t.Placed total c)
    (hsound : (t.settle total c).Sound w total) : c.Faithful w := by
  have hearly := h.emitted_prefix.sublist
  obtain ⟨hsampled, hincreasing⟩ := hsound.receive.faithful
  rw [Channel.sent_receive, sent_settle] at hsampled
  exact ⟨hearly.trans hsampled, hincreasing.sublist (hearly.map _)⟩

/-- A task whose turn does nothing waits for a sample, or has ended the scheduler. -/
theorem Placed.settle_of_idle (h : t.Placed total c) (hidle : t.advance total c = (t, c)) :
    t.settle total c = c ∧ (c.ended = true ∨ c.queue = []) := by
  cases hended : c.ended with
  | true =>
      have hfinish : t.finish c = c := by simp [finish, h.ended hended]
      refine ⟨?_, .inl rfl⟩
      simp [settle, hfinish, hended]
  | false =>
      have hgo : ¬ c.ended = true := by simp [hended]
      rw [Telemetry.advance, if_neg hgo] at hidle
      cases hat : t.place with
      | receiving =>
          have hmore := h.going (by simp [hat]) (by simp [hat])
          have hfinish : t.finish c = c := by simp [finish, hat]
          refine ⟨by rw [settle_of_lt (by rwa [hfinish]), hfinish], .inr ?_⟩
          cases hq : c.queue with
          | nil => rfl
          | cons x queue =>
              have hplace := congrArg (fun p => p.1.place) hidle
              simp [hat, hq, xQueueReceive] at hplace
      | testing =>
          have hplace := congrArg (fun p => p.1.place) hidle
          simp only [hat] at hplace
          split at hplace <;> cases hplace
      | stamping | emitting | counting =>
          have hplace := congrArg (fun p => p.1.place) hidle
          simp [hat] at hplace
      | ending =>
          have hend := congrArg (fun p => p.2.ended) hidle
          simp [hat, hended] at hend

/-! ## An iteration in its statements -/

/-- Between two iterations, or after the last. -/
def AtRest (total : ℕ) (t : Telemetry) (c : Channel) : Prop :=
  c.ended = true ∨ c.ended = false ∧ t.place = .testing ∧ c.framesEmitted < total

theorem AtRest.offer (h : t.AtRest total c) (x : Option HkSample) :
    t.AtRest total (c.offer x) := by
  cases x with
  | none => exact h
  | some x => simpa [AtRest, Channel.offer] using h

/-- An iteration is a number of statements. -/
theorem AtRest.iteration (h : t.AtRest total c) :
    ∃ n t', (fun p : Telemetry × Channel => p.1.advance total p.2)^[n] (t, c) =
      (t', c.receive total) ∧ t'.AtRest total (c.receive total) := by
  rcases h with hended | ⟨hended, hat, hmore⟩
  · have hstay : c.receive total = c := by simp [Channel.receive, hended]
    exact ⟨0, t, by rw [hstay]; rfl, by rw [hstay]; exact .inl hended⟩
  cases hq : c.queue with
  | nil =>
      have hstay : c.receive total = c := by simp [Channel.receive, hended, hq, xQueueReceive]
      exact ⟨0, t, by rw [hstay]; rfl, by rw [hstay]; exact .inr ⟨hended, hat, hmore⟩⟩
  | cons x queue =>
      by_cases hlast : c.framesEmitted + 1 < total
      · refine ⟨5, ⟨.testing, x, x.tickMs.setWidth 64⟩, ?_, .inr ?_⟩
        · simp [advance, hended, hat, hmore, hq, xQueueReceive, Channel.receive, hlast,
            emitHkFrame]
        · simp [Channel.receive, hended, hq, xQueueReceive, hlast]
      · have hall : total ≤ c.framesEmitted + 1 := Nat.le_of_not_lt hlast
        refine ⟨7, ⟨.ending, x, x.tickMs.setWidth 64⟩, ?_, .inl ?_⟩
        · simp [advance, hended, hat, hmore, hq, xQueueReceive, Channel.receive, hlast, hall,
            emitHkFrame]
        · simp [Channel.receive, hended, hq, xQueueReceive, hall]

end Telemetry

/-! ## Programs around the channel -/

/-- A program around the channel.  One task takes the iterations of `Channel.receive`;
a step of another leaves the channel alone or sends a sample, and does so whatever the
channel holds. -/
structure Program (w : World) (total : ℕ) (σ τ : Type) where
  step : σ → τ → σ
  telemetry : τ
  channel : σ → Channel
  put : σ → Channel → σ
  main : σ
  Inv : σ → Prop
  channel_put : ∀ p c, channel (put p c) = c
  put_channel : ∀ p, put p (channel p) = p
  put_put : ∀ p c d, put (put p c) d = put p d
  channel_main : channel main = Channel.create
  inv_main : Inv main
  inv_step : ∀ p a, Inv p → Inv (step p a)
  sound : ∀ p, Inv p → (channel p).Sound w total
  receive : ∀ p, step p telemetry = put p ((channel p).receive total)
  beside : ∀ p a, Inv p → a ≠ telemetry → ∃ x : Option HkSample,
    (x ≠ none → (channel p).sent.length < total) ∧
      ∀ c, c.ended = (channel p).ended → step (put p c) a = put (step p a) (c.offer x)

/-- A program with its telemetry task between two statements. -/
structure Staged (σ : Type) where
  sys : σ
  telemetry : Telemetry

namespace Program

variable {w : World} {total : ℕ} {σ τ : Type} (P : Program w total σ τ)

/-- The program with whole iterations. -/
def settle (s : Staged σ) : σ := P.put s.sys (s.telemetry.settle total (P.channel s.sys))

/-- As `main` starts the scheduler. -/
def start (memory : HkSample) : Staged σ := ⟨P.main, Telemetry.start memory⟩

/-- What holds of every state between two statements. -/
structure StagedInv (s : Staged σ) : Prop where
  placed : s.telemetry.Placed total (P.channel s.sys)
  inv : P.Inv (P.settle s)

variable {P} {s : Staged σ}

theorem channel_settle :
    P.channel (P.settle s) = s.telemetry.settle total (P.channel s.sys) := P.channel_put _ _

theorem sent_settle : (P.channel (P.settle s)).sent = (P.channel s.sys).sent := by
  rw [channel_settle, Telemetry.sent_settle]

theorem StagedInv.sound (h : P.StagedInv s) :
    (s.telemetry.settle total (P.channel s.sys)).Sound w total := by
  rw [← channel_settle]
  exact P.sound _ h.inv

theorem settle_start (memory : HkSample) (htotal : 0 < total) :
    P.settle (P.start memory) = P.main := by
  have hwhole : (Telemetry.start memory).settle total Channel.create = Channel.create :=
    Telemetry.settle_of_lt htotal
  rw [settle, start, P.channel_main, hwhole, ← P.channel_main, P.put_channel]

theorem stagedInv_start (memory : HkSample) (htotal : 0 < total) :
    P.StagedInv (P.start memory) where
  placed := by
    rw [start, P.channel_main]
    exact Telemetry.placed_start memory htotal
  inv := by
    rw [settle_start memory htotal]
    exact P.inv_main

variable [DecidableEq τ] (P)

/-- The scheduler runs a task: the telemetry task for one statement. -/
def advance (s : Staged σ) (a : τ) : Staged σ :=
  if a = P.telemetry then
    let next := s.telemetry.advance total (P.channel s.sys)
    ⟨P.put s.sys next.2, next.1⟩
  else { s with sys := P.step s.sys a }

/-- The state a schedule of statements leads to. -/
def runStatements (memory : HkSample) (plan : List τ) : Staged σ :=
  plan.foldl P.advance (P.start memory)

variable {P}

/-- A step of another task is the same step of the program with whole iterations. -/
theorem StagedInv.beside (h : P.StagedInv s) {a : τ} (ha : a ≠ P.telemetry) :
    (P.advance s a).telemetry.Placed total (P.channel (P.advance s a).sys) ∧
      P.settle (P.advance s a) = P.step (P.settle s) a := by
  obtain ⟨x, hmore, hoffer⟩ := P.beside (P.settle s) a h.inv ha
  have hstep : P.step s.sys a =
      P.put (P.step (P.settle s) a) ((P.channel s.sys).offer x) := by
    rw [← hoffer _ (by rw [channel_settle, Telemetry.ended_settle]), settle, P.put_put,
      P.put_channel]
  have hwhole : P.step (P.settle s) a =
      P.put (P.step (P.settle s) a) ((P.channel (P.settle s)).offer x) := by
    rw [← hoffer _ rfl, P.put_channel]
  have hbefore : x ≠ none → (s.telemetry.finish (P.channel s.sys)).framesEmitted < total := by
    intro hx
    refine Telemetry.more_of_sound h.sound ?_
    rw [← sent_settle]
    exact hmore hx
  rw [advance, if_neg ha]
  constructor
  · simpa only [hstep, P.channel_put] using h.placed.offer x
  · show P.put (P.step s.sys a) (s.telemetry.settle total (P.channel (P.step s.sys a))) = _
    rw [hstep, P.channel_put, P.put_put, Telemetry.settle_offer hbefore, ← channel_settle]
    exact hwhole.symm

/-- **One step**: one of the program with whole iterations, or none. -/
theorem StagedInv.advance (h : P.StagedInv s) (htotal : 0 < total) (a : τ) :
    P.StagedInv (P.advance s a) ∧ (P.settle (P.advance s a) = P.settle s ∨
      ∃ a', P.settle (P.advance s a) = P.step (P.settle s) a') := by
  by_cases ha : a = P.telemetry
  · have hsettle : P.settle (P.advance s a) = P.put s.sys
        ((s.telemetry.advance total (P.channel s.sys)).1.settle total
          (s.telemetry.advance total (P.channel s.sys)).2) := by
      simp only [Program.advance, if_pos ha, settle, P.channel_put, P.put_put]
    have hplaced : (P.advance s a).telemetry.Placed total (P.channel (P.advance s a).sys) := by
      simpa only [Program.advance, if_pos ha, P.channel_put] using h.placed.advance
    rcases h.placed.advance_settle htotal with hquiet | hreceive
    · rw [hquiet] at hsettle
      refine ⟨⟨hplaced, ?_⟩, .inl hsettle⟩
      rw [hsettle]
      exact h.inv
    · have hwhole : P.settle (P.advance s a) = P.step (P.settle s) P.telemetry := by
        rw [hsettle, hreceive, P.receive, channel_settle, settle, P.put_put]
      refine ⟨⟨hplaced, ?_⟩, .inr ⟨P.telemetry, hwhole⟩⟩
      rw [hwhole]
      exact P.inv_step _ _ h.inv
  · obtain ⟨hplaced, hwhole⟩ := h.beside ha
    refine ⟨⟨hplaced, ?_⟩, .inr ⟨a, hwhole⟩⟩
    rw [hwhole]
    exact P.inv_step _ _ h.inv

theorem runStatements_inv (memory : HkSample) (htotal : 0 < total) (plan : List τ) :
    P.StagedInv (P.runStatements memory plan) :=
  Schedule.invariant_run (fun _ a h => (h.advance htotal a).1) (stagedInv_start memory htotal)
    plan

/-- **Refinement.**  Every run of statements is one of whole iterations. -/
theorem runStatements_refines (memory : HkSample) (htotal : 0 < total) (plan : List τ) :
    ∃ plan', P.settle (P.runStatements memory plan) = List.foldl P.step P.main plan' := by
  have hrun := Schedule.refines_run P.settle (fun _ a h => (h.advance htotal a).1)
    (fun _ a h => (h.advance htotal a).2) (stagedInv_start memory htotal) plan
  rwa [settle_start memory htotal] at hrun

/-- What holds of every state between two iterations. -/
structure RestInv (P : Program w total σ τ) (s : Staged σ) : Prop where
  inv : P.Inv s.sys
  rest : s.telemetry.AtRest total (P.channel s.sys)

/-- The statements of an iteration, without a turn of another task between them. -/
theorem advance_replicate (s : Staged σ) (n : ℕ) :
    (List.replicate n P.telemetry).foldl P.advance s =
      let next := (fun p : Telemetry × Channel => p.1.advance total p.2)^[n]
        (s.telemetry, P.channel s.sys)
      ⟨P.put s.sys next.2, next.1⟩ := by
  induction n generalizing s with
  | zero => simp [P.put_channel]
  | succ n ih =>
      rw [List.replicate_succ, List.foldl_cons, ih, Function.iterate_succ_apply]
      simp only [Program.advance, if_true, P.channel_put, P.put_put]

/-- Each step of the program with whole iterations is a number of statements. -/
theorem RestInv.covered (h : P.RestInv s) (a : τ) : ∃ plan : List τ,
    P.RestInv (plan.foldl P.advance s) ∧ (plan.foldl P.advance s).sys = P.step s.sys a := by
  have hnext := P.inv_step s.sys a h.inv
  by_cases ha : a = P.telemetry
  · obtain ⟨n, t', hn, hrest⟩ := h.rest.iteration
    have hstep : P.put s.sys ((P.channel s.sys).receive total) = P.step s.sys a := by
      rw [ha, P.receive]
    have hchannel : P.channel (P.step s.sys a) = (P.channel s.sys).receive total := by
      rw [← hstep, P.channel_put]
    refine ⟨List.replicate n P.telemetry, ?_⟩
    rw [advance_replicate, hn]
    simp only [hstep]
    exact ⟨⟨hnext, by rwa [hchannel]⟩, trivial⟩
  · refine ⟨[a], ?_⟩
    simp only [List.foldl_cons, List.foldl_nil, Program.advance, if_neg ha]
    refine ⟨⟨hnext, ?_⟩, trivial⟩
    obtain ⟨x, -, hoffer⟩ := P.beside s.sys a h.inv ha
    have hstep : P.step s.sys a = P.put (P.step s.sys a) ((P.channel s.sys).offer x) := by
      rw [← hoffer _ rfl, P.put_channel]
    rw [hstep, P.channel_put]
    exact h.rest.offer x

/-- **Cover.**  Every run of whole iterations is one of statements. -/
theorem runStatements_covers (memory : HkSample) (htotal : 0 < total) (plan' : List τ) :
    ∃ plan, (P.runStatements memory plan).sys = plan'.foldl P.step P.main := by
  have hstart : P.RestInv (P.start memory) := by
    refine ⟨P.inv_main, ?_⟩
    rw [start, P.channel_main]
    exact .inr ⟨rfl, rfl, htotal⟩
  have hstep : ∀ s a, P.RestInv s → ∃ plan : List τ, P.RestInv (plan.foldl P.advance s) ∧
      (plan.foldl P.advance s).sys = P.step s.sys a := fun _ a h => h.covered a
  obtain ⟨plan, -, hplan⟩ := Schedule.covers_run Staged.sys hstep hstart plan'
  exact ⟨plan, hplan⟩

/-- A statement of the telemetry task drops nothing. -/
theorem dropped_advance {room : σ → τ → Prop}
    (hroom : ∀ p a, (P.channel (P.step p a)).dropped = [] ↔
      (P.channel p).dropped = [] ∧ room p a) (s : Staged σ) (a : τ) :
    (P.channel (P.advance s a).sys).dropped = [] ↔
      (P.channel s.sys).dropped = [] ∧ room s.sys a := by
  rw [← hroom]
  by_cases ha : a = P.telemetry
  · simp only [Program.advance, if_pos ha, P.channel_put, Telemetry.dropped_advance]
    rw [ha, P.receive, P.channel_put, Channel.dropped_receive]
  · simp only [Program.advance, if_neg ha]

/-- **The end**, with all samples sent and nothing to do for the telemetry task. -/
theorem runStatements_ends_iff {room : σ → τ → Prop}
    (hroom : ∀ p a, (P.channel (P.step p a)).dropped = [] ↔
      (P.channel p).dropped = [] ∧ room p a)
    (memory : HkSample) (htotal : 0 < total) {plan : List τ} {s : Staged σ}
    (hs : P.runStatements memory plan = s)
    (hsent : (P.channel (P.settle s)).sent.length = total)
    (hidle : P.advance s P.telemetry = s) :
    (P.channel s.sys).Finished total ↔
      Schedule.Throughout P.advance (fun s a => room s.sys a) (P.start memory) plan := by
  have hinv : P.StagedInv s := hs ▸ runStatements_inv memory htotal plan
  have hclean : (P.channel s.sys).dropped = [] ↔
      Schedule.Throughout P.advance (fun s a => room s.sys a) (P.start memory) plan := by
    have hrun := Schedule.throughout_iff (fun s : Staged σ => (P.channel s.sys).dropped = [])
      (dropped_advance hroom) (P.start memory) plan
    have hstart : (P.channel (P.start memory).sys).dropped = [] := by
      rw [start, P.channel_main]
      rfl
    rw [← hs]
    exact hrun.trans (and_iff_right hstart)
  have hstay : s.telemetry.advance total (P.channel s.sys) =
      (s.telemetry, P.channel s.sys) := by
    have htelemetry := congrArg Staged.telemetry hidle
    have hchannel := congrArg (fun s => P.channel s.sys) hidle
    simp only [Program.advance, if_true, P.channel_put] at htelemetry hchannel
    exact Prod.ext htelemetry hchannel
  obtain ⟨hsettle, hstop⟩ := hinv.placed.settle_of_idle hstay
  have hsound := hinv.sound
  rw [hsettle] at hsound
  rw [sent_settle] at hsent
  rw [← hclean]
  refine hsound.ends_iff htotal hsent ?_
  exact hstop.elim (fun hended => (hsound.ended hsent.le hended).2) id

end Program

/-! ## The two programs -/

/-- `hk_freertos.c`. -/
def pipelineProgram (w : World) (total : ℕ) : Program w total Pipeline Task where
  step := Pipeline.step w total
  telemetry := .telemetry
  channel := Pipeline.channel
  put p c := { p with channel := c }
  main := Pipeline.main
  Inv p := p.Inv w total
  channel_put _ _ := rfl
  put_channel _ := rfl
  put_put _ _ _ := rfl
  channel_main := rfl
  inv_main := runPipeline_inv w total []
  inv_step _ a h := h.step a
  sound _ h := h.sound
  receive _ := rfl
  beside p a h ha := by
    cases a with
    | telemetry => exact absurd rfl ha
    | sampler =>
        by_cases hrun : p.channel.ended = false ∧ p.frame < total
        · refine ⟨some (w.sample p.frame), fun _ => h.sent.trans_lt hrun.2, fun c hc => ?_⟩
          simp [Pipeline.step, Pipeline.vSamplerTask, Channel.offer, hc, hrun]
        · refine ⟨none, fun hx => absurd rfl hx, fun c hc => ?_⟩
          simp only [Pipeline.step, Pipeline.vSamplerTask, Channel.offer, hc, if_neg hrun]

/-- `hk_freertos_ipc.c`. -/
def ipcProgram (w : World) (total : ℕ) : Program w total Ipc IpcTask where
  step := Ipc.step w total
  telemetry := .telemetry
  channel := Ipc.channel
  put p c := { p with channel := c }
  main := Ipc.main w
  Inv p := p.Inv w total
  channel_put _ _ := rfl
  put_channel _ := rfl
  put_put _ _ _ := rfl
  channel_main := rfl
  inv_main := Ipc.inv_main w total
  inv_step _ a h := h.step a
  sound _ h := h.sound
  receive p := by
    cases hended : p.channel.ended <;>
      simp [Ipc.step, Ipc.vTelemetryTask, Channel.receive, hended]
  beside p a h ha := by
    by_cases hsend : a = .sampler ∧ p.channel.ended = false ∧ p.frame < total ∧
        p.sampler = .sending
    · obtain ⟨rfl, hended, hrun, hat⟩ := hsend
      have hsent : p.channel.sent.length = p.frame := (h.placed hat).1
      refine ⟨some ⟨p.s, p.frame, w.tick p.frame⟩, fun _ => hsent.trans_lt hrun, fun c hc => ?_⟩
      simp [Ipc.step, Ipc.vSamplerTask, Channel.offer, hc, hended, hrun, hat]
    · refine ⟨none, fun hx => absurd rfl hx, fun c hc => ?_⟩
      simp only [Channel.offer]
      cases hended : p.channel.ended with
      | true => simp [Ipc.step, hc, hended]
      | false =>
          cases a with
          | telemetry => exact absurd rfl ha
          | safeMode =>
              cases hsem : p.safeModeSem <;>
                simp [Ipc.step, Ipc.vSafeModeTask, hc, hended, hsem]
          | reporter =>
              cases hat : p.reporter with
              | taking =>
                  by_cases hfree : p.mutex = none <;>
                    simp [Ipc.step, Ipc.vReporterTask, hc, hended, hat, hfree]
              | printing | giving => simp [Ipc.step, Ipc.vReporterTask, hc, hended, hat]
          | sampler =>
              by_cases hrun : p.frame < total
              · cases hat : p.sampler with
                | sending => exact absurd ⟨rfl, hended, hrun, hat⟩ hsend
                | taking =>
                    by_cases hfree : p.mutex = none <;>
                      simp [Ipc.step, Ipc.vSamplerTask, hc, hended, hrun, hat, hfree]
                | sampling | counting | lowering | raising | giving | signalling =>
                    simp [Ipc.step, Ipc.vSamplerTask, hc, hended, hrun, hat]
              · simp [Ipc.step, hc, hended, hrun]

/-- **Whole iterations lose nothing.**  Both programs reach, statement by statement, the
states of `runPipeline` and `runIpc`; and where a statement leaves them in the middle of
an iteration, that settles to one of these states. -/
theorem statements_refine (w : World) {total : ℕ} (htotal : 0 < total) (memory : HkSample) :
    ((∀ plan, ∃ plan', (pipelineProgram w total).settle
          ((pipelineProgram w total).runStatements memory plan) = runPipeline w total plan') ∧
        ∀ plan', ∃ plan, ((pipelineProgram w total).runStatements memory plan).sys =
          runPipeline w total plan') ∧
      (∀ plan, ∃ plan', (ipcProgram w total).settle
          ((ipcProgram w total).runStatements memory plan) = runIpc w total plan') ∧
        ∀ plan', ∃ plan, ((ipcProgram w total).runStatements memory plan).sys =
          runIpc w total plan' :=
  ⟨⟨Program.runStatements_refines memory htotal, Program.runStatements_covers memory htotal⟩,
    Program.runStatements_refines memory htotal, Program.runStatements_covers memory htotal⟩

/-- **When the programs end, statement by statement.**  What is emitted has been sampled,
in order and once.  Where the sampler is done and a turn of the telemetry task changes
nothing, it has emitted its frames and left its loop exactly if each send found room. -/
theorem statements_end_iff (w : World) (memory : HkSample) :
    (∀ plan s, (pipelineProgram w totalFramesToRun).runStatements memory plan = s →
      s.sys.channel.Faithful w ∧ (s.sys.frame = totalFramesToRun →
        (pipelineProgram w totalFramesToRun).advance s .telemetry = s →
        (s.sys.channel.Finished totalFramesToRun ↔
          Schedule.Throughout (pipelineProgram w totalFramesToRun).advance
            (fun s t => s.sys.Room totalFramesToRun t)
            ((pipelineProgram w totalFramesToRun).start memory) plan))) ∧
      ∀ plan s, (ipcProgram w totalFramesToRun).runStatements memory plan = s →
        s.sys.channel.Faithful w ∧ (s.sys.frame = totalFramesToRun →
          (ipcProgram w totalFramesToRun).advance s .telemetry = s →
          (s.sys.channel.Finished totalFramesToRun ↔
            Schedule.Throughout (ipcProgram w totalFramesToRun).advance
              (fun s t => s.sys.Room totalFramesToRun t)
              ((ipcProgram w totalFramesToRun).start memory) plan)) := by
  have htotal : 0 < totalFramesToRun := by decide
  constructor
  · intro plan s hs
    have hinv : (pipelineProgram w totalFramesToRun).StagedInv s :=
      hs ▸ Program.runStatements_inv memory htotal plan
    refine ⟨hinv.placed.faithful hinv.sound, ?_⟩
    intro hdone hidle
    exact Program.runStatements_ends_iff (Pipeline.dropped_step w totalFramesToRun) memory htotal
      hs (hinv.inv.sent.trans hdone) hidle
  · intro plan s hs
    have hinv : (ipcProgram w totalFramesToRun).StagedInv s :=
      hs ▸ Program.runStatements_inv memory htotal plan
    refine ⟨hinv.placed.faithful hinv.sound, ?_⟩
    intro hdone hidle
    exact Program.runStatements_ends_iff (Ipc.dropped_step w totalFramesToRun) memory htotal
      hs (hinv.inv.sent_all hdone) hidle

end Rtos
end SpacecraftFsw
