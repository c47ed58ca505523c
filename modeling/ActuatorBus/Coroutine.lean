import ActuatorBus.Line.Link

/-!
# Coroutines

A coroutine works on a state like an action, but it gives control back
whenever it needs its line for a call that takes time. It goes on with the
result of the call, be it a fault, in the state that it finds then. Between two
calls nothing else happens.

Carried to its end with a way to serve its calls, a coroutine is an action.
The laws say which one.
-/

namespace ActuatorBus

/-- A call of a line that takes time. -/
inductive LineCall where
  | writeAll (packet : Bytes)
  | read (space : Nat) (deadline : Double)
deriving DecidableEq, Repr

/-- What a call gives. -/
@[reducible] def LineCall.Answer : LineCall → Type
  | writeAll _ => Unit
  | read _ _ => Bytes

/-- How far a coroutine came. It has ended, or it waits for a call. -/
inductive Resumption (σ α : Type) where
  | ended (outcome : Outcome σ α)
  | waiting (call : LineCall) (state : σ) (notes : List Note)
    (resume : Except Fault call.Answer → σ → Resumption σ α)

namespace Resumption

variable {σ α β : Type}

/-- Puts earlier notes before those that were left. -/
def after (earlier : List Note) : Resumption σ α → Resumption σ α
  | ended outcome =>
    ended { outcome with notes := earlier ++ outcome.notes }
  | waiting call state notes resume =>
    waiting call state (earlier ++ notes) resume

/-- Goes on from the end unless there was a fault. -/
def andThen (next : α → σ → Resumption σ β) : Resumption σ α → Resumption σ β
  | ended ⟨.ok value, state, notes⟩ => (next value state).after notes
  | ended ⟨.error fault, state, notes⟩ => ended ⟨.error fault, state, notes⟩
  | waiting call state notes resume =>
    waiting call state notes fun result state =>
      (resume result state).andThen next

def mapFault (change : Fault → Fault) : Resumption σ α → Resumption σ α
  | ended outcome =>
    ended { outcome with result := outcome.result.mapError change }
  | waiting call state notes resume =>
    waiting call state notes fun result state =>
      (resume result state).mapFault change

/-- Serves one call after the other until the end. The notes are collected
newest first, so that the recursion needs no stack. -/
private def completeFrom
    (serve : (call : LineCall) → Act σ call.Answer) (collected : List Note) :
    Resumption σ α → Outcome σ α
  | ended outcome =>
    { outcome with notes := (outcome.notes.reverse ++ collected).reverse }
  | waiting call state notes resume =>
    let served := (serve call).run state
    completeFrom serve
      (served.notes.reverse ++ (notes.reverse ++ collected))
      (resume served.result served.state)

/-- What the coroutine comes to if its calls are served. -/
def complete (serve : (call : LineCall) → Act σ call.Answer)
    (resumption : Resumption σ α) : Outcome σ α :=
  completeFrom serve [] resumption

end Resumption

/-- A program on a state of type `σ` with a value of type `α` that waits for
calls of a line. -/
structure Coroutine (σ α : Type) where
  /-- How far the coroutine comes from a state. -/
  start : σ → Resumption σ α

namespace Coroutine

variable {σ α β : Type}

@[inline] protected def pure (value : α) : Coroutine σ α where
  start state := .ended ⟨.ok value, state, []⟩

/-- Goes on with `next` unless the first coroutine stops. -/
@[inline] protected def bind (first : Coroutine σ α)
    (next : α → Coroutine σ β) : Coroutine σ β where
  start state := (first.start state).andThen fun value => (next value).start

instance : Monad (Coroutine σ) where
  pure := Coroutine.pure
  bind := Coroutine.bind

/-- Does what waits for nothing. -/
@[inline] def act (action : Act σ α) : Coroutine σ α where
  start state := .ended (action.run state)

/-- Waits for a call. -/
@[inline] def await (call : LineCall) : Coroutine σ call.Answer where
  start state :=
    .waiting call state [] fun result state => .ended ⟨result, state, []⟩

/-- Waits until bytes are written. -/
def awaitWrite (packet : Bytes) : Coroutine σ Unit :=
  await (.writeAll packet)

/-- Waits for bytes. -/
def awaitRead (space : Nat) (deadline : Double) : Coroutine σ Bytes :=
  await (.read space deadline)

/-- Puts another fault in the place of some faults, those of calls
included. -/
@[inline] def mapFault (change : Fault → Fault) (coroutine : Coroutine σ α) :
    Coroutine σ α where
  start state := (coroutine.start state).mapFault change

/-- Repeats a step until it gives a value, and stops as stalled if it has not
done so after `patience` times. -/
def untilSome : (patience : Nat) → Coroutine σ (Option α) → Coroutine σ α
  | 0, _ => act (.fail .stalled)
  | patience + 1, step => do
    match ← step with
    | some value => return value
    | none => untilSome patience step

/-- The action that carries a coroutine to its end and serves its calls. -/
def complete (serve : (call : LineCall) → Act σ call.Answer)
    (coroutine : Coroutine σ α) : Act σ α where
  run state := (coroutine.start state).complete serve

end Coroutine

/-! ## Laws -/

section

variable {σ α β : Type} (serve : (call : LineCall) → Act σ call.Answer)

namespace Resumption

private theorem completeFrom_collected (collected : List Note)
    (resumption : Resumption σ α) :
    completeFrom serve collected resumption =
      { resumption.complete serve with
        notes := collected.reverse ++ (resumption.complete serve).notes } := by
  unfold complete
  induction resumption generalizing collected with
  | ended outcome => simp [completeFrom]
  | waiting call state notes resume collectedFirst =>
      simp only [completeFrom]
      rw [collectedFirst, collectedFirst _ _ (_ ++ (_ ++ []))]
      simp

theorem complete_ended (outcome : Outcome σ α) :
    (ended outcome).complete serve = outcome := by
  simp [complete, completeFrom]

/-- A call is served, and the coroutine goes on with its result. -/
theorem complete_waiting (call : LineCall) (state : σ) (notes : List Note)
    (resume : Except Fault call.Answer → σ → Resumption σ α) :
    let served := (serve call).run state
    let rest := (resume served.result served.state).complete serve
    (waiting call state notes resume).complete serve =
      { rest with notes := notes ++ (served.notes ++ rest.notes) } := by
  intro served rest
  show completeFrom serve [] (waiting call state notes resume) = _
  rw [completeFrom, completeFrom_collected]
  simp [served, rest]

theorem complete_after (earlier : List Note) (resumption : Resumption σ α) :
    (resumption.after earlier).complete serve =
      { resumption.complete serve with
        notes := earlier ++ (resumption.complete serve).notes } := by
  cases resumption with
  | ended outcome => simp [after, complete_ended]
  | waiting call state notes resume =>
      simp [after, complete_waiting]

theorem complete_andThen (next : α → σ → Resumption σ β)
    (resumption : Resumption σ α) :
    (resumption.andThen next).complete serve =
      (resumption.complete serve).andThen fun value state =>
        (next value state).complete serve := by
  induction resumption with
  | ended outcome =>
      rcases outcome with ⟨fault | value, state, notes⟩
      · simp [andThen, complete_ended]
      · simp [andThen, complete_ended, complete_after]
  | waiting call state notes resume resumed =>
      simp only [andThen, complete_waiting, resumed]
      rcases (resume _ _).complete serve with ⟨_ | _, final, more⟩ <;>
        simp

theorem complete_mapFault (change : Fault → Fault)
    (resumption : Resumption σ α) :
    (resumption.mapFault change).complete serve =
      { resumption.complete serve with
        result := (resumption.complete serve).result.mapError change } := by
  induction resumption with
  | ended outcome => simp [mapFault, complete_ended]
  | waiting call state notes resume resumed =>
      simp only [mapFault, complete_waiting, resumed]

end Resumption

namespace Coroutine

@[simp] theorem complete_pure (value : α) :
    (pure value : Coroutine σ α).complete serve = pure value := by
  ext state : 2
  exact Resumption.complete_ended serve _

@[simp] theorem complete_act (action : Act σ α) :
    (act action).complete serve = action := by
  ext state : 2
  exact Resumption.complete_ended serve _

theorem complete_await (call : LineCall) :
    (await call).complete serve = serve call := by
  ext state : 2
  simp [complete, await, Resumption.complete_waiting,
    Resumption.complete_ended]

@[simp] theorem complete_awaitWrite (packet : Bytes) :
    (awaitWrite packet).complete serve = serve (.writeAll packet) :=
  complete_await serve (.writeAll packet)

@[simp] theorem complete_awaitRead (space : Nat) (deadline : Double) :
    (awaitRead space deadline).complete serve =
      serve (.read space deadline) :=
  complete_await serve (.read space deadline)

@[simp] theorem complete_bind (first : Coroutine σ α)
    (next : α → Coroutine σ β) :
    (first >>= next).complete serve =
      first.complete serve >>= fun value => (next value).complete serve := by
  ext state : 2
  exact Resumption.complete_andThen serve _ _

@[simp] theorem complete_mapFault (change : Fault → Fault)
    (coroutine : Coroutine σ α) :
    (coroutine.mapFault change).complete serve =
      Act.mapFault change (coroutine.complete serve) := by
  ext state : 2
  exact Resumption.complete_mapFault serve change _

@[simp] theorem complete_untilSome (patience : Nat)
    (step : Coroutine σ (Option α)) :
    (untilSome patience step).complete serve =
      Act.untilSome patience (step.complete serve) := by
  induction patience with
  | zero => exact complete_act serve _
  | succ patience repetitions =>
      rw [untilSome, complete_bind, Act.untilSome_succ]
      congr 1
      funext found
      cases found with
      | none => exact repetitions
      | some value => exact complete_pure serve value

end Coroutine

end

end ActuatorBus
