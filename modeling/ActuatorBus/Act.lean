import ActuatorBus.Fault
import ActuatorBus.Note

/-!
# Actions

An action works on a state. It gives a value or stops with a fault; in both
cases the state keeps what was done, and the notes it left are returned in
order. Results and states do not depend on notes, unless the log is written
out.

The laws say what each action comes to from a state; with them the simplifier
computes a run.
-/

namespace ActuatorBus

/-- What an action comes to. -/
structure Outcome (σ α : Type) where
  result : Except Fault α
  state : σ
  notes : List Note

namespace Outcome

variable {σ α β : Type}

/-- Goes on from the state reached unless there was a fault, and keeps the
notes. -/
@[inline] def andThen (outcome : Outcome σ α) (next : α → σ → Outcome σ β) :
    Outcome σ β :=
  match outcome with
  | ⟨.ok value, state, notes⟩ =>
    let rest := next value state
    ⟨rest.result, rest.state, notes ++ rest.notes⟩
  | ⟨.error fault, state, notes⟩ => ⟨.error fault, state, notes⟩

/-- The outcome where the log is written out. The first note that cannot be
put into words stops the action. Only the last note before an action ends can
be such a note, so that the state is the same as without a log. -/
def written (outcome : Outcome σ α) : Outcome σ α :=
  match Note.unwritable? outcome.notes with
  | some (notes, fault) => ⟨.error fault, outcome.state, notes⟩
  | none => outcome

@[simp] theorem andThen_ok (value : α) (state : σ) (notes : List Note)
    (next : α → σ → Outcome σ β) :
    (Outcome.mk (.ok value) state notes).andThen next =
      ⟨(next value state).result, (next value state).state,
        notes ++ (next value state).notes⟩ := rfl

@[simp] theorem andThen_error (fault : Fault) (state : σ)
    (notes : List Note) (next : α → σ → Outcome σ β) :
    (Outcome.mk (.error fault) state notes).andThen next =
      ⟨.error fault, state, notes⟩ := rfl

end Outcome

/-- An action on a state of type `σ` with a value of type `α`. -/
@[ext] structure Act (σ α : Type) where
  /-- What the action comes to from a state. -/
  run : σ → Outcome σ α

namespace Act

variable {σ τ α β : Type}

@[inline] protected def pure (value : α) : Act σ α where
  run state := ⟨.ok value, state, []⟩

/-- Goes on with `next` unless the first action stops. -/
@[inline] protected def bind (first : Act σ α) (next : α → Act σ β) :
    Act σ β where
  run state := (first.run state).andThen fun value => (next value).run

instance : Monad (Act σ) where
  pure := Act.pure
  bind := Act.bind

@[inline] def fail (fault : Fault) : Act σ α where
  run state := ⟨.error fault, state, []⟩

@[inline] def get : Act σ σ where
  run state := ⟨.ok state, state, []⟩

@[inline] def modify (change : σ → σ) : Act σ Unit where
  run state := ⟨.ok (), change state, []⟩

@[inline] def set (state : σ) : Act σ Unit := modify fun _ => state

@[inline] def note (entry : Note) : Act σ Unit where
  run state := ⟨.ok (), state, [entry]⟩

/-- Gives a value that was computed without a state, or stops with its
fault. -/
@[inline] def ofExcept (result : Except Fault α) : Act σ α where
  run state := ⟨result, state, []⟩

@[inline] def require (condition : Bool) (fault : Fault) : Act σ Unit :=
  if condition then pure () else fail fault

@[inline] def on (part : σ → τ) (replace : τ → σ → σ) (action : Act τ α) :
    Act σ α where
  run state :=
    let outcome := action.run (part state)
    ⟨outcome.result, replace outcome.state state, outcome.notes⟩

/-- Puts another fault in the place of some faults. -/
@[inline] def mapFault (change : Fault → Fault) (action : Act σ α) :
    Act σ α where
  run state :=
    let outcome := action.run state
    ⟨outcome.result.mapError change, outcome.state, outcome.notes⟩

/-- Gives the result of an action as a value, so that a fault does not stop
what follows. -/
@[inline] def attempt (action : Act σ α) : Act σ (Except Fault α) where
  run state :=
    let outcome := action.run state
    ⟨.ok outcome.result, outcome.state, outcome.notes⟩

/-- Runs a step until it gives a value, at most `patience` times. The notes
are collected newest first, so that the recursion needs no stack. -/
private def untilSomeFrom (step : Act σ (Option α)) :
    (patience : Nat) → List Note → σ → Outcome σ α
  | 0, collected, state => ⟨.error .stalled, state, collected.reverse⟩
  | patience + 1, collected, state =>
    match step.run state with
    | ⟨.ok (some value), next, notes⟩ =>
      ⟨.ok value, next, (notes.reverse ++ collected).reverse⟩
    | ⟨.ok none, next, notes⟩ =>
      untilSomeFrom step patience (notes.reverse ++ collected) next
    | ⟨.error fault, next, notes⟩ =>
      ⟨.error fault, next, (notes.reverse ++ collected).reverse⟩

/-- Runs a step until it gives a value, and stops as stalled if it has not
done so after `patience` runs. -/
def untilSome (patience : Nat) (step : Act σ (Option α)) : Act σ α where
  run state := untilSomeFrom step patience [] state

/-! ## Laws -/

@[simp] theorem run_pure (value : α) (state : σ) :
    (pure value : Act σ α).run state = ⟨.ok value, state, []⟩ := rfl

@[simp] theorem run_fail (fault : Fault) (state : σ) :
    (fail fault : Act σ α).run state = ⟨.error fault, state, []⟩ := rfl

@[simp] theorem run_get (state : σ) :
    (get : Act σ σ).run state = ⟨.ok state, state, []⟩ := rfl

@[simp] theorem run_modify (change : σ → σ) (state : σ) :
    (modify change).run state = ⟨.ok (), change state, []⟩ := rfl

@[simp] theorem run_set (state old : σ) :
    (set state).run old = ⟨.ok (), state, []⟩ := rfl

@[simp] theorem run_note (entry : Note) (state : σ) :
    (note entry).run state = ⟨.ok (), state, [entry]⟩ := rfl

@[simp] theorem run_ofExcept (result : Except Fault α) (state : σ) :
    (ofExcept result).run state = ⟨result, state, []⟩ := rfl

@[simp] theorem require_true (fault : Fault) :
    (require true fault : Act σ Unit) = pure () := rfl

@[simp] theorem require_false (fault : Fault) :
    (require false fault : Act σ Unit) = fail fault := rfl

@[simp] theorem run_on (part : σ → τ) (replace : τ → σ → σ)
    (action : Act τ α) (state : σ) :
    (on part replace action).run state =
      ⟨(action.run (part state)).result,
        replace (action.run (part state)).state state,
        (action.run (part state)).notes⟩ := rfl

@[simp] theorem run_mapFault (change : Fault → Fault) (action : Act σ α)
    (state : σ) :
    (mapFault change action).run state =
      ⟨(action.run state).result.mapError change, (action.run state).state,
        (action.run state).notes⟩ := rfl

@[simp] theorem run_attempt (action : Act σ α) (state : σ) :
    action.attempt.run state =
      ⟨.ok (action.run state).result, (action.run state).state,
        (action.run state).notes⟩ := rfl

/-- How two actions follow each other: a fault ends the run. -/
@[simp] theorem run_bind (first : Act σ α) (next : α → Act σ β)
    (state : σ) :
    (first >>= next).run state =
      (first.run state).andThen fun value => (next value).run := rfl

@[simp] theorem run_map (change : α → β) (action : Act σ α) (state : σ) :
    (change <$> action).run state =
      (action.run state).andThen fun value next =>
        ⟨.ok (change value), next, []⟩ := rfl

instance : LawfulMonad (Act σ) :=
  LawfulMonad.mk' (Act σ)
    (by
      intro α action
      ext state : 2
      rcases outcome : action.run state with ⟨_ | _, next, notes⟩ <;>
        simp [outcome])
    (by
      intro α β value next
      ext state : 2
      simp)
    (by
      intro α β γ action next last
      ext state : 2
      rcases outcome : action.run state with ⟨_ | value, middle, notes⟩
      · simp [outcome]
      · rcases inner : (next value).run middle with ⟨_ | _, final, more⟩ <;>
          simp [outcome, inner])

private theorem untilSomeFrom_collected (step : Act σ (Option α))
    (patience : Nat) (collected : List Note) (state : σ) :
    untilSomeFrom step patience collected state =
      ⟨(untilSomeFrom step patience [] state).result,
        (untilSomeFrom step patience [] state).state,
        collected.reverse ++
          (untilSomeFrom step patience [] state).notes⟩ := by
  induction patience generalizing collected state with
  | zero => simp [untilSomeFrom]
  | succ patience collectedFirst =>
      unfold untilSomeFrom
      rcases step.run state with ⟨_ | _ | value, next, notes⟩
      · simp
      · simp only [List.append_nil]
        rw [collectedFirst (notes.reverse ++ collected),
          collectedFirst notes.reverse]
        simp
      · simp

@[simp] theorem untilSome_zero (step : Act σ (Option α)) :
    untilSome 0 step = fail .stalled := rfl

/-- A value ends the repetition, no value goes on with it. -/
theorem untilSome_succ (patience : Nat) (step : Act σ (Option α)) :
    untilSome (patience + 1) step =
      step >>= fun found =>
        match found with
        | some value => pure value
        | none => untilSome patience step := by
  ext state : 2
  show untilSomeFrom step (patience + 1) [] state = _
  unfold untilSomeFrom
  rw [run_bind]
  rcases step.run state with ⟨_ | _ | value, next, notes⟩
  · simp
  · simp only [List.append_nil, Outcome.andThen_ok]
    rw [untilSomeFrom_collected]
    simp [untilSome]
  · simp

end Act

end ActuatorBus
