import ActuatorBus.Act
import ActuatorBus.Proofs.Results
import Mathlib.Data.List.Forall2

/-!
# Runs of actions

Laws for taking runs of actions apart, for what all runs of an action keep, and
for comparing two runs: they agree if they give the same result and leave
related states.
-/

namespace ActuatorBus

variable {σ τ α β : Type}

namespace Act

@[simp] theorem ofExcept_ok (value : α) :
    (ofExcept (.ok value) : Act σ α) = pure value := rfl

theorem ofExcept_bind (first : Except Fault α)
    (next : α → Except Fault β) :
    (ofExcept (first >>= next) : Act σ β) =
      ofExcept first >>= fun value => ofExcept (next value) := by
  cases first with
  | error fault => rfl
  | ok value => rfl

theorem ofExcept_map (change : α → β) (result : Except Fault α) :
    (ofExcept (result.map change) : Act σ β) = change <$> ofExcept result := by
  cases result with
  | error fault => rfl
  | ok value => rfl

/-- What gives a value goes through a value of its first action. -/
theorem run_bind_eq_ok {first : Act σ α} {next : α → Act σ β} {state : σ}
    {value : β} (gives : ((first >>= next).run state).result = .ok value) :
    ∃ middle, (first.run state).result = .ok middle ∧
      ((next middle).run (first.run state).state).result = .ok value ∧
      ((first >>= next).run state).state =
        ((next middle).run (first.run state).state).state := by
  rw [run_bind] at gives ⊢
  generalize first.run state = outcome at gives ⊢
  rcases outcome with ⟨_ | middle, reached, notes⟩
  · cases gives
  · exact ⟨middle, rfl, gives, rfl⟩

/-- What follows an action adds to its notes. -/
theorem run_bind_notes {first : Act σ α} (next : α → Act σ β)
    (state : σ) :
    ∃ more, ((first >>= next).run state).notes =
      (first.run state).notes ++ more := by
  rw [run_bind]
  rcases first.run state with ⟨_ | value, middle, notes⟩
  · exact ⟨[], (List.append_nil notes).symm⟩
  · exact ⟨_, rfl⟩

theorem run_map_state (change : α → β) (action : Act σ α) (state : σ) :
    ((change <$> action).run state).state = (action.run state).state := by
  rw [run_map]
  rcases action.run state with ⟨_ | value, reached, notes⟩ <;> rfl

/-! ## What actions keep -/

/-- An action leads from states with a property to such states, whatever its
result is. -/
def Keeps (property : σ → Prop) (action : Act σ α) : Prop :=
  ∀ state, property state → property (action.run state).state

variable {property : σ → Prop}

theorem keeps_pure (value : α) :
    Keeps property (pure value : Act σ α) :=
  fun _ holds => holds

theorem keeps_ofExcept (result : Except Fault α) :
    Keeps property (ofExcept result : Act σ α) :=
  fun _ holds => holds

theorem keeps_note (entry : Note) : Keeps property (note entry : Act σ Unit) :=
  fun _ holds => holds

theorem keeps_get : Keeps property (get : Act σ σ) :=
  fun _ holds => holds

/-- What follows a run that led to a state with a property. -/
theorem run_bind_keeps {first : Act σ α} {next : α → Act σ β} {state : σ}
    (reached : property (first.run state).state)
    (nextKeeps : ∀ value, Keeps property (next value)) :
    property ((first >>= next).run state).state := by
  rw [run_bind]
  generalize first.run state = outcome at reached
  rcases outcome with ⟨_ | value, middle, notes⟩
  · exact reached
  · exact nextKeeps value middle reached

theorem Keeps.bind {first : Act σ α} {next : α → Act σ β}
    (firstKeeps : Keeps property first)
    (nextKeeps : ∀ value, Keeps property (next value)) :
    Keeps property (first >>= next) := by
  intro state holds
  exact run_bind_keeps (firstKeeps state holds) nextKeeps

theorem Keeps.mapFault {action : Act σ α} (change : Fault → Fault)
    (keeps : Keeps property action) :
    Keeps property (Act.mapFault change action) :=
  keeps

theorem Keeps.untilSome {step : Act σ (Option α)}
    (keeps : Keeps property step) (patience : Nat) :
    Keeps property (Act.untilSome patience step) := by
  induction patience with
  | zero => exact fun _ holds => holds
  | succ patience repetitionsKeep =>
      rw [untilSome_succ]
      apply keeps.bind
      intro found
      cases found with
      | none => exact repetitionsKeep
      | some value => exact keeps_pure value

end Act

/-- Two outcomes have the same result and related states. -/
structure Outcome.Agree (related : σ → τ → Prop) (first : Outcome σ α)
    (second : Outcome τ α) : Prop where
  result_eq : first.result = second.result
  related : related first.state second.state

namespace Act

variable {related : σ → τ → Prop} {one : σ} {two : τ}

theorem agree_pure (value : α) (start : related one two) :
    Outcome.Agree related ((pure value : Act σ α).run one)
      ((pure value : Act τ α).run two) :=
  ⟨rfl, start⟩

theorem agree_ofExcept (result : Except Fault α) (start : related one two) :
    Outcome.Agree related ((ofExcept result).run one)
      ((ofExcept result).run two) :=
  ⟨rfl, start⟩

theorem agree_get {next : σ → Act σ α} {last : τ → Act τ α}
    (agree : Outcome.Agree related ((next one).run one)
      ((last two).run two)) :
    Outcome.Agree related ((get >>= next).run one)
      ((get >>= last).run two) :=
  ⟨agree.result_eq, agree.related⟩

/-- What follows actions that agree need only agree where they gave a
value. -/
theorem agree_bind {first : Act σ α} {second : Act τ α}
    {next : α → Act σ β} {last : α → Act τ β}
    (firsts : Outcome.Agree related (first.run one) (second.run two))
    (nexts : ∀ value, (first.run one).result = .ok value →
      related (first.run one).state (second.run two).state →
      Outcome.Agree related ((next value).run (first.run one).state)
        ((last value).run (second.run two).state)) :
    Outcome.Agree related ((first >>= next).run one)
      ((second >>= last).run two) := by
  obtain ⟨resultEq, states⟩ := firsts
  rw [run_bind, run_bind]
  generalize first.run one = outcome at *
  generalize second.run two = outcome' at *
  rcases outcome with ⟨result, state, notes⟩
  rcases outcome' with ⟨result', state', notes'⟩
  cases resultEq
  cases result with
  | error fault => exact ⟨rfl, states⟩
  | ok value =>
      obtain ⟨nextEq, nextStates⟩ := nexts value rfl states
      exact ⟨nextEq, nextStates⟩

theorem agree_map (change : α → β) {first : Act σ α} {second : Act τ α}
    (agree : Outcome.Agree related (first.run one) (second.run two)) :
    Outcome.Agree related ((change <$> first).run one)
      ((change <$> second).run two) := by
  rw [map_eq_pure_bind, map_eq_pure_bind]
  apply agree_bind agree
  intro value _ states
  exact agree_pure (change value) states

theorem agree_attempt {first : Act σ α} {second : Act τ α}
    (agree : Outcome.Agree related (first.run one) (second.run two)) :
    Outcome.Agree related (first.attempt.run one) (second.attempt.run two) :=
  ⟨congrArg Except.ok agree.result_eq, agree.related⟩

theorem agree_mapFault (change : Fault → Fault) {first : Act σ α}
    {second : Act τ α}
    (agree : Outcome.Agree related (first.run one) (second.run two)) :
    Outcome.Agree related ((mapFault change first).run one)
      ((mapFault change second).run two) :=
  ⟨congrArg (Except.mapError change) agree.result_eq, agree.related⟩

/-- Actions for the items of a list agree if those for each item do. -/
theorem agree_mapM {ι : Type} {first : ι → Act σ α} {second : ι → Act τ α}
    (items : List ι)
    (steps : ∀ item ∈ items, ∀ one two, related one two →
      Outcome.Agree related ((first item).run one) ((second item).run two)) :
    ∀ one two, related one two →
      Outcome.Agree related ((items.mapM first).run one)
        ((items.mapM second).run two) := by
  induction items with
  | nil => exact fun one two start => agree_pure [] start
  | cons item rest restAgree =>
      intro one two start
      rw [List.mapM_cons, List.mapM_cons]
      apply agree_bind (steps item List.mem_cons_self one two start)
      intro value _ states
      apply agree_bind
      · apply restAgree _ _ _ states
        exact fun other member => steps other (List.mem_cons_of_mem item member)
      · intro values _ states
        exact agree_pure (value :: values) states

/-- Repetitions agree if their steps do. -/
theorem agree_untilSome {first : Act σ (Option α)}
    {second : Act τ (Option α)}
    (steps : ∀ one two, related one two →
      Outcome.Agree related (first.run one) (second.run two))
    (patience : Nat) :
    ∀ one two, related one two →
      Outcome.Agree related ((untilSome patience first).run one)
        ((untilSome patience second).run two) := by
  induction patience with
  | zero =>
      intro one two start
      exact ⟨rfl, start⟩
  | succ patience repetitions =>
      intro one two start
      rw [untilSome_succ, untilSome_succ]
      apply agree_bind (steps one two start)
      intro found _ states
      cases found with
      | some value => exact ⟨rfl, states⟩
      | none => exact repetitions _ _ states

/-! ## The turns of a repetition -/

/-- A turn is the last one, or it is followed by others. -/
theorem ends_or_again (step : Act σ (Option α)) (start : σ) :
    (∃ (result : Except Fault α) (next : σ) (notes : List Note),
      step.run start = ⟨result.map some, next, notes⟩) ∨
    ∃ (next : σ) (notes : List Note),
      step.run start = ⟨.ok none, next, notes⟩ := by
  rcases step.run start with ⟨fault | _ | value, next, notes⟩
  · exact Or.inl ⟨.error fault, next, notes, rfl⟩
  · exact Or.inr ⟨next, notes, rfl⟩
  · exact Or.inl ⟨.ok value, next, notes, rfl⟩

/-- The last turn. -/
theorem untilSome_of_ends {step : Act σ (Option α)} {start next : σ}
    {notes : List Note} (result : Except Fault α)
    (ran : step.run start = ⟨result.map some, next, notes⟩)
    (patience : Nat) :
    (untilSome (patience + 1) step).run start = ⟨result, next, notes⟩ := by
  rw [untilSome_succ, run_bind, ran]
  cases result with
  | error fault => rfl
  | ok value => simp [Except.map]

/-- A turn that is followed by others. -/
theorem untilSome_of_again {step : Act σ (Option α)} {start next : σ}
    {notes : List Note} (ran : step.run start = ⟨.ok none, next, notes⟩)
    (patience : Nat) :
    (untilSome (patience + 1) step).run start =
      ⟨((untilSome patience step).run next).result,
        ((untilSome patience step).run next).state,
        notes ++ ((untilSome patience step).run next).notes⟩ := by
  rw [untilSome_succ, run_bind, ran]
  rfl

/-- The states in which a turn begins when a step is repeated until it gives a
value. -/
inductive Turns (step : Act σ (Option α)) (start : σ) : σ → Prop where
  | first : Turns step start start
  | next {state : σ} (before : Turns step start state)
    (nothing : (step.run state).result = .ok none) :
    Turns step start (step.run state).state

theorem Turns.after_first {step : Act σ (Option α)} {start state : σ}
    (nothing : (step.run start).result = .ok none)
    (turns : Turns step (step.run start).state state) :
    Turns step start state := by
  induction turns with
  | first => exact .next .first nothing
  | next before empty inductionHypothesis =>
      exact .next inductionHypothesis empty

theorem Keeps.turns {property : σ → Prop} {step : Act σ (Option α)}
    (keeps : Keeps property step) {start state : σ} (holds : property start)
    (turns : Turns step start state) : property state := by
  induction turns with
  | first => exact holds
  | next before nothing inductionHypothesis =>
      exact keeps _ inductionHypothesis

/-- A repetition ends with what its last turn gives, or is stalled. -/
theorem untilSome_turns (step : Act σ (Option α)) (patience : Nat) :
    ∀ start, ∃ last, Turns step start last ∧
      (((untilSome patience step).run start).result = .error .stalled ∨
        (step.run last).result =
          ((untilSome patience step).run start).result.map some) := by
  induction patience with
  | zero => exact fun start => ⟨start, .first, Or.inl rfl⟩
  | succ patience repetitions =>
      intro start
      rcases ends_or_again step start with
        ⟨result, next, notes, ran⟩ | ⟨next, notes, ran⟩
      · refine ⟨start, .first, Or.inr ?_⟩
        rw [untilSome_of_ends result ran, ran]
      · obtain ⟨last, turns, ends⟩ := repetitions next
        have nothing : (step.run start).result = .ok none := by rw [ran]
        have nextEq : (step.run start).state = next := by rw [ran]
        rw [untilSome_of_again ran]
        exact ⟨last, .after_first nothing (nextEq ▸ turns), ends⟩

/-- A repetition that ended comes to the same with more patience. -/
theorem untilSome_of_le {step : Act σ (Option α)} {enough more : Nat}
    (le : enough ≤ more) {start : σ}
    (ended : ((untilSome enough step).run start).result ≠
      .error .stalled) :
    (untilSome more step).run start = (untilSome enough step).run start := by
  induction enough generalizing more start with
  | zero => exact absurd rfl ended
  | succ enough repetitions =>
      obtain ⟨more, rfl⟩ : ∃ fewer, more = fewer + 1 :=
        ⟨more - 1, by omega⟩
      rcases ends_or_again step start with
        ⟨result, next, notes, ran⟩ | ⟨next, notes, ran⟩
      · rw [untilSome_of_ends result ran, untilSome_of_ends result ran]
      · rw [untilSome_of_again ran] at ended
        rw [untilSome_of_again ran, untilSome_of_again ran,
          repetitions (Nat.le_of_succ_le_succ le) ended]

/-- What follows a repetition can as well be done in its last turn. -/
theorem untilSome_bind (patience : Nat) (step : Act σ (Option α))
    (last : α → Act σ β) :
    untilSome patience step >>= last =
      untilSome patience (step >>= Option.mapM last) := by
  induction patience with
  | zero =>
      ext state : 2
      rfl
  | succ patience repetitions =>
      rw [untilSome_succ, untilSome_succ, bind_assoc, bind_assoc]
      congr 1
      funext found
      cases found with
      | none => simpa using repetitions
      | some value => simp

theorem Turns.bind {step : Act σ (Option α)} {start turn : σ}
    (turns : Turns step start turn) (last : α → Act σ β) :
    Turns (step >>= Option.mapM last) start turn := by
  induction turns with
  | first => exact .first
  | @next state before nothing inductionHypothesis =>
      rcases ran : step.run state with ⟨result, following, notes⟩
      rw [ran] at nothing
      cases nothing
      have run : (step >>= Option.mapM last).run state =
          ⟨.ok none, following, notes⟩ := by
        simp [ran]
      have turns := Turns.next inductionHypothesis (congrArg _ run)
      rwa [run] at turns

/-! ## Repetitions without end -/

/-- What a step that is repeated until it gives a value comes to, if nothing
limits how often. There is an outcome only if the repetitions end. -/
inductive Repeats (step : Act σ (Option α)) : σ → Outcome σ α → Prop where
  | ends {start next : σ} {result : Except Fault α} {notes : List Note}
    (ran : step.run start = ⟨result.map some, next, notes⟩) :
    Repeats step start ⟨result, next, notes⟩
  | again {start next : σ} {outcome : Outcome σ α} {notes : List Note}
    (ran : step.run start = ⟨.ok none, next, notes⟩)
    (rest : Repeats step next outcome) :
    Repeats step start
      ⟨outcome.result, outcome.state, notes ++ outcome.notes⟩

/-- A limit that is not reached makes no difference. -/
theorem repeats_untilSome {step : Act σ (Option α)} {patience : Nat}
    {start : σ}
    (ended : ((untilSome patience step).run start).result ≠
      .error .stalled) :
    Repeats step start ((untilSome patience step).run start) := by
  induction patience generalizing start with
  | zero => exact absurd rfl ended
  | succ patience repetitions =>
      rcases ends_or_again step start with
        ⟨result, next, notes, ran⟩ | ⟨next, notes, ran⟩
      · rw [untilSome_of_ends result ran]
        exact .ends ran
      · rw [untilSome_of_again ran] at ended ⊢
        exact .again ran (repetitions ended)

/-- If a repetition ends where the last turn does more, it ends where that is
done after it. -/
theorem repeats_of_bind {step : Act σ (Option α)} {last : α → Act σ β}
    {patience : Nat} {start : σ}
    (ended : ((untilSome patience (step >>= Option.mapM last)).run
      start).result ≠ .error .stalled) :
    ∃ found, Repeats step start found ∧
      (untilSome patience (step >>= Option.mapM last)).run start =
        found.andThen fun value => (last value).run := by
  rw [← untilSome_bind, run_bind] at ended ⊢
  refine ⟨_, repeats_untilSome ?_, rfl⟩
  intro stalled
  apply ended
  rcases ran : (untilSome patience step).run start with ⟨result, final, notes⟩
  rw [ran] at stalled
  cases stalled
  rfl

/-- The states in which a turn begins after a number of turns without a
value. -/
inductive Fruitless (step : Act σ (Option α)) : Nat → σ → σ → Prop where
  | none {start : σ} : Fruitless step 0 start start
  | again {count : Nat} {start next last : σ} {notes : List Note}
    (ran : step.run start = ⟨.ok none, next, notes⟩)
    (rest : Fruitless step count next last) :
    Fruitless step (count + 1) start last

/-- A limit only cuts off a repetition that goes on longer. -/
theorem repeats_or_fruitless (step : Act σ (Option α)) (patience : Nat)
    (start : σ) :
    let outcome := (untilSome patience step).run start
    Repeats step start outcome ∨
      outcome.result = .error .stalled ∧
        Fruitless step patience start outcome.state := by
  induction patience generalizing start with
  | zero => exact Or.inr ⟨rfl, .none⟩
  | succ patience repetitions =>
      intro outcome
      rcases ends_or_again step start with
        ⟨result, next, notes, ran⟩ | ⟨next, notes, ran⟩
      · have outcomeEq : outcome = _ := untilSome_of_ends result ran patience
        rw [outcomeEq]
        exact Or.inl (.ends ran)
      · have outcomeEq : outcome = _ := untilSome_of_again ran patience
        rw [outcomeEq]
        rcases repetitions next with rest | ⟨stalled, rest⟩
        · exact Or.inl (.again ran rest)
        · exact Or.inr ⟨stalled, .again ran rest⟩

/-! ## One action after the other -/

/-- What each of several actions comes to, one after the other, whether the
ones before it stopped or not. -/
def transcript : List (Act σ α) → σ → List (Outcome σ α)
  | [], _ => []
  | action :: rest, state =>
    action.run state :: transcript rest (action.run state).state

theorem length_transcript (actions : List (Act σ α)) :
    ∀ state, (Act.transcript actions state).length = actions.length := by
  induction actions with
  | nil => exact fun _ => rfl
  | cons action rest lengthEq =>
      exact fun state => congrArg (· + 1) (lengthEq _)

theorem agree_transcript {ι : Type} {first : ι → Act σ α}
    {second : ι → Act τ α}
    (steps : ∀ item one two, related one two →
      Outcome.Agree related ((first item).run one) ((second item).run two))
    (items : List ι) :
    ∀ one two, related one two →
      List.Forall₂ (Outcome.Agree related)
        (transcript (items.map first) one)
        (transcript (items.map second) two) := by
  induction items with
  | nil => exact fun one two _ => .nil
  | cons item rest restAgree =>
      intro one two start
      have agree := steps item one two start
      exact .cons agree (restAgree _ _ agree.related)

end Act

end ActuatorBus
