import ActuatorBus.Proofs.Reader.Even
import ActuatorBus.Proofs.Reader.Ledger

/-!
# What old messages leave behind

The buffer of a reader is never cleared: behind the filled bytes it holds what
is left of older messages. Nothing that is asked of a reader brings these
bytes to light (`remnants_unobserved`), so that a reader is as good as new
after a reset.
-/

namespace ActuatorBus.Reader

/-- What is said to a call that did not stop. -/
inductive Answer where
  /-- So many bytes were copied. -/
  | copied (count : Int)
  | done
  /-- So much garbage was dropped. -/
  | dropped (count : Nat)
  | announced (size : Option Nat)
  | packet (bytes : Bytes)
  /-- There was no message to be taken. -/
  | nothing
deriving DecidableEq, Repr

/-- A call as an action on the reader. The message taken is the one that is
awaited. -/
def Call.act (awaited : Option Nat) : Call → Act Reader Answer
  | .feed bytes => .copied <$> Reader.feed bytes
  | .receive bytes => (fun _ => .done) <$> Reader.receive bytes
  | .store bytes => (fun _ => .done) <$> Reader.store bytes
  | .commit given => (fun _ => .done) <$> Reader.commit given
  | .dropGarbage => .dropped <$> Reader.dropGarbage
  | .poll => .announced <$> Reader.poll
  | .reset => (fun _ => .done) <$> Reader.reset
  | .take =>
    match awaited with
    | none => pure .nothing
    | some size => .packet <$> Reader.take size

theorem Even.act {past past' one two : Reader} (even : Even past past' one two)
    {awaited : Option Nat}
    (whole : ∀ size, awaited = some size →
      one.handedOut = 0 ∧ 0 < size ∧ size ≤ one.pending.length)
    {call : Call} (placed : ∀ given, call ≠ .commit given) :
    Outcome.Agree (Even past past') ((call.act awaited).run one)
      ((call.act awaited).run two) := by
  cases call with
  | feed bytes => exact Act.agree_map _ (even.feed bytes)
  | receive bytes => exact Act.agree_map _ (even.receive bytes)
  | store bytes => exact Act.agree_map _ (even.store bytes)
  | commit given => exact absurd rfl (placed given)
  | dropGarbage => exact Act.agree_map _ even.dropGarbage
  | poll => exact Act.agree_map _ even.poll
  | reset => exact Act.agree_map _ even.reset
  | take =>
      cases awaited with
      | none => exact Act.agree_pure _ even
      | some size =>
          obtain ⟨_, positive, buffered⟩ := whole size rfl
          rw [even.sound.length_pending] at buffered
          exact Act.agree_map _ (even.take positive (by omega))

namespace Ledger

/-- The answer to a call. -/
def answer (ledger : Ledger) (call : Call) : Except Fault Answer :=
  ((call.act ledger.awaited).run ledger.reader).result

/-- The answers to some calls. -/
def answers (ledger : Ledger) : List Call → List (Except Fault Answer)
  | [] => []
  | call :: rest => ledger.answer call :: (ledger.enter call).answers rest

variable {ledger : Ledger} {call : Call}

theorem enter_reader :
    (ledger.enter call).reader =
      ((call.act ledger.awaited).run ledger.reader).state := by
  cases call with
  | take =>
      cases awaitedEq : ledger.awaited with
      | none => simp only [enter, awaitedEq, Call.act, Act.run_pure]
      | some size =>
          simp only [enter, awaitedEq, post, Call.act, Act.run_map_state]
  | _ => simp only [enter, post, Call.act, Act.run_map_state]

/-- Two ledgers with readers that hold the same and await the same message. -/
structure Even (past past' : Reader) (one two : Ledger) : Prop where
  readers : Reader.Even past past' one.reader two.reader
  awaited_eq : one.awaited = two.awaited
  whole : one.Whole

variable {past past' : Reader} {one two : Ledger}

theorem Even.answer_enter (even : Even past past' one two)
    (placed : ∀ given, call ≠ .commit given) :
    one.answer call = two.answer call ∧
      Even past past' (one.enter call) (two.enter call) := by
  have agree := even.readers.act even.whole placed
  have awaitedEq := even.awaited_eq
  obtain ⟨resultEq, readers⟩ := agree
  refine ⟨?_, ?_, ?_, even.whole.enter even.readers.sound call⟩
  · rw [answer, answer, ← awaitedEq]
    exact resultEq
  · rw [enter_reader, enter_reader, ← awaitedEq]
    exact readers
  · cases call with
    | feed | receive | store | commit => exact awaitedEq
    | dropGarbage | reset => rfl
    | poll =>
        exact congrArg (fun result => result.toOption.join)
          even.readers.poll.result_eq
    | take =>
        cases awaitedOne : one.awaited with
        | none =>
            have awaitedTwo := awaitedEq.symm.trans awaitedOne
            simp only [Ledger.enter, awaitedOne, awaitedTwo]
        | some size =>
            have awaitedTwo := awaitedEq.symm.trans awaitedOne
            simp only [Ledger.enter, awaitedOne, awaitedTwo]

theorem Even.answers_run (even : Even past past' one two)
    (calls : List Call) (placed : ∀ given, Call.commit given ∉ calls) :
    one.answers calls = two.answers calls ∧
      Even past past' (one.run calls) (two.run calls) := by
  induction calls generalizing one two with
  | nil => exact ⟨rfl, even⟩
  | cons call rest restAnswers =>
      have placedFirst : ∀ given, call ≠ .commit given := by
        rintro given rfl
        exact placed given List.mem_cons_self
      have placedRest : ∀ given, Call.commit given ∉ rest :=
        fun given member => placed given (List.mem_cons_of_mem call member)
      obtain ⟨answerEq, next⟩ := even.answer_enter placedFirst
      obtain ⟨answersEq, last⟩ := restAnswers next placedRest
      refine ⟨?_, last⟩
      rw [answers, answers, answerEq, answersEq]

end Ledger

open Ledger in
/-- Whatever is asked of two readers, their answers are the same, they hold the
same after it, and they skip as many bytes for it. No more bytes are counted
than were placed before. -/
def BehaveAlike (one two : Reader) : Prop :=
  ∀ calls : List Call, (∀ given, Call.commit given ∉ calls) →
    (fresh one).answers calls = (fresh two).answers calls ∧
      Even one two ((fresh one).run calls).reader
        ((fresh two).run calls).reader

open Ledger in
theorem Alike.behave {one two : Reader} (alike : one.Alike two)
    (sound : one.Sound) : BehaveAlike one two := by
  intro calls placed
  have even : Ledger.Even one two (fresh one) (fresh two) := by
    exact ⟨even_start alike sound, rfl, whole_of_none rfl⟩
  obtain ⟨answersEq, last⟩ := even.answers_run calls placed
  exact ⟨answersEq, last.readers⟩

/-- A reader that was reset holds the same as a new one. -/
theorem reset_alike {one new : Reader} {size : Value}
    (opened : ofSize size = .ok new) (capacityEq : new.capacity = one.capacity) :
    (reset.run one).state.Alike new := by
  obtain ⟨room, _, rfl⟩ := ofSize_eq opened
  exact ⟨capacityEq.symm, rfl, rfl, rfl⟩

/-- What lies behind the filled bytes of a reader, and how many bytes it
skipped before, has no influence on anything that is asked of it. After a reset
it behaves like a new one of the same size. -/
theorem remnants_unobserved {one two : Reader} (sound : one.Sound)
    (alike : one.Alike two) :
    BehaveAlike one two ∧
      ∀ size new, ofSize size = .ok new → new.capacity = one.capacity →
        BehaveAlike (reset.run one).state new := by
  refine ⟨alike.behave sound, ?_⟩
  intro size new opened capacityEq
  exact (reset_alike opened capacityEq).behave (reset_reaches one).sound

open Ledger in
/-- Behind half a header lies the rest of an old message, which would make it
whole. -/
theorem remnants_unobserved_of_old_message :
    let one : Reader := ⟨[0xFF, 0xFF, 1, 2, 0, 0xFC, 0xFF], 1, 0, 5⟩
    let two : Reader := ⟨[0xFF, 0, 0, 0, 0, 0, 0], 1, 0, 0⟩
    let new : Reader := ⟨List.replicate 7 0, 0, 0, 0⟩
    let calls : List Call :=
      [.poll, .feed [0xFF, 2], .poll, .receive [2, 0, 0xFB], .poll, .take,
        .reset, .poll]
    let answers : List (Except Fault Answer) :=
      [.ok (.announced none), .ok (.copied 2), .ok (.announced none),
        .ok .done, .ok (.announced (some 6)),
        .ok (.packet [0xFF, 0xFF, 2, 2, 0]), .ok .done,
        .ok (.announced none)]
    one.Sound ∧ one.Alike two ∧ (fresh one).answers calls = answers ∧
      (fresh two).answers calls = answers ∧
      ((fresh one).run calls).reader.skipped = 5 ∧
      ofSize (.integer 7) = .ok new ∧
      (fresh (reset.run one).state).answers calls =
        (fresh new).answers calls := by
  intro one two new calls answers
  have sound : one.Sound := ⟨by decide, by decide⟩
  have alike : one.Alike two := ⟨rfl, rfl, rfl, rfl⟩
  have placed : ∀ given, Call.commit given ∉ calls := by
    simp [calls]
  obtain ⟨behave, renewed⟩ := remnants_unobserved sound alike
  obtain ⟨answersEq, even⟩ := behave calls placed
  have answersTwo : (fresh two).answers calls = answers := by
    decide +kernel
  have opened : ofSize (.integer 7) = .ok new := rfl
  obtain ⟨answersNew, _⟩ := renewed (.integer 7) new opened rfl calls placed
  refine ⟨sound, alike, answersEq.trans answersTwo, answersTwo, ?_, opened,
    answersNew⟩
  decide +kernel

end ActuatorBus.Reader
