import ActuatorBus.Line.Memory
import ActuatorBus.Proofs.Runs

/-!
# Lines in memory

What the operations of a line in memory come to, in terms of what they look at.
On a line that is not going to fail a discard empties the input, a write makes
the replies readable, and a read takes at least one byte or lets the deadline
pass.
-/

namespace ActuatorBus.MemoryLine

/-- The time after giving way to others. -/
def resumed (discipline : Discipline) (line : MemoryLine) : Double :=
  match discipline with
  | .blocking => line.clock
  | .suspending => line.clock.add .zero

/-! ## Writing -/

theorem discardInput_run (line : MemoryLine) :
    discardInput.run line =
      match line.failures.discard with
      | some error => ⟨.error (.device error), line, []⟩
      | none =>
        ⟨.ok (), { line with discards := line.discards + 1, input := [] },
          []⟩ := by
  cases failure : line.failures.discard <;>
    simp [discardInput, failure, Act.failOn]

theorem writeAll_run (discipline : Discipline) (bytes : Bytes)
    (line : MemoryLine) :
    (writeAll discipline bytes).run line =
      match line.failures.write with
      | some error =>
        ⟨.error (.device error),
          { line with clock := line.resumed discipline }, []⟩
      | none =>
        let answer := Motor.answers bytes line.motors
        ⟨answer.result.map fun _ => (),
          { line with
            clock := line.resumed discipline
            written := line.written ++ [bytes]
            input :=
              line.input ++ line.replies ++ answer.result.toOption.getD []
            replies := []
            motors := answer.state }, answer.notes⟩ := by
  cases failure : line.failures.write with
  | some error =>
      cases discipline <;>
        simp [writeAll, send, wait, failure, Act.failOn, resumed]
  | none =>
      rcases answers : Motor.answers bytes line.motors
        with ⟨_ | answer, motors, notes⟩ <;>
      cases discipline <;>
        simp [writeAll, send, wait, failure, Act.failOn, Motor.respondAll,
          answers, feed, resumed, Except.map, Except.toOption]

/-! ## Reading -/

/-- How many of the available bytes a read takes. -/
def readCount (chunkSize : Value) (available : Nat) : Except Fault Nat :=
  match chunkSize with
  | .nothing => .ok available
  | chunk => do
    if ← chunk.less (.integer available) then
      return (← chunk.needCount).toNat
    else return available

theorem readCount_limited {chunkSize : Value} {available : Nat} {n : Int}
    (limits : chunkSize ≠ .nothing) (isCount : chunkSize.needCount = .ok n)
    (isLess : chunkSize.less (.integer available) =
      .ok (decide (n < available))) :
    readCount chunkSize available =
      .ok (if n < available then n.toNat else available) := by
  have unfolded :
      readCount chunkSize available = (do
        if ← chunkSize.less (.integer available) then
          return (← chunkSize.needCount).toNat
        else return available) := by
    cases chunkSize <;> simp_all [readCount]
  rw [unfolded, isLess, isCount]
  by_cases less : n < available <;> simp [less]

theorem readCount_le {chunkSize : Value} {available count : Nat}
    (counted : readCount chunkSize available = .ok count) :
    count ≤ available := by
  have limited {n : Int} (limits : chunkSize ≠ .nothing)
      (isCount : chunkSize.needCount = .ok n)
      (isLess : chunkSize.less (.integer available) =
        .ok (decide (n < available))) : count ≤ available := by
    rw [readCount_limited limits isCount isLess] at counted
    have countEq := Except.ok.inj counted
    split at countEq <;> omega
  cases chunkSize with
  | number value =>
      cases value with
      | integer n =>
          exact limited (by simp) rfl rfl
      | real x =>
          cases less : Value.less (.real x) (.integer available) with
          | error fault => simp [readCount, less] at counted
          | ok answer =>
              cases answer
              · simp [readCount, less] at counted
                omega
              · simp [readCount, less, Value.needCount, Value.whole?]
                  at counted
  | flag value =>
      cases value <;>
        exact limited (by simp) rfl rfl
  | nothing =>
      simp only [readCount, Except.ok.injEq] at counted
      omega
  | words text => simp [readCount, Value.less, Value.less?] at counted
  | failure error => simp [readCount, Value.less, Value.less?] at counted
  | several items => simp [readCount, Value.less, Value.less?] at counted
  | record keys items =>
      simp [readCount, Value.less, Value.less?] at counted

theorem ofExcept_readCount (chunkSize : Value) (available : Nat) :
    (Act.ofExcept (readCount chunkSize available) : Act MemoryLine Nat) =
      (match chunkSize with
      | .nothing => pure available
      | chunk => do
        if ← Act.ofExcept (chunk.less (.integer available)) then
          pure (← Act.ofExcept chunk.needCount).toNat
        else pure available) := by
  have limited (chunk : Value) :
      (Act.ofExcept (do
        if ← chunk.less (.integer available) then
          return (← chunk.needCount).toNat
        else return available) : Act MemoryLine Nat) = (do
          if ← Act.ofExcept (chunk.less (.integer available)) then
            pure (← Act.ofExcept chunk.needCount).toNat
          else pure available) := by
    rw [Act.ofExcept_bind]
    congr 1
    funext less
    cases less with
    | false => rfl
    | true => exact Act.ofExcept_bind _ _
  cases chunkSize with
  | nothing => rfl
  | _ => exact limited _

theorem receive_eq (space : Nat) :
    receive space = (do
      let line ← Act.get
      let count ←
        Act.ofExcept (readCount line.chunkSize (min line.input.length space))
      Act.set { line with input := line.input.drop count }
      return line.input.take count) := by
  have limited (chunk : Value) (available : Nat)
      (next : Nat → Act MemoryLine Bytes) :
      (do
        if ← Act.ofExcept (chunk.less (.integer available)) then
          let count ← Act.ofExcept chunk.needCount
          next count.toNat
        else next available) = (do
          let count ← (do
            if ← Act.ofExcept (chunk.less (.integer available)) then
              pure (← Act.ofExcept chunk.needCount).toNat
            else pure available)
          next count) := by
    rw [bind_assoc]
    congr 1
    funext less
    cases less with
    | false => rfl
    | true => simp
  simp only [ofExcept_readCount]
  unfold receive
  congr 1
  funext line
  cases line.chunkSize with
  | nothing => rfl
  | _ =>
      simp only [pure_bind]
      symm
      exact (limited _ _ _).symm

theorem receive_run (space : Nat) (line : MemoryLine) :
    (receive space).run line =
      match readCount line.chunkSize (min line.input.length space) with
      | .ok count =>
        ⟨.ok (line.input.take count),
          { line with input := line.input.drop count }, []⟩
      | .error fault => ⟨.error fault, line, []⟩ := by
  rw [receive_eq, Act.run_bind, Act.run_get, Outcome.andThen_ok]
  cases readCount line.chunkSize (min line.input.length space) <;> rfl

/-- What a read looks at decides what it gives, when it is over, and what
remains readable. -/
def reading (discipline : Discipline) (space : Nat) (deadline : Double)
    (line : MemoryLine) : Except Fault Bytes × Double × Bytes :=
  match line.failures.read with
  | some error => (.error (.device error), line.clock, line.input)
  | none =>
    if line.input.isEmpty then
      let delay := deadline.sub line.clock
      (.error (.device .readTimedOut),
        if Double.zero.lt delay then line.clock.add delay else line.clock,
        line.input)
    else
      match readCount line.chunkSize (min line.input.length space) with
      | .ok count =>
        (.ok (line.input.take count), line.resumed discipline,
          line.input.drop count)
      | .error fault => (.error fault, line.resumed discipline, line.input)

theorem read_run (discipline : Discipline) (space : Nat)
    (deadline : Double) (line : MemoryLine) :
    (read discipline space deadline).run line =
      let (result, clock, input) := line.reading discipline space deadline
      ⟨result, { line with clock, input }, []⟩ := by
  cases failure : line.failures.read with
  | some error =>
      cases discipline <;>
        simp [read, readBlocking, readSuspending, reading, failure, Act.failOn]
  | none =>
      by_cases empty : line.input = []
      · have unread : { line with input := [] } = line := by
          rw [← empty]
        by_cases late : Double.zero.lt (deadline.sub line.clock) = true
        · cases discipline <;>
            simp [read, readBlocking, readSuspending, reading, failure,
              Act.failOn, empty, late, wait]
        · cases discipline <;>
            simp [read, readBlocking, readSuspending, reading, failure,
              Act.failOn, empty, late, unread]
      · cases counted :
            readCount line.chunkSize (min line.input.length space) <;>
          cases discipline <;>
          simp [read, readBlocking, readSuspending, reading, failure,
            Act.failOn, empty, receive_run, counted, resumed, wait]

/-- The most bytes that a read gives are not limited, or by a positive
number. -/
def Chunked (line : MemoryLine) : Prop :=
  line.chunkSize = .nothing ∨
    ∃ size : Int, 1 ≤ size ∧ line.chunkSize = .integer size

theorem readCount_chunked {line : MemoryLine} (chunked : line.Chunked)
    {available : Nat} (some : 0 < available) :
    ∃ count, 0 < count ∧
      readCount line.chunkSize available = .ok count := by
  rcases chunked with unlimited | ⟨size, positive, limited⟩
  · rw [unlimited]
    exact ⟨available, some, rfl⟩
  · have isCount : (Value.integer size).needCount = .ok size := rfl
    rw [limited, readCount_limited (by simp) isCount rfl]
    refine ⟨_, ?_, rfl⟩
    split <;> omega

theorem read_empty {line : MemoryLine} (discipline : Discipline)
    (space : Nat) (deadline : Double) (works : line.failures.read = none)
    (empty : line.input = []) :
    ∃ clock, (read discipline space deadline).run line =
      ⟨.error (.device .readTimedOut), { line with clock }, []⟩ := by
  refine ⟨(line.reading discipline space deadline).2.1, ?_⟩
  simp [read_run, reading, works, empty]

theorem read_ready {line : MemoryLine} (discipline : Discipline)
    {space : Nat} (deadline : Double) (works : line.failures.read = none)
    (chunked : line.Chunked) (nonempty : line.input ≠ [])
    (room : 0 < space) :
    ∃ count, 0 < count ∧ count ≤ space ∧
      (read discipline space deadline).run line =
        ⟨.ok (line.input.take count),
          { line with
            clock := line.resumed discipline
            input := line.input.drop count }, []⟩ := by
  have available : 0 < min line.input.length space :=
    Nat.lt_min.2 ⟨List.length_pos_iff.2 nonempty, room⟩
  obtain ⟨count, positive, counted⟩ := readCount_chunked chunked available
  have bound := readCount_le counted
  refine ⟨count, positive, by omega, ?_⟩
  simp [read_run, reading, works, nonempty, counted]

end ActuatorBus.MemoryLine
