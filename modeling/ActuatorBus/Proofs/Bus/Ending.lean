import ActuatorBus.Line.Serial
import ActuatorBus.Proofs.Bus.ReadLoop
import ActuatorBus.Proofs.Bus.Suspending
import ActuatorBus.Proofs.Reader.FirstMessage

/-!
# The end of a reception

Reading a packet from a line in memory comes to an end, though nothing limits
how often the loop is repeated: a read takes a byte from the line, or it is the
last one (`readPacket_ends`). The line itself counts how often it is read. The
loop of a suspending bus ends with the size of a message, which is taken after
it.

On other lines the loop may go on for ever. There the patience of the link cuts
it off, and that is all it does (`readPacket_repeats_or_stalls`).
-/

namespace ActuatorBus

/-! ## Counting reads -/

/-- A line with the number of reads so far. -/
structure Counted (σ : Type) where
  line : σ
  reads : Nat
deriving DecidableEq, Repr

/-- An action on a line that is not a read. -/
def Counted.lift {σ α : Type} (action : Act σ α) : Act (Counted σ) α :=
  Act.on Counted.line (fun line counted => { counted with line }) action

/-- A link that counts its reads. -/
def Link.counted {σ : Type} (link : Link σ) : Link (Counted σ) where
  now counted := link.now counted.line
  baudRate counted := link.baudRate counted.line
  setBaudRate rate counted :=
    { counted with line := link.setBaudRate rate counted.line }
  discardInput := Counted.lift link.discardInput
  writeAll bytes := Counted.lift (link.writeAll bytes)
  read space deadline := do
    Act.modify fun counted => { counted with reads := counted.reads + 1 }
    Counted.lift (link.read space deadline)
  close := Counted.lift link.close
  patience counted := link.patience counted.line

/-- A bus after a number of reads. -/
def Bus.withReads {σ : Type} (bus : Bus σ) (reads : Nat) : Bus (Counted σ) :=
  { bus with line := ⟨bus.line, reads⟩ }

/-- An outcome after a number of reads. -/
def Outcome.withReads {σ α : Type} (outcome : Outcome (Bus σ) α)
    (reads : Nat) : Outcome (Bus (Counted σ)) α :=
  ⟨outcome.result, outcome.state.withReads reads, outcome.notes⟩

theorem Outcome.result_withReads {σ α : Type} (outcome : Outcome (Bus σ) α)
    (reads : Nat) : (outcome.withReads reads).result = outcome.result := rfl

namespace Bus

/-- A step reads at most once, and it does not matter whether that is
counted. -/
theorem readStep_counted {σ : Type} (link : Link σ) (deadline : Double)
    (bus : Bus σ) (reads : Nat) :
    ∃ total, total ≤ reads + 1 ∧
      (readStep link.counted deadline).run (bus.withReads reads) =
        ((readStep link deadline).run bus).withReads total := by
  rcases polled : Reader.poll.run bus.reader with
    ⟨fault | _ | size, reader, notes⟩
  · refine ⟨reads, Nat.le_succ reads, ?_⟩
    simp [readStep, onReader, withReads, polled, Outcome.withReads]
  · refine ⟨reads + 1, Nat.le_refl _, ?_⟩
    rcases asked : (link.read reader.unfilled deadline).run bus.line with
      ⟨fault | bytes, line, more⟩
    · simp [readStep, onReader, onLine, withReads, polled, asked,
        Outcome.withReads, Link.counted, Counted.lift]
    · rcases received : (Reader.receive bytes).run reader with
        ⟨_ | _, final, last⟩ <;>
      simp [readStep, onReader, onLine, withReads, polled, asked, received,
        Outcome.withReads, Link.counted, Counted.lift]
  · refine ⟨reads, Nat.le_succ reads, ?_⟩
    rcases taken : (Reader.take size).run reader with ⟨_ | _, final, last⟩ <;>
      simp [readStep, onReader, withReads, polled, taken, Outcome.withReads]

/-! ## A step -/

/-- What comes of reading a packet from a line in memory that is going to have
a failure, or none. -/
inductive Ends (failure : Option DeviceError) :
    Except Fault Bytes → Prop where
  /-- A packet, or a message with a bad checksum. -/
  | checked {result : Except Fault Bytes} (checked : Checked result) :
    Ends failure result
  | tooSmall (required capacity : Nat) (large : capacity < required) :
    Ends failure (.error (.bufferTooSmall required capacity))
  /-- There were no bytes before the deadline. -/
  | late : Ends failure (.error (.line .deadline .readTimedOut))
  | timeout {error : DeviceError} (fails : failure = some error)
    (kind : error.kind = .timeout) :
    Ends failure (.error (.line .deadline error))
  | system {error : DeviceError} (fails : failure = some error)
    (kind : error.kind = .system) :
    Ends failure (.error (.line .read error))
  | internal {error : DeviceError} (fails : failure = some error)
    (kind : error.kind = .internal) :
    Ends failure (.error (.device error))

theorem Ends.ne_stalled {failure : Option DeviceError}
    {result : Except Fault Bytes} (ending : Ends failure result) :
    result ≠ .error .stalled := by
  rintro rfl
  cases ending with
  | checked checked => cases checked

/-- The failure of a line, as a bus reports it. -/
theorem ends_failure {failure : Option DeviceError} {error : DeviceError}
    (fails : failure = some error) :
    Ends failure (.error (atStage readStage (.device error))) := by
  cases kind : error.kind with
  | system =>
      have staged : atStage readStage (.device error) = .line .read error := by
        simp [atStage, readStage, DeviceError.concernsLine,
          DeviceError.isTimeout, kind]
      rw [staged]
      exact .system fails kind
  | timeout =>
      have staged :
          atStage readStage (.device error) = .line .deadline error := by
        simp [atStage, readStage, DeviceError.concernsLine,
          DeviceError.isTimeout, kind]
      rw [staged]
      exact .timeout fails kind
  | internal =>
      have staged : atStage readStage (.device error) = .device error := by
        simp [atStage, DeviceError.concernsLine, kind]
      rw [staged]
      exact .internal fails kind

variable {bus : Bus MemoryLine} (discipline : Discipline) (deadline : Double)

theorem readStep_fails (sound : bus.reader.Sound) {error : DeviceError}
    (fails : bus.line.failures.read = some error)
    (incomplete : Stream.announced bus.reader.capacity bus.live = .ok none) :
    ((readStep (MemoryLine.link discipline) deadline).run bus).result =
      .error (atStage readStage (.device error)) := by
  obtain ⟨reader, notes, _, run⟩ := poll_polled sound
  rw [incomplete] at run
  have reads :
      (MemoryLine.read discipline reader.unfilled deadline).run bus.line =
        ⟨.error (.device error), bus.line, []⟩ := by
    simp [MemoryLine.read_run, MemoryLine.reading, fails]
  simp [readStep, onReader, onLine, run, MemoryLine.link, reads]

/-- A step is the last one, or it takes a byte from the line. -/
theorem readStep_progress (sound : bus.reader.Sound)
    (room : Packet.headerSize ≤ bus.reader.capacity)
    (chunked : bus.line.Chunked) :
    (∃ result, Ends bus.line.failures.read result ∧
        ((readStep (MemoryLine.link discipline) deadline).run bus).result =
          result.map some) ∨
      ∃ final notes, Held bus final ∧
        final.line.input.length < bus.line.input.length ∧
        (readStep (MemoryLine.link discipline) deadline).run bus =
          ⟨.ok none, final, notes⟩ := by
  have atFront : Stream.start bus.live = 0 := Stream.start_drop_start _
  rcases Stream.announced_cases room atFront with
    ⟨answer, _, more⟩ | ⟨size, _, complete⟩ | ⟨required, _, tooLarge⟩
  · cases fails : bus.line.failures.read with
    | some error =>
        have stepEq := readStep_fails discipline deadline sound fails
          answer
        exact Or.inl ⟨_, ends_failure rfl, stepEq⟩
    | none =>
        by_cases empty : bus.line.input = []
        · obtain ⟨final, notes, _, _, run⟩ := readStep_misses discipline
            deadline sound fails answer empty
          exact Or.inl ⟨_, .late, congrArg Outcome.result run⟩
        · obtain ⟨final, notes, count, positive, held, _, inputEq, run⟩ :=
            readStep_goes_on discipline deadline sound fails chunked
              answer more empty
          refine Or.inr ⟨final, notes, held, ?_, run⟩
          have some : 0 < bus.line.input.length :=
            List.length_pos_iff.2 empty
          rw [inputEq, List.length_drop]
          omega
  · obtain ⟨final, notes, _, _, run⟩ := readStep_takes discipline deadline
      sound complete
    exact Or.inl ⟨_, .checked (checked_outcome complete),
      congrArg Outcome.result run⟩
  · obtain ⟨final, notes, _, _, run⟩ := readStep_refuses discipline deadline
      sound tooLarge
    exact Or.inl ⟨_, .tooSmall required _ tooLarge.large,
      congrArg Outcome.result run⟩

/-! ## The loop -/

theorem held_refl (sound : bus.reader.Sound) : Held bus bus :=
  ⟨⟨bus.line.clock, bus.line.input, rfl⟩, rfl, sound, rfl, rfl, rfl⟩

section

variable {final : Bus MemoryLine} (held : Held bus final)
include held

theorem Held.failures_eq : final.line.failures = bus.line.failures := by
  obtain ⟨clock, input, lineEq⟩ := held.line_eq
  rw [lineEq]

theorem Held.chunked (chunked : bus.line.Chunked) : final.line.Chunked := by
  obtain ⟨clock, input, lineEq⟩ := held.line_eq
  rw [lineEq]
  exact chunked

end

theorem held_of_turns (sound : bus.reader.Sound)
    (room : Packet.headerSize ≤ bus.reader.capacity)
    (chunked : bus.line.Chunked) {turn : Bus MemoryLine}
    (turns : Act.Turns (readStep (MemoryLine.link discipline) deadline) bus
      turn) : Held bus turn := by
  induction turns with
  | first => exact held_refl sound
  | @next state before nothing held =>
      rcases readStep_progress discipline deadline held.sound
          (held.capacity_eq ▸ room) (held.chunked chunked) with
        ⟨result, _, ends⟩ | ⟨final, notes, heldNext, _, run⟩
      · rw [nothing] at ends
        cases result <;> cases ends
      · rw [run]
        exact held.trans heldNext

/-- Every step that goes on takes a byte, so that there are no more reads than
bytes, and one. -/
theorem untilSome_ends (steps : Nat) :
    ∀ {bus : Bus MemoryLine}, bus.reader.Sound →
      Packet.headerSize ≤ bus.reader.capacity → bus.line.Chunked →
      bus.line.input.length < steps → ∀ reads,
      let link := MemoryLine.link discipline
      let outcome := (Act.untilSome steps (readStep link deadline)).run bus
      Ends bus.line.failures.read outcome.result ∧
        ∃ total, total ≤ reads + bus.line.input.length + 1 ∧
          (Act.untilSome steps (readStep link.counted deadline)).run
              (bus.withReads reads) = outcome.withReads total := by
  induction steps with
  | zero =>
      intro bus _ _ _ enough
      exact absurd enough (Nat.not_lt_zero _)
  | succ steps stepsEnd =>
      intro bus sound room chunked enough reads link
      obtain ⟨total, once, countedStep⟩ :=
        readStep_counted link deadline bus reads
      rcases readStep_progress discipline deadline sound room chunked with
        ⟨result, ending, ends⟩ | ⟨middle, notes, held, less, goesOn⟩
      · rcases ran : (readStep link deadline).run bus with
          ⟨stepResult, last, notes⟩
        rw [ran] at ends countedStep
        simp only at ends
        subst ends
        rw [Act.untilSome_of_ends result ran,
          Act.untilSome_of_ends result countedStep]
        exact ⟨ending, total, by omega, rfl⟩
      · -- This step read once and took a byte, so that the bound is kept.
        rw [goesOn] at countedStep
        rw [Act.untilSome_of_again goesOn,
          Act.untilSome_of_again countedStep]
        obtain ⟨ending, final, few, countedRest⟩ :=
          stepsEnd held.sound (held.capacity_eq ▸ room)
            (held.chunked chunked) (by omega) total
        rw [held.failures_eq] at ending
        refine ⟨ending, final, by omega, ?_⟩
        rw [countedRest]
        rfl

end Bus

namespace AsyncBus

/-- What reading a packet comes to on a suspending bus, if nothing limits how
often it looks for a message: the looks end, each of them with a poll that
ends, and the message that was found is taken. -/
structure Receives {σ : Type} (link : Link σ) (deadline : Double)
    (bus : Bus σ) (outcome : Outcome (Bus σ) Bytes) : Prop where
  looks : ∃ found,
    Act.Repeats ((awaitMessage deadline).complete link.serve) bus found ∧
      outcome = found.andThen fun size =>
        (Bus.onReader (Reader.take size)).run
  polls (turn : Bus σ)
    (turns : Act.Turns ((awaitMessage deadline).complete link.serve) bus
      turn) :
    Act.Repeats Reader.look turn.reader (Reader.poll.run turn.reader)

end AsyncBus

namespace Bus

/-- Whatever a line in memory holds, however many bytes it gives at a time and
whether it fails, and whatever the reader of the bus holds and the deadline
is, reading a packet ends without a limit to the repetitions, whether the bus
blocks or suspends. There are at most as many reads as bytes on the line, and
one, and every poll ends. What comes of it is a packet, a bad checksum, a
message that there is no room for, a deadline that passed, or the failure of the
line. (A reader has room for a header, or it could not be made.) -/
theorem readPacket_ends {bus : Bus MemoryLine} (sound : bus.reader.Sound)
    (room : Packet.headerSize ≤ bus.reader.capacity)
    (chunked : bus.line.Chunked) (discipline : Discipline)
    (deadline : Double) :
    let link := MemoryLine.link discipline
    let outcome := (discipline.readPacket link deadline).run bus
    Act.Repeats (readStep link deadline) bus outcome ∧
      AsyncBus.Receives link deadline bus outcome ∧
      Ends bus.line.failures.read outcome.result ∧
      (∃ reads, reads ≤ bus.line.input.length + 1 ∧
        (discipline.readPacket link.counted deadline).run (bus.withReads 0) =
          outcome.withReads reads) ∧
      ∀ turn, Act.Turns (readStep link deadline) bus turn →
        Act.Repeats Reader.look turn.reader
          (Reader.poll.run turn.reader) := by
  intro link outcome
  have outcomeEq : outcome = (readPacket link deadline).run bus := by
    simp only [outcome, Discipline.readPacket_eq]
  obtain ⟨ending, reads, few, counting⟩ :=
    untilSome_ends discipline deadline (bus.line.input.length + 2) sound
      room chunked (by omega) 0
  have polls : ∀ turn, Act.Turns (readStep link deadline) bus turn →
      Act.Repeats Reader.look turn.reader (Reader.poll.run turn.reader) := by
    intro turn turns
    have held := held_of_turns discipline deadline sound room chunked turns
    exact Reader.poll_repeats held.sound
  rw [Discipline.readPacket_eq, outcomeEq]
  refine ⟨Act.repeats_untilSome ending.ne_stalled, ⟨?_, ?_⟩, ending,
    ⟨reads, by omega, counting⟩, polls⟩
  · have ended := ending.ne_stalled
    rw [← AsyncBus.awaitMessage_complete] at ended
    obtain ⟨found, looks, foundEq⟩ := Act.repeats_of_bind ended
    rw [AsyncBus.awaitMessage_complete] at foundEq
    exact ⟨found, looks, foundEq⟩
  · intro turn turns
    have further := turns.bind fun size => Bus.onReader (Reader.take size)
    rw [AsyncBus.awaitMessage_complete] at further
    exact polls turn further

/-- A line that gives single bytes is read once for each of them, and once
more: then the deadline passes. -/
theorem readPacket_ends_of_single_bytes :
    let bus : Bus MemoryLine :=
      { line :=
          { MemoryLine.create (.integer 115200) (.integer 1) [] with
            input := [0xFF, 1, 2] }
        reader := ⟨[0, 7, 0xFF, 0, 0, 0], 3, 1, 0⟩
        writeBuffer := List.replicate 8 0
        baudRate := .integer 115200
        timeoutMargin := .real .zero }
    let link := MemoryLine.link .suspending
    let reading (bus : Bus MemoryLine) :=
      (Discipline.suspending.readPacket link .zero).run bus
    let counting :=
      (Discipline.suspending.readPacket link.counted .zero).run
        (bus.withReads 0)
    bus.reader.Sound ∧ Packet.headerSize ≤ bus.reader.capacity ∧
      bus.line.Chunked ∧
      AsyncBus.Receives link .zero bus (reading bus) ∧
      Ends none counting.result ∧
      counting.result = .error (.line .deadline .readTimedOut) ∧
      counting.state.line.reads = 4 := by
  intro bus link reading counting
  have sound : bus.reader.Sound := ⟨by decide, by decide⟩
  have room : Packet.headerSize ≤ bus.reader.capacity := by decide
  have chunked : bus.line.Chunked := Or.inr ⟨1, Int.le_refl 1, rfl⟩
  obtain ⟨_, receives, ending, ⟨reads, _, counted⟩, _⟩ :=
    readPacket_ends sound room chunked .suspending .zero
  refine ⟨sound, room, chunked, receives, ?_, ?_, ?_⟩
  · simp only [counting]
    rw [counted, Outcome.result_withReads]
    exact ending
  · decide +kernel
  · decide +kernel

/-! ## The limit -/

/-- What reading a packet comes to is what the loop comes to if nothing limits
how often it is repeated, unless there were as many turns without a packet as
the link has patience for, and one. -/
theorem readPacket_repeats_or_stalls {σ : Type} (link : Link σ)
    (discipline : Discipline) (deadline : Double) (bus : Bus σ) :
    let outcome := (discipline.readPacket link deadline).run bus
    Act.Repeats (readStep link deadline) bus outcome ∨
      outcome.result = .error .stalled ∧
        Act.Fruitless (readStep link deadline) (link.patience bus.line + 1)
          bus outcome.state := by
  intro outcome
  have outcomeEq : outcome = (readPacket link deadline).run bus := by
    simp only [outcome, Discipline.readPacket_eq]
  rw [outcomeEq]
  exact Act.repeats_or_fruitless (readStep link deadline)
    (link.patience bus.line + 1) bus

/-- On a serial line the limit is reached after 16777217 turns. -/
theorem readPacket_repeats_or_stalls_serial (discipline : Discipline)
    (deadline : Double) (bus : Bus SerialLine) :
    let link := SerialLine.link discipline
    let outcome := (discipline.readPacket link deadline).run bus
    Act.Repeats (readStep link deadline) bus outcome ∨
      outcome.result = .error .stalled ∧
        Act.Fruitless (readStep link deadline) 16777217 bus outcome.state :=
  readPacket_repeats_or_stalls (SerialLine.link discipline) discipline
    deadline bus

end Bus

end ActuatorBus
