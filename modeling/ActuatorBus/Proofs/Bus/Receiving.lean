import ActuatorBus.Bus.Exchange
import ActuatorBus.Proofs.Line.Memory
import ActuatorBus.Proofs.Reader.Poll

/-!
# Receiving

A bus over a line in memory reads until there is an event. `readPacket_follows`
says that the first event of what is pending and what is readable decides what
comes of it, and what is left, whatever the chunks are in which the line gives
its bytes.
-/

namespace ActuatorBus.Bus

open ActuatorBus.Stream (announced firstEvent Event)

/-- What receiving leaves as it is. -/
structure Held (bus final : Bus MemoryLine) : Prop where
  line_eq : ∃ clock input, final.line = { bus.line with clock, input }
  capacity_eq : final.reader.capacity = bus.reader.capacity
  sound : final.reader.Sound
  writeBuffer_eq : final.writeBuffer = bus.writeBuffer
  baudRate_eq : final.baudRate = bus.baudRate
  timeoutMargin_eq : final.timeoutMargin = bus.timeoutMargin

theorem Held.trans {first second third : Bus MemoryLine}
    (early : Held first second) (late : Held second third) :
    Held first third := by
  obtain ⟨_, _, earlyLine⟩ := early.line_eq
  obtain ⟨clock, input, lateLine⟩ := late.line_eq
  constructor
  · exact ⟨clock, input, by rw [lateLine, earlyLine]⟩
  · exact late.capacity_eq.trans early.capacity_eq
  · exact late.sound
  · exact late.writeBuffer_eq.trans early.writeBuffer_eq
  · exact late.baudRate_eq.trans early.baudRate_eq
  · exact late.timeoutMargin_eq.trans early.timeoutMargin_eq

/-- What a bus can still receive: what is pending, and then what is
readable. -/
def incoming (bus : Bus MemoryLine) : Bytes :=
  bus.reader.pending ++ bus.line.input

/-- A bus met the first event of what it can receive. -/
structure Consumed (bus final : Bus MemoryLine) : Prop where
  incoming_eq :
    final.incoming = Stream.remainder bus.reader.capacity bus.incoming
  skipped_eq :
    final.reader.skipped = bus.reader.skipped + Stream.start bus.incoming

/-! ## Looking for a message -/

section

variable {σ : Type} {bus : Bus σ}

/-- The bytes from the first place on at which a message may begin. -/
def live (bus : Bus σ) : Bytes :=
  bus.reader.pending.drop (Stream.start bus.reader.pending)

/-- The reader of a bus looked for a message. -/
structure Polled (bus : Bus σ) (reader : Reader) : Prop where
  sound : reader.Sound
  capacity_eq : reader.capacity = bus.reader.capacity
  filled_eq : reader.filled = bus.live
  handedOut_eq : reader.handedOut = 0
  skipped_eq :
    reader.skipped = bus.reader.skipped + Stream.start bus.reader.pending

theorem poll_polled (sound : bus.reader.Sound) :
    ∃ reader notes, Polled bus reader ∧
      Reader.poll.run bus.reader =
        ⟨announced bus.reader.capacity bus.live, reader, notes⟩ := by
  have polls := Reader.poll_reaches sound
  rcases polled : Reader.poll.run bus.reader with ⟨result, reader, notes⟩
  rw [polled] at polls
  obtain ⟨resultEq, windowEq, soundNext⟩ := polls
  simp only at resultEq
  subst resultEq
  exact ⟨reader, notes,
    ⟨soundNext, congrArg Reader.Window.capacity windowEq,
      congrArg Reader.Window.filled windowEq,
      congrArg Reader.Window.handedOut windowEq,
      congrArg Reader.Window.skipped windowEq⟩, rfl⟩

/-- A whole message among the live bytes can be handed out. -/
theorem Polled.buffered {reader : Reader} {size : Nat}
    (polled : Polled bus reader) (whole : size ≤ bus.live.length) :
    reader.handedOut + size ≤ reader.fillLevel := by
  rw [polled.handedOut_eq, ← polled.sound.length_filled, polled.filled_eq]
  omega

end

/-! ## Reading -/

variable {bus : Bus MemoryLine} (discipline : Discipline) (deadline : Double)

theorem Polled.held {reader : Reader} (polled : Polled bus reader)
    (clock : Double) (input : Bytes) :
    Held bus { bus with reader, line := { bus.line with clock, input } } :=
  ⟨⟨clock, input, rfl⟩, polled.capacity_eq, polled.sound, rfl, rfl, rfl⟩

/-- A bus looked for a message, and maybe read from its line. -/
structure Looked (bus middle : Bus MemoryLine) : Prop where
  capacity_eq : middle.reader.capacity = bus.reader.capacity
  incoming_eq : middle.incoming = bus.live ++ bus.line.input
  skipped_eq :
    middle.reader.skipped =
      bus.reader.skipped + Stream.start bus.reader.pending

theorem Polled.pending_eq {reader : Reader} (polled : Polled bus reader) :
    reader.pending = bus.live := by
  rw [Reader.pending_eq, Reader.Window.pending, ← polled.filled_eq]
  exact congrArg (List.drop · _) polled.handedOut_eq

theorem Polled.looked {reader : Reader} (polled : Polled bus reader) :
    Looked bus { bus with reader } :=
  ⟨polled.capacity_eq, congrArg (· ++ bus.line.input) polled.pending_eq,
    polled.skipped_eq⟩

theorem Looked.consumed {middle final : Bus MemoryLine}
    (looked : Looked bus middle) (consumed : Consumed middle final) :
    Consumed bus final := by
  constructor
  · rw [consumed.incoming_eq, looked.incoming_eq, looked.capacity_eq,
      incoming, Stream.remainder_append_skip bus.reader.pending]
    rfl
  · rw [consumed.skipped_eq, looked.incoming_eq, looked.skipped_eq, incoming,
      Stream.start_append bus.reader.pending, Nat.add_assoc]
    rfl

theorem readStep_refuses (sound : bus.reader.Sound) {required : Nat}
    (refused : Stream.Refused bus.reader.capacity bus.live required) :
    ∃ final notes, Held bus final ∧ Consumed bus final ∧
      (readStep (MemoryLine.link discipline) deadline).run bus =
        ⟨.error (.bufferTooSmall required bus.reader.capacity), final,
          notes⟩ := by
  obtain ⟨reader, notes, polled, run⟩ := poll_polled sound
  rw [refused.announced_eq] at run
  have stays : Consumed { bus with reader } { bus with reader } := by
    constructor
    · rw [polled.looked.incoming_eq, polled.looked.capacity_eq,
        refused.remainder_append]
    · rw [polled.looked.incoming_eq, (refused.append _).atFront]
      rfl
  refine ⟨_, notes, polled.held bus.line.clock bus.line.input,
    polled.looked.consumed stays, ?_⟩
  simp [readStep, onReader, run]

theorem readStep_takes (sound : bus.reader.Sound) {size : Nat}
    (complete : Stream.Complete bus.reader.capacity bus.live size) :
    ∃ final notes, Held bus final ∧ Consumed bus final ∧
      (readStep (MemoryLine.link discipline) deadline).run bus =
        ⟨(Event.ofMessage (bus.live.take size)).outcome.map some, final,
          notes⟩ := by
  obtain ⟨reader, notes, polled, run⟩ := poll_polled sound
  rw [complete.announced_eq] at run
  have takes :=
    Reader.take_reaches polled.sound complete.positive
      (polled.buffered complete.complete)
  rw [polled.filled_eq] at takes
  rcases taken : (Reader.take size).run reader with ⟨result, final, more⟩
  rw [taken] at takes
  obtain ⟨resultEq, windowEq, soundNext⟩ := takes
  simp only at resultEq windowEq
  have capacityEq : final.capacity = bus.reader.capacity :=
    (congrArg Reader.Window.capacity windowEq).trans polled.capacity_eq
  have pendingEq : final.pending = bus.live.drop size := by
    rw [Reader.pending_eq, windowEq, Reader.Window.pending,
      ← polled.filled_eq, polled.handedOut_eq, Nat.zero_add]
    rfl
  have hands : Consumed { bus with reader } { bus with reader := final } := by
    constructor
    · rw [polled.looked.incoming_eq, polled.looked.capacity_eq,
        complete.remainder_append]
      exact congrArg (· ++ bus.line.input) pendingEq
    · rw [polled.looked.incoming_eq, (complete.append _).atFront]
      exact congrArg Reader.Window.skipped windowEq
  refine ⟨{ bus with reader := final }, notes ++ more,
    ⟨⟨_, _, rfl⟩, capacityEq, soundNext, rfl, rfl, rfl⟩,
    polled.looked.consumed hands, ?_⟩
  rw [← resultEq]
  cases result <;> simp [readStep, onReader, run, taken, Except.map]

theorem readStep_misses (sound : bus.reader.Sound)
    (works : bus.line.failures.read = none)
    (incomplete : announced bus.reader.capacity bus.live = .ok none)
    (empty : bus.line.input = []) :
    ∃ final notes, Held bus final ∧ Consumed bus final ∧
      (readStep (MemoryLine.link discipline) deadline).run bus =
        ⟨.error (.line .deadline .readTimedOut), final, notes⟩ := by
  obtain ⟨reader, notes, polled, run⟩ := poll_polled sound
  rw [incomplete] at run
  obtain ⟨clock, reads⟩ :=
    MemoryLine.read_empty discipline reader.unfilled deadline works empty
  have atFront : Stream.start bus.live = 0 := Stream.start_drop_start _
  have stays :
      Consumed { bus with reader }
        { bus with reader, line := { bus.line with clock } } := by
    have liveEq := polled.looked.incoming_eq
    rw [empty, List.append_nil] at liveEq
    constructor
    · rw [liveEq, polled.looked.capacity_eq,
        Stream.remainder_incomplete atFront incomplete, ← liveEq]
      rfl
    · rw [liveEq, atFront]
      rfl
  refine ⟨_, notes, polled.held clock bus.line.input,
    polled.looked.consumed stays, ?_⟩
  simp [readStep, onReader, onLine, run, MemoryLine.link, reads, atStage,
    readStage, DeviceError.concernsLine, DeviceError.isTimeout,
    DeviceError.readTimedOut]

theorem readStep_goes_on (sound : bus.reader.Sound)
    (works : bus.line.failures.read = none) (chunked : bus.line.Chunked)
    (incomplete : announced bus.reader.capacity bus.live = .ok none)
    (room : bus.live.length < bus.reader.capacity)
    (nonempty : bus.line.input ≠ []) :
    ∃ final notes count, 0 < count ∧ Held bus final ∧ Looked bus final ∧
      final.line.input = bus.line.input.drop count ∧
      (readStep (MemoryLine.link discipline) deadline).run bus =
        ⟨.ok none, final, notes⟩ := by
  obtain ⟨reader, notes, polled, run⟩ := poll_polled sound
  rw [incomplete] at run
  have space : 0 < reader.unfilled := by
    rw [Reader.unfilled, polled.capacity_eq, ← polled.sound.length_filled,
      polled.filled_eq]
    omega
  obtain ⟨count, positive, bound, reads⟩ :=
    MemoryLine.read_ready discipline deadline works chunked nonempty space
  have fits :
      (bus.line.input.take count).length ≤ reader.unfilled :=
    Nat.le_trans (List.length_take_le _ _) bound
  have receives := Reader.receive_reaches polled.sound fits
  rcases received :
      (Reader.receive (bus.line.input.take count)).run reader
    with ⟨result, final, more⟩
  rw [received] at receives
  obtain ⟨resultEq, windowEq, soundNext⟩ := receives
  simp only at resultEq windowEq soundNext
  subst resultEq
  have capacityEq : final.capacity = bus.reader.capacity :=
    (congrArg Reader.Window.capacity windowEq).trans polled.capacity_eq
  have looked : Looked bus
      { bus with
        reader := final
        line := { bus.line with
          clock := bus.line.resumed discipline
          input := bus.line.input.drop count } } := by
    constructor
    · exact capacityEq
    · rw [incoming, polled.sound.pending_append windowEq, polled.pending_eq,
        List.append_assoc, List.take_append_drop]
    · exact (congrArg Reader.Window.skipped windowEq).trans polled.skipped_eq
  refine ⟨_, notes ++ more, count, positive, ?_, looked, rfl, ?_⟩
  · exact ⟨⟨_, _, rfl⟩, capacityEq, soundNext, rfl, rfl, rfl⟩
  · simp [readStep, onReader, onLine, run, MemoryLine.link, reads, received]

/-- What is received of a stream of which this is the first event. -/
def received : Option Event → Except Fault Bytes
  | some event => event.outcome
  | none => .error (.line .deadline .readTimedOut)

theorem received_nothing (capacity : Nat) :
    received (firstEvent capacity []) =
      .error (.line .deadline .readTimedOut) := by
  have nothing : Stream.decode capacity [] = ⟨[], [], 0⟩ :=
    Stream.decode_unheaded rfl rfl
  rw [firstEvent, nothing]
  rfl

/-- A packet is received as it was sent. -/
theorem received_encode {capacity : Nat} {packet : Packet}
    (countable : (packet.parameters.length : Int) + 2 ≤ Packet.maximumLength)
    (fits : packet.encode.length ≤ capacity) :
    received (firstEvent capacity packet.encode) =
      .ok (Packet.headerByte :: Packet.headerByte :: packet.motorId ::
        UInt8.ofNat (packet.parameters.length + 2) :: packet.code ::
          packet.parameters) := by
  have complete := Stream.complete_encode countable fits
  have first := complete.firstEvent_append []
  rw [List.append_nil, List.take_length] at first
  have split :
      packet.encode =
        (Packet.headerByte :: Packet.headerByte :: packet.body) ++
          [Packet.checksum packet.body] := rfl
  rw [first, received, split,
    Event.outcome_ofMessage List.getLast?_concat]
  simp only [List.dropLast_concat]
  exact if_pos rfl

/-- Every step that goes on takes a byte from the line, so that there are
enough steps if there are more of them than bytes. -/
theorem untilSome_readStep (steps : Nat) :
    ∀ {bus : Bus MemoryLine}, bus.reader.Sound →
      Packet.headerSize ≤ bus.reader.capacity →
      bus.line.failures.read = none → bus.line.Chunked →
      bus.line.input.length < steps →
      ∃ final notes, Held bus final ∧ Consumed bus final ∧
        (Act.untilSome steps
          (readStep (MemoryLine.link discipline) deadline)).run bus =
          ⟨received (firstEvent bus.reader.capacity bus.incoming), final,
            notes⟩ := by
  induction steps with
  | zero =>
      intro bus _ _ _ _ enough
      exact absurd enough (Nat.not_lt_zero _)
  | succ steps stepsFollow =>
      intro bus sound room works chunked enough
      have firstEq :
          firstEvent bus.reader.capacity bus.incoming =
            firstEvent bus.reader.capacity (bus.live ++ bus.line.input) :=
        Stream.firstEvent_append_skip _ _
      have atFront : Stream.start bus.live = 0 := Stream.start_drop_start _
      rw [firstEq]
      rcases Stream.announced_cases room atFront with
        ⟨answer, decodeEq, more⟩ | ⟨size, _, complete⟩ |
          ⟨required, _, tooLarge⟩
      · by_cases empty : bus.line.input = []
        · obtain ⟨final, notes, held, consumed, run⟩ :=
            readStep_misses discipline deadline sound works answer empty
          refine ⟨final, notes, held, consumed, ?_⟩
          have nothing :
              firstEvent bus.reader.capacity (bus.live ++ bus.line.input) =
                none := by
            rw [empty, List.append_nil, firstEvent, decodeEq]
            rfl
          rw [nothing]
          exact Act.untilSome_of_ends (received none) run steps
        · obtain ⟨middle, notes, count, positive, held, looked, inputEq,
              run⟩ :=
            readStep_goes_on discipline deadline sound works chunked answer
              more empty
          obtain ⟨clock, input, lineEq⟩ := held.line_eq
          have shorter : middle.line.input.length < steps := by
            have nonempty := List.length_pos_iff.2 empty
            rw [inputEq, List.length_drop]
            omega
          obtain ⟨final, later, heldLater, consumed, runs⟩ :=
            stepsFollow held.sound (held.capacity_eq ▸ room)
              (by rw [lineEq]; exact works) (by rw [lineEq]; exact chunked)
              shorter
          refine ⟨final, notes ++ later, held.trans heldLater,
            looked.consumed consumed, ?_⟩
          rw [looked.incoming_eq, held.capacity_eq] at runs
          rw [Act.untilSome_of_again run, runs]
      · obtain ⟨final, notes, held, consumed, run⟩ :=
          readStep_takes discipline deadline sound complete
        refine ⟨final, notes, held, consumed, ?_⟩
        rw [complete.firstEvent_append, received]
        exact Act.untilSome_of_ends _ run steps
      · obtain ⟨final, notes, held, consumed, run⟩ :=
          readStep_refuses discipline deadline sound tooLarge
        refine ⟨final, notes, held, consumed, ?_⟩
        rw [tooLarge.firstEvent_append]
        exact Act.untilSome_of_ends
          (received (some (.tooSmall required bus.reader.capacity))) run steps

/-- What a bus receives is decided by the first event of the bytes that are
pending or readable, and it receives that event and nothing more. -/
theorem readPacket_follows (sound : bus.reader.Sound)
    (room : Packet.headerSize ≤ bus.reader.capacity)
    (works : bus.line.failures.read = none) (chunked : bus.line.Chunked) :
    ∃ final notes, Held bus final ∧ Consumed bus final ∧
      (readPacket (MemoryLine.link discipline) deadline).run bus =
        ⟨received (firstEvent bus.reader.capacity bus.incoming), final,
          notes⟩ := by
  obtain ⟨final, notes, held, consumed, run⟩ :=
    untilSome_readStep discipline deadline (bus.line.input.length + 2) sound
      room works chunked (by omega)
  exact ⟨final, notes, held, consumed, run⟩

end ActuatorBus.Bus
