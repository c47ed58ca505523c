import ActuatorBus.Proofs.Bus.Agreement
import ActuatorBus.Proofs.Bus.Sending
import ActuatorBus.Proofs.Reader.Even

/-!
# Isolation

Nothing that was received or buffered before an instruction has an influence on
what comes of it. Two buses are set up alike if they differ only in what they
received, buffered and wrote so far. Once an instruction is sent they are even:
what is readable and what is buffered is the same in both, and it stays so.
-/

namespace ActuatorBus

/-- Two lines that differ only in what can be read from them, and in what was
done with them before. -/
structure MemoryLine.Alike (first second : MemoryLine) : Prop where
  clock_eq : first.clock = second.clock
  chunkSize_eq : first.chunkSize = second.chunkSize
  replies_eq : first.replies = second.replies
  failures_eq : first.failures = second.failures
  motors_eq : first.motors = second.motors

namespace Bus

/-- Two buses that are set up alike over lines that are alike. -/
structure Alike (first second : Bus MemoryLine) : Prop where
  line : first.line.Alike second.line
  capacity_eq : first.reader.capacity = second.reader.capacity
  room_eq : first.writeBuffer.length = second.writeBuffer.length
  baudRate_eq : first.baudRate = second.baudRate
  timeoutMargin_eq : first.timeoutMargin = second.timeoutMargin

/-- Both buses wrote the same bytes since then. -/
def WroteSame (past past' bus bus' : Bus MemoryLine) : Prop :=
  ∃ more, bus.line.written = past.line.written ++ more ∧
    bus'.line.written = past'.line.written ++ more

/-- Both buses skipped as many bytes since then. -/
def SkippedSame (past past' bus bus' : Bus MemoryLine) : Prop :=
  ∃ more, bus.reader.skipped = past.reader.skipped + more ∧
    bus'.reader.skipped = past'.reader.skipped + more

/-- Two buses have the same readable and buffered bytes, and since they were
`past` and `past'` they skipped as many bytes and wrote the same. -/
structure Even (past past' bus bus' : Bus MemoryLine) : Prop where
  line : bus.line.Alike bus'.line
  input_eq : bus.line.input = bus'.line.input
  capacity_eq : bus.reader.capacity = bus'.reader.capacity
  filled_eq : bus.reader.filled = bus'.reader.filled
  handedOut_eq : bus.reader.handedOut = bus'.reader.handedOut
  sound : bus.reader.Sound
  sound' : bus'.reader.Sound
  baudRate_eq : bus.baudRate = bus'.baudRate
  timeoutMargin_eq : bus.timeoutMargin = bus'.timeoutMargin
  skipped : SkippedSame past past' bus bus'
  wrote : WroteSame past past' bus bus'

variable {past past' bus bus' : Bus MemoryLine}

theorem Even.reader (even : Even past past' bus bus') :
    Reader.Even past.reader past'.reader bus.reader bus'.reader where
  capacity_eq := even.capacity_eq
  fillLevel_eq := by
    rw [← even.sound.length_filled, ← even.sound'.length_filled,
      even.filled_eq]
  handedOut_eq := even.handedOut_eq
  filled_eq := even.filled_eq
  sound := even.sound
  skipped := even.skipped

theorem Even.onReader {α : Type} {action : Act Reader α}
    (even : Even past past' bus bus')
    (agree : Outcome.Agree (Reader.Even past.reader past'.reader)
      (action.run bus.reader) (action.run bus'.reader)) :
    Outcome.Agree (Even past past') ((Bus.onReader action).run bus)
      ((Bus.onReader action).run bus') := by
  obtain ⟨resultEq, readers⟩ := agree
  refine ⟨resultEq, ?_⟩
  constructor
  · exact even.line
  · exact even.input_eq
  · exact readers.capacity_eq
  · exact readers.filled_eq
  · exact readers.handedOut_eq
  · exact readers.sound
  · exact readers.sound_other
  · exact even.baudRate_eq
  · exact even.timeoutMargin_eq
  · exact readers.skipped
  · exact even.wrote

theorem Even.read (even : Even past past' bus bus')
    (discipline : Discipline) (space : Nat) (deadline : Double) :
    Outcome.Agree (Even past past')
      ((onLine (MemoryLine.read discipline space deadline)).run bus)
      ((onLine (MemoryLine.read discipline space deadline)).run bus') := by
  have same :
      bus'.line.reading discipline space deadline =
        bus.line.reading discipline space deadline := by
    simp only [MemoryLine.reading, MemoryLine.resumed, even.input_eq,
      even.line.clock_eq, even.line.chunkSize_eq, even.line.failures_eq]
  simp only [onLine, Act.run_on, MemoryLine.read_run, same]
  refine ⟨rfl, ?_⟩
  exact { even with
    line := { even.line with clock_eq := rfl }
    input_eq := rfl }

theorem Even.readStep (even : Even past past' bus bus')
    (discipline : Discipline) (deadline : Double) :
    Outcome.Agree (Even past past')
      ((Bus.readStep (MemoryLine.link discipline) deadline).run bus)
      ((Bus.readStep (MemoryLine.link discipline) deadline).run bus') := by
  apply Act.agree_bind (even.onReader even.reader.poll)
  intro found foundEq polled
  cases found with
  | some size =>
      obtain ⟨_, positive, buffered⟩ := Reader.poll_buffers even.sound foundEq
      apply Act.agree_bind
        (polled.onReader (polled.reader.take positive buffered))
      intro packet _ taken
      exact Act.agree_pure (some packet) taken
  | none =>
      apply Act.agree_get
      rw [← polled.reader.unfilled_eq]
      apply Act.agree_bind
        (Act.agree_mapFault _ (polled.read discipline _ deadline))
      intro bytes _ reads
      apply Act.agree_bind (reads.onReader (reads.reader.receive bytes))
      intro _ _ received
      exact Act.agree_pure none received

theorem Even.readPacket (even : Even past past' bus bus')
    (discipline : Discipline) (deadline : Double) :
    Outcome.Agree (Even past past')
      ((Bus.readPacket (MemoryLine.link discipline) deadline).run bus)
      ((Bus.readPacket (MemoryLine.link discipline) deadline).run bus') := by
  have patienceEq :
      (MemoryLine.link discipline).patience bus'.line =
        (MemoryLine.link discipline).patience bus.line := by
    simp only [MemoryLine.link, even.input_eq]
  apply agree_readPacket patienceEq _ even
  exact fun one two reads => reads.readStep discipline deadline

theorem Even.readResponse (even : Even past past' bus bus')
    (discipline : Discipline) (expected expectedId : Value) :
    Outcome.Agree (Even past past')
      ((Bus.readResponse (MemoryLine.link discipline) expected
        expectedId).run bus)
      ((Bus.readResponse (MemoryLine.link discipline) expected
        expectedId).run bus') := by
  have timeoutEq :
      bus'.responseTimeout expected = bus.responseTimeout expected := by
    simp only [responseTimeout, even.baudRate_eq, even.timeoutMargin_eq]
  have deadlineEq (seconds : Double) :
      (MemoryLine.link discipline).deadline bus'.line seconds =
        (MemoryLine.link discipline).deadline bus.line seconds := by
    simp only [Link.deadline, MemoryLine.link, even.line.clock_eq]
  apply agree_readResponse expectedId timeoutEq _ even
  intro timeout
  rw [deadlineEq]
  exact even.readPacket discipline _

/-- Two sendings gave the same result and wrote the same, and if they
succeeded the buses are even. -/
structure Sent (past past' : Bus MemoryLine)
    (first second : Outcome (Bus MemoryLine) Unit) : Prop where
  result_eq : first.result = second.result
  wrote : WroteSame past past' first.state second.state
  even : first.result = .ok () → Even past past' first.state second.state

/-- Two buses are alike and have nothing in their readers. -/
structure Emptied (past past' bus bus' : Bus MemoryLine) : Prop where
  alike : Alike bus bus'
  window_eq : bus.reader.window =
    ⟨past.reader.capacity, [], 0, past.reader.skipped⟩
  window_eq' : bus'.reader.window =
    ⟨past'.reader.capacity, [], 0, past'.reader.skipped⟩
  sound : bus.reader.Sound
  sound' : bus'.reader.Sound
  written_eq : bus.line.written = past.line.written
  written_eq' : bus'.line.written = past'.line.written

theorem Emptied.transmit (emptied : Emptied past past' bus bus')
    (discipline : Discipline) (packet : Bytes) :
    Sent past past'
      ((Bus.transmit (MemoryLine.link discipline) packet).run bus)
      ((Bus.transmit (MemoryLine.link discipline) packet).run bus') := by
  have failuresEq := emptied.alike.line.failures_eq
  have nothingYet : WroteSame past past' bus bus' :=
    ⟨[], by simp [emptied.written_eq], by simp [emptied.written_eq']⟩
  cases discardFails : bus.line.failures.discard with
  | some error =>
      rw [transmit_undiscarded discipline packet discardFails,
        transmit_undiscarded discipline packet (failuresEq ▸ discardFails)]
      exact ⟨rfl, nothingYet, by simp⟩
  | none =>
      rw [transmit_discarded discipline packet discardFails,
        transmit_discarded discipline packet (failuresEq ▸ discardFails)]
      simp only [MemoryLine.writeAll_run, ← failuresEq,
        ← emptied.alike.line.motors_eq, ← emptied.alike.line.replies_eq,
        MemoryLine.resumed, ← emptied.alike.line.clock_eq]
      cases writeFails : bus.line.failures.write with
      | some error => exact ⟨rfl, nothingYet, by simp⟩
      | none =>
          have written : bus.line.written ++ [packet] =
              past.line.written ++ [packet] := by
            rw [emptied.written_eq]
          have written' : bus'.line.written ++ [packet] =
              past'.line.written ++ [packet] := by
            rw [emptied.written_eq']
          have window := emptied.window_eq
          have window' := emptied.window_eq'
          simp only [Reader.window, Reader.Window.mk.injEq] at window window'
          refine ⟨rfl, ⟨[packet], written, written'⟩, fun _ => ?_⟩
          constructor
          · exact ⟨rfl, emptied.alike.line.chunkSize_eq, rfl, rfl, rfl⟩
          · rfl
          · exact emptied.alike.capacity_eq
          · exact window.2.1.trans window'.2.1.symm
          · exact window.2.2.1.trans window'.2.2.1.symm
          · exact emptied.sound
          · exact emptied.sound'
          · exact emptied.alike.baudRate_eq
          · exact emptied.alike.timeoutMargin_eq
          · exact ⟨0, window.2.2.2, window'.2.2.2⟩
          · exact ⟨[packet], written, written'⟩

theorem Alike.writePacket (alike : Alike bus bus') (discipline : Discipline)
    (motorId : Value) {request : Request} {image : Except Fault Bytes}
    (fills : request.Fills image) :
    Sent bus bus'
      ((Bus.writePacket (MemoryLine.link discipline) motorId request.code
        (.integer request.parameterCount) request.fill).run bus)
      ((Bus.writePacket (MemoryLine.link discipline) motorId request.code
        (.integer request.parameterCount) request.fill).run bus') := by
  have emptied (packet : Packet) :
      Emptied bus bus' (bus.prepared packet) (bus'.prepared packet) := by
    constructor
    · constructor
      · exact alike.line
      · exact alike.capacity_eq
      · simp only [prepared, List.length_append, List.length_drop,
          alike.room_eq]
      · exact alike.baudRate_eq
      · exact alike.timeoutMargin_eq
    · rfl
    · rfl
    · exact ⟨Nat.le_refl 0, Nat.zero_le _⟩
    · exact ⟨Nat.le_refl 0, Nat.zero_le _⟩
    · rfl
    · rfl
  cases made : request.packet bus.writeBuffer.length motorId image with
  | error fault =>
      have made' := made
      rw [alike.room_eq] at made'
      obtain ⟨left, _, run⟩ :=
        writePacket_error (MemoryLine.link discipline) fills made
      obtain ⟨left', _, run'⟩ :=
        writePacket_error (MemoryLine.link discipline) fills made'
      rw [run, run']
      exact ⟨rfl, ⟨[], by simp, by simp⟩, by simp⟩
  | ok packet =>
      have sent := (emptied packet).transmit discipline packet.encode
      have made' := made
      rw [alike.room_eq] at made'
      rw [writePacket_ok (MemoryLine.link discipline) fills made,
        writePacket_ok (MemoryLine.link discipline) fills made']
      exact ⟨sent.result_eq, sent.wrote, sent.even⟩

/-- What follows a request that was sent. -/
theorem Even.conclude (even : Even past past' bus bus')
    (discipline : Discipline) (operation : Operation)
    (expected motorId : Value) :
    let last : Act (Bus MemoryLine) (Option Response) :=
      if operation.awaitsReply then do
        let response ←
          Bus.readResponse (MemoryLine.link discipline) expected motorId
        return some (← Act.ofExcept (operation.conclude response))
      else return none
    Outcome.Agree (Even past past') (last.run bus) (last.run bus') :=
  agree_conclude operation
    (even.readResponse discipline expected motorId) even

end Bus

end ActuatorBus
