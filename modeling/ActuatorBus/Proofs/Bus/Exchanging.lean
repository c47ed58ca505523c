import ActuatorBus.Proofs.Bus.Asking
import ActuatorBus.Proofs.Bus.Receiving
import ActuatorBus.Proofs.Bus.Sending
import ActuatorBus.Proofs.Packet.Timing
import ActuatorBus.Proofs.Response

/-!
# Exchanging

What an operation comes to on a line in memory that does not fail: it is
decided by the first event of the queued replies and the answers of the motors,
and by nothing else.
-/

namespace ActuatorBus.Bus

open ActuatorBus.Stream (firstEvent)

/-- There is a time for every reply: the baud rate is positive, and the margin
is a number that is not too large for a double. -/
structure Timed {σ : Type} (bus : Bus σ) : Prop where
  rate : ∃ rate, bus.baudRate.needNumber = .ok rate ∧
    (Number.integer 0).lt rate = true
  margin : ∃ margin seconds, bus.timeoutMargin.needNumber = .ok margin ∧
    margin.toDouble = .ok seconds

theorem Timed.responseTimeout {σ : Type} {bus : Bus σ} (timed : bus.Timed)
    {expected : Nat} (countable : (expected : Int) + 2 ≤ Packet.maximumLength) :
    ∃ timeout, bus.responseTimeout (.integer expected) = .ok timeout := by
  obtain ⟨rate, rateEq, positive⟩ := timed.rate
  obtain ⟨margin, seconds, marginEq, secondsEq⟩ := timed.margin
  have sizeEq :
      Packet.sizeOf (.integer expected) =
        .ok (.integer (Packet.size expected)) := rfl
  have nonneg : 0 ≤ Packet.size expected := by
    simp only [Packet.size, Packet.minimumSize]
    omega
  have small :
      Packet.size expected ≤ Packet.headerSize + Packet.maximumLength := by
    simp only [Packet.size, Packet.minimumSize, Packet.headerSize]
    omega
  obtain ⟨transfer, transferEq⟩ :=
    Packet.transferTime_ok nonneg small positive
  refine ⟨transfer.add seconds, ?_⟩
  simp [Bus.responseTimeout, sizeEq, rateEq, transferEq, marginEq,
    secondsEq]

variable {bus : Bus MemoryLine} (discipline : Discipline)

/-- Reading a response receives the first event of what comes in and judges
it. -/
theorem readResponse_follows {expected : Value} {timeout : Double}
    (timely : bus.responseTimeout expected = .ok timeout)
    (expectedId : Value) (sound : bus.reader.Sound)
    (room : Packet.headerSize ≤ bus.reader.capacity)
    (works : bus.line.failures.read = none) (chunked : bus.line.Chunked) :
    ∃ final notes, Held bus final ∧ Consumed bus final ∧
      (readResponse (MemoryLine.link discipline) expected expectedId).run
          bus =
        ⟨received (firstEvent bus.reader.capacity bus.incoming) >>=
          fun packet => Response.judge packet expectedId, final, notes⟩ := by
  obtain ⟨final, notes, held, consumed, run⟩ :=
    readPacket_follows discipline
      ((MemoryLine.link discipline).deadline bus.line timeout) sound room
      works chunked
  cases receivedEq :
      received (firstEvent bus.reader.capacity bus.incoming) with
  | error fault =>
      rw [receivedEq] at run
      refine ⟨final, notes, held, consumed, ?_⟩
      simp [readResponse, timely, run]
  | ok packet =>
      rw [receivedEq] at run
      obtain ⟨more, judged⟩ :=
        Response.ofPacket_run (σ := Bus MemoryLine) packet expectedId
      refine ⟨final, notes ++ more, held, consumed, ?_⟩
      simp [readResponse, timely, run, judged]

/-- A bus after an exchange: nothing is queued any more, and the line has these
motors. -/
structure Exchanged (bus : Bus MemoryLine) (motors : List Motor)
    (final : Bus MemoryLine) : Prop where
  line_eq : ∃ clock written discards input,
    final.line =
      { bus.line with
        clock, written, discards, input
        replies := []
        motors }
  capacity_eq : final.reader.capacity = bus.reader.capacity
  room_eq : final.writeBuffer.length = bus.writeBuffer.length
  baudRate_eq : final.baudRate = bus.baudRate
  timeoutMargin_eq : final.timeoutMargin = bus.timeoutMargin

section

variable {motors : List Motor} {final : Bus MemoryLine}
  (exchanged : Exchanged bus motors final)

include exchanged

theorem Exchanged.motors_eq : final.line.motors = motors := by
  obtain ⟨_, _, _, _, lineEq⟩ := exchanged.line_eq
  rw [lineEq]

theorem Exchanged.replies_eq : final.line.replies = [] := by
  obtain ⟨_, _, _, _, lineEq⟩ := exchanged.line_eq
  rw [lineEq]

theorem Exchanged.failures_eq :
    final.line.failures = bus.line.failures := by
  obtain ⟨_, _, _, _, lineEq⟩ := exchanged.line_eq
  rw [lineEq]

theorem Exchanged.chunked (chunked : bus.line.Chunked) :
    final.line.Chunked := by
  obtain ⟨_, _, _, _, lineEq⟩ := exchanged.line_eq
  rw [lineEq]
  exact chunked

theorem Exchanged.timed (timed : bus.Timed) : final.Timed := by
  constructor
  · rw [exchanged.baudRate_eq]
    exact timed.rate
  · rw [exchanged.timeoutMargin_eq]
    exact timed.margin

end

theorem Exchanged.held {motors : List Motor} {sent final : Bus MemoryLine}
    (exchanged : Exchanged bus motors sent) (held : Held sent final) :
    Exchanged bus motors final := by
  obtain ⟨_, written, discards, _, sentLine⟩ := exchanged.line_eq
  obtain ⟨clock, input, finalLine⟩ := held.line_eq
  constructor
  · exact ⟨clock, written, discards, input, by rw [finalLine, sentLine]⟩
  · exact held.capacity_eq.trans exchanged.capacity_eq
  · rw [held.writeBuffer_eq, exchanged.room_eq]
  · exact held.baudRate_eq.trans exchanged.baudRate_eq
  · exact held.timeoutMargin_eq.trans exchanged.timeoutMargin_eq

/-- What a request is sent with, and what it is answered. -/
structure Asked (bus : Bus MemoryLine) (motorId : Value) (request : Request)
    (answer : Bytes) (motors : List Motor) : Prop where
  works : bus.line.failures = .none
  sends : ∃ image packet notes, request.Fills image ∧
    request.packet bus.writeBuffer.length motorId image = .ok packet ∧
    Motor.answers packet.encode bus.line.motors = ⟨.ok answer, motors, notes⟩

theorem Asked.writePacket_run {motorId : Value} {request : Request}
    {answer : Bytes} {motors : List Motor}
    (asked : bus.Asked motorId request answer motors) :
    ∃ sent notes, Exchanged bus motors sent ∧
      sent.reader.pending = [] ∧ sent.reader.Sound ∧
      sent.line.input = bus.line.replies ++ answer ∧
      (writePacket (MemoryLine.link discipline) motorId request.code
        (.integer request.parameterCount) request.fill).run bus =
        ⟨.ok (), sent, notes⟩ := by
  obtain ⟨image, packet, notes, fills, made, answers⟩ := asked.sends
  have transmits :
      (transmit (MemoryLine.link discipline) packet.encode).run
        (bus.prepared packet) = _ :=
    transmit_run discipline (congrArg LineFailures.discard asked.works)
      (congrArg LineFailures.write asked.works) answers
  have sends :
      (writePacket (MemoryLine.link discipline) motorId request.code
        (.integer request.parameterCount) request.fill).run bus = _ :=
    writePacket_ok (MemoryLine.link discipline) fills made
  rw [transmits] at sends
  refine ⟨_, _, ?_, ?_, ?_, ?_, sends⟩
  · exact ⟨⟨_, _, _, _, rfl⟩, rfl, length_prepared fills made, rfl, rfl⟩
  · rfl
  · exact ⟨Nat.le_refl 0, Nat.zero_le _⟩
  · rfl

/-- What an operation makes of what is received for it. -/
def concluded (operation : Operation) (motorId : Value)
    (result : Except Fault Bytes) : Except Fault (Option Response) :=
  if operation.awaitsReply then do
    let response ← Response.judge (← result) motorId
    return some (← operation.conclude response)
  else return none

/-- The result of an operation is decided by the first event of the replies
and answers to it. -/
theorem perform_follows {operation : Operation} {motorId : Value}
    {request : Request} {expected : Nat} {answer : Bytes}
    {motors : List Motor}
    (asks : operation.asked = some (motorId, .ok request))
    (asked : bus.Asked motorId request answer motors)
    (expects : request.expected = .integer expected)
    (countable : (expected : Int) + 2 ≤ Packet.maximumLength)
    (timed : bus.Timed) (room : Packet.headerSize ≤ bus.reader.capacity)
    (chunked : bus.line.Chunked) :
    ∃ final notes, Exchanged bus motors final ∧
      (perform (MemoryLine.link discipline) operation).run bus =
        ⟨concluded operation motorId
          (received (firstEvent bus.reader.capacity
            (bus.line.replies ++ answer))), final, notes⟩ := by
  obtain ⟨sent, notes, exchanged, pendingEq, sound, inputEq, sends⟩ :=
    asked.writePacket_run discipline
  rw [perform_eq (MemoryLine.link discipline) asks]
  by_cases awaits : operation.awaitsReply = true
  · have sentWorks : sent.line.failures.read = none := by
      rw [exchanged.failures_eq]
      exact congrArg LineFailures.read asked.works
    obtain ⟨timeout, timely⟩ :=
      (exchanged.timed timed).responseTimeout countable
    obtain ⟨final, more, held, _, run⟩ :=
      readResponse_follows discipline timely motorId sound
        (exchanged.capacity_eq ▸ room) sentWorks (exchanged.chunked chunked)
    rw [incoming, pendingEq, inputEq, exchanged.capacity_eq,
      List.nil_append] at run
    refine ⟨final, notes ++ more, exchanged.held held, ?_⟩
    simp only [Act.ofExcept_ok, pure_bind, Act.run_bind, sends, awaits,
      if_true, Outcome.andThen_ok, expects, run, concluded]
    cases received (firstEvent bus.reader.capacity
        (bus.line.replies ++ answer)) with
    | error fault => rfl
    | ok bytes =>
        cases judged : Response.judge bytes motorId with
        | error fault => simp [judged]
        | ok response =>
            cases finished : operation.conclude response <;>
              simp [judged, finished]
  · refine ⟨sent, notes, exchanged, ?_⟩
    simp [sends, awaits, concluded]

end ActuatorBus.Bus
