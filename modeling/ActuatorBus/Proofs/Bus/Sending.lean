import ActuatorBus.Proofs.Line.Memory
import ActuatorBus.Proofs.Packet.Parameters

/-!
# Sending

What sending a request comes to. The instruction is made of the request alone,
and once it is, nothing that was buffered or readable before is left.
-/

namespace ActuatorBus

/-- The instruction of a request whose parameters come to an image. -/
def Request.packet (request : Request) (room : Nat) (motorId : Value)
    (image : Except Fault Bytes) : Except Fault Packet :=
  Packet.assemble room motorId request.code request.parameterCount.toNat
    image

/-- The parameters of an instruction are as many as its request says, and the
length byte can count them. -/
theorem Request.counted_packet {request : Request} {room : Nat}
    {motorId : Value} {image : Except Fault Bytes} {packet : Packet}
    (fills : request.Fills image)
    (made : request.packet room motorId image = .ok packet) :
    request.parameterCount = packet.parameters.length ∧
      (packet.parameters.length : Int) + 2 ≤ Packet.maximumLength := by
  obtain ⟨count, countEq, filled⟩ := fills
  rw [Request.packet, countEq, Int.toNat_natCast] at made
  obtain ⟨_, countable, _, _, imageEq⟩ := Packet.assembled made
  rw [imageEq] at filled
  rw [filled.length_eq]
  exact ⟨countEq, countable⟩

namespace Bus

variable {σ : Type} {bus : Bus σ} {motorId : Value} {request : Request}
  {image : Except Fault Bytes}

/-- A bus with an instruction in its buffer and nothing in its reader. -/
def prepared (bus : Bus σ) (packet : Packet) : Bus σ :=
  { bus with
    writeBuffer :=
      packet.encode ++ bus.writeBuffer.drop packet.encode.length
    reader := { bus.reader with fillLevel := 0, handedOut := 0 } }

theorem prepare_ok {packet : Packet} (fills : request.Fills image)
    (made : request.packet bus.writeBuffer.length motorId image =
      .ok packet) :
    (prepare motorId request.code (.integer request.parameterCount)
        request.fill).run bus =
      ⟨.ok packet.encode, bus.prepared packet,
        [.sendingPacket packet.encode]⟩ := by
  obtain ⟨count, countEq, filled⟩ := fills
  have written :=
    Packet.write_written motorId request.code filled bus.writeBuffer
  have countNat : request.parameterCount.toNat = count := by omega
  rw [Request.packet, countNat] at made
  rw [made] at written
  cases written with
  | ok lengthEq run =>
      rw [← countEq] at run
      simp [prepare, onWriteBuffer, onReader, run, Reader.reset, prepared]

theorem length_prepared {packet : Packet} (fills : request.Fills image)
    (made : request.packet bus.writeBuffer.length motorId image =
      .ok packet) :
    (bus.prepared packet).writeBuffer.length = bus.writeBuffer.length := by
  obtain ⟨countEq, _⟩ := Request.counted_packet fills made
  rw [Request.packet, countEq, Int.toNat_natCast] at made
  have fits := (Packet.assembled made).fits
  simp only [Packet.size] at fits
  simp only [prepared, List.length_append, List.length_drop,
    Packet.length_encode]
  omega

theorem prepare_error {fault : Fault} (fills : request.Fills image)
    (refused : request.packet bus.writeBuffer.length motorId image =
      .error fault) :
    ∃ left : Bytes, left.length = bus.writeBuffer.length ∧
      (prepare motorId request.code (.integer request.parameterCount)
          request.fill).run bus =
        ⟨.error fault, { bus with writeBuffer := left }, []⟩ := by
  obtain ⟨count, countEq, filled⟩ := fills
  have written :=
    Packet.write_written motorId request.code filled bus.writeBuffer
  have countNat : request.parameterCount.toNat = count := by omega
  rw [Request.packet, countNat] at refused
  rw [refused] at written
  cases written with
  | error left lengthEq run =>
      rw [← countEq] at run
      refine ⟨left, lengthEq, ?_⟩
      simp [prepare, onWriteBuffer, run]

/-- Sends bytes, after discarding all input. -/
def transmit (link : Link σ) (packet : Bytes) : Act (Bus σ) Unit := do
  Act.mapFault (atStage fun _ => .discard) (onLine link.discardInput)
  Act.mapFault (atStage fun _ => .write) (onLine (link.writeAll packet))

theorem writePacket_ok (link : Link σ) {packet : Packet}
    (fills : request.Fills image)
    (made : request.packet bus.writeBuffer.length motorId image =
      .ok packet) :
    (writePacket link motorId request.code
        (.integer request.parameterCount) request.fill).run bus =
      let outcome :=
        (transmit link packet.encode).run (bus.prepared packet)
      ⟨outcome.result, outcome.state,
        .sendingPacket packet.encode :: outcome.notes⟩ := by
  rw [writePacket, Act.run_bind, prepare_ok fills made]
  rfl

theorem writePacket_error (link : Link σ) {fault : Fault}
    (fills : request.Fills image)
    (refused : request.packet bus.writeBuffer.length motorId image =
      .error fault) :
    ∃ left : Bytes, left.length = bus.writeBuffer.length ∧
      (writePacket link motorId request.code
          (.integer request.parameterCount) request.fill).run bus =
        ⟨.error fault, { bus with writeBuffer := left }, []⟩ := by
  obtain ⟨left, lengthEq, run⟩ := prepare_error fills refused
  refine ⟨left, lengthEq, ?_⟩
  rw [writePacket, Act.run_bind, run]
  rfl

theorem transmit_undiscarded {bus : Bus MemoryLine} (discipline : Discipline)
    (packet : Bytes) {error : DeviceError}
    (fails : bus.line.failures.discard = some error) :
    (transmit (MemoryLine.link discipline) packet).run bus =
      ⟨.error (atStage (fun _ => .discard) (.device error)), bus, []⟩ := by
  simp [transmit, onLine, MemoryLine.link, MemoryLine.discardInput_run, fails]

theorem transmit_discarded {bus : Bus MemoryLine} (discipline : Discipline)
    (packet : Bytes) (discards : bus.line.failures.discard = none) :
    (transmit (MemoryLine.link discipline) packet).run bus =
      let outcome := (MemoryLine.writeAll discipline packet).run
        { bus.line with discards := bus.line.discards + 1, input := [] }
      ⟨outcome.result.mapError (atStage fun _ => .write),
        { bus with line := outcome.state }, outcome.notes⟩ := by
  simp [transmit, onLine, MemoryLine.link, MemoryLine.discardInput_run,
    discards]

theorem transmit_unwritten {bus : Bus MemoryLine} (discipline : Discipline)
    (packet : Bytes) {error : DeviceError}
    (discards : bus.line.failures.discard = none)
    (fails : bus.line.failures.write = some error) :
    (transmit (MemoryLine.link discipline) packet).run bus =
      ⟨.error (atStage (fun _ => .write) (.device error)),
        { bus with line :=
          { bus.line with
            clock := bus.line.resumed discipline
            discards := bus.line.discards + 1
            input := [] } }, []⟩ := by
  rw [transmit_discarded discipline packet discards]
  simp [MemoryLine.writeAll_run, fails, MemoryLine.resumed]

theorem transmit_run {bus : Bus MemoryLine} (discipline : Discipline)
    {packet answer : Bytes} {motors : List Motor} {notes : List Note}
    (discards : bus.line.failures.discard = none)
    (writes : bus.line.failures.write = none)
    (answers :
      Motor.answers packet bus.line.motors = ⟨.ok answer, motors, notes⟩) :
    (transmit (MemoryLine.link discipline) packet).run bus =
      ⟨.ok (), { bus with line :=
        { bus.line with
          clock := bus.line.resumed discipline
          written := bus.line.written ++ [packet]
          discards := bus.line.discards + 1
          input := bus.line.replies ++ answer
          replies := []
          motors := motors } }, notes⟩ := by
  rw [transmit_discarded discipline packet discards]
  simp [MemoryLine.writeAll_run, writes, answers, MemoryLine.resumed,
    Except.map, Except.toOption]

end Bus

end ActuatorBus
