import ActuatorBus.Proofs.Bus.Verdict
import ActuatorBus.Proofs.Packet.Sealing

/-!
# Corrupted replies

A reply with one byte replaced is never accepted by an operation that knows
how many parameters its reply has. Whatever is accepted is sealed and has as
many bytes as the whole reply, so it would be the whole reply; but a seal does
not survive the replacement.
-/

namespace ActuatorBus

namespace Stream

variable {capacity size : Nat} {live packet : Bytes}

theorem Complete.seals (announcement : Complete capacity live size)
    (accepted : Event.ofMessage (live.take size) = .packet packet) :
    Packet.Sealed (live.take size) ∧ packet.length + 1 = size := by
  obtain ⟨sender, length, error, parameters, received, messageEq⟩ :=
    announcement.message_eq
  have sizeEq : (live.take size).length = size :=
    List.length_take_of_le announcement.complete
  have split :
      live.take size =
        (Packet.headerByte :: Packet.headerByte :: sender :: length ::
          error :: parameters) ++ [received] := messageEq
  rw [split, List.length_append, List.length_singleton] at sizeEq
  simp only [split, Event.ofMessage_concat] at accepted
  by_cases correct : received = Packet.checksum
      ((Packet.headerByte :: Packet.headerByte :: sender :: length ::
        error :: parameters).drop Packet.idPosition)
  · rw [if_pos correct, Event.packet.injEq] at accepted
    subst accepted correct
    rw [split]
    exact ⟨⟨sender :: length :: error :: parameters, rfl⟩, sizeEq⟩
  · rw [if_neg correct] at accepted
    cases accepted

/-- A packet that comes first out of a stream is there as a sealed message. -/
theorem sealed_of_firstEvent (room : Packet.headerSize ≤ capacity)
    {bytes : Bytes}
    (first : firstEvent capacity bytes = some (.packet packet)) :
    ∃ before message later, bytes = before ++ (message ++ later) ∧
      Packet.Sealed message ∧ message.length = packet.length + 1 := by
  rw [firstEvent_skip] at first
  rcases announced_cases room (start_drop_start bytes) with
    ⟨_, decodeEq, _⟩ | ⟨size, _, complete⟩ | ⟨required, _, refused⟩
  · rw [firstEvent, decodeEq] at first
    cases first
  · rw [complete.firstEvent_eq, Option.some.injEq] at first
    obtain ⟨whole, sizeEq⟩ := complete.seals first
    refine ⟨bytes.take (start bytes), _,
      (bytes.drop (start bytes)).drop size, ?_, whole, ?_⟩
    · rw [List.take_append_drop, List.take_append_drop]
    · rw [List.length_take_of_le complete.complete, sizeEq]
  · rw [refused.firstEvent_eq] at first
    cases first

theorem sealed_of_long_packet (room : Packet.headerSize ≤ capacity)
    {bytes : Bytes}
    (first : firstEvent capacity bytes = some (.packet packet))
    (long : bytes.length ≤ packet.length + 1) : Packet.Sealed bytes := by
  obtain ⟨before, message, later, rfl, whole, lengthEq⟩ :=
    sealed_of_firstEvent room first
  simp only [List.length_append, lengthEq] at long
  have nothingBefore : before = [] := List.length_eq_zero_iff.1 (by omega)
  have nothingLater : later = [] := List.length_eq_zero_iff.1 (by omega)
  rw [nothingBefore, nothingLater, List.append_nil]
  exact whole

end Stream

namespace Operation

/-- The operations on registers, with the number of parameters that a motor
answers them with. -/
inductive Answered : Operation → Nat → Prop where
  | read (motorId : Value) (register : Register) :
    Answered (.read motorId register) register.width
  | write (motorId : Value) (register : Register) (value : Value) :
    Answered (.write motorId register value) 0
  | multiWrite (motorId : Value) (entries : List WriteEntry) :
    Answered (.multiWrite motorId entries) 0

variable {operation : Operation} {count : Nat}

theorem Answered.typed (answered : operation.Answered count) :
    operation.Typed := by
  cases answered with
  | read motorId register => exact .read motorId register
  | write motorId register value => exact .write motorId register value
  | multiWrite motorId entries => exact .multiWrite motorId entries

theorem Answered.count_eq (answered : operation.Answered count) :
    count = operation.readRegister.elim 0 Register.width := by
  cases answered <;> rfl

theorem Answered.count_le (answered : operation.Answered count) :
    count ≤ 4 := by
  cases answered with
  | read motorId register => exact register.width_le
  | write motorId register value => exact Nat.zero_le 4
  | multiWrite motorId entries => exact Nat.zero_le 4

end Operation

namespace Bus

open ActuatorBus.Stream (Event firstEvent)

/-- The faults with which a reply is refused or missed. -/
inductive Refusal : Fault → Prop where
  | missed : Refusal (.line .deadline .readTimedOut)
  | badChecksum (message computed : Nat) :
    Refusal (.invalidChecksum message computed)
  | foreign (sender : Nat) (id : UInt8) :
    Refusal (.invalidPacketId sender (some (id.toNat : Int)))
  | failed (flags : ErrorFlags) : Refusal (.motorError flags)
  | miscounted (count width : Nat) :
    Refusal (.invalidParameterCount count ⟨.exactly, width⟩)
  | tooSmall (required capacity : Nat) :
    Refusal (.bufferTooSmall required capacity)

variable {id : UInt8} {register : Option Register} {event : Option Event}

theorem Verdict.refusal {fault : Fault}
    (verdict : Verdict id register event (.error fault)) : Refusal fault := by
  cases verdict with
  | silence => exact .missed
  | tooSmall required capacity => exact .tooSmall required capacity
  | badChecksum received computed => exact .badChecksum _ _
  | foreign sender length error parameters different => exact .foreign _ _
  | refused length error parameters failed => exact .failed _
  | miscounted length error parameters reads succeeded miscounted =>
      exact .miscounted _ _

theorem Verdict.accepted {response : Response}
    (verdict : Verdict id register event (.ok response)) :
    ∃ packet, event = some (.packet packet) ∧
      Packet.parametersPosition + register.elim 0 Register.width ≤
        packet.length := by
  cases verdict with
  | value length error parameters reads succeeded counted =>
      subst reads
      refine ⟨_, rfl, ?_⟩
      simp only [Option.elim_some, List.length_cons, counted,
        Packet.parametersPosition]
      omega
  | raw length error parameters reads succeeded =>
      subst reads
      refine ⟨_, rfl, ?_⟩
      simp only [Option.elim_none, List.length_cons,
        Packet.parametersPosition]
      omega

/-- A reply to an operation on registers in which one byte was replaced by
another is refused, whichever byte it is. -/
theorem perform_refuses_corrupted {discipline : Discipline}
    {bus : Bus MemoryLine}
    (reachable : Reachable (MemoryLine.link discipline) bus)
    (unattended : bus.line.motors = []) (works : bus.line.failures = .none)
    (chunked : bus.line.Chunked) (timed : bus.Timed)
    {operation : Operation} {count : Nat}
    (answered : operation.Answered count) {id : UInt8}
    (single : (id.toNat : Int) ≠ broadcastId)
    (builds : bus.Builds operation id)
    {error : UInt8} {payload reply : Bytes} (counted : payload.length = count)
    (replies : Packet.status (.integer id.toNat) (.integer error.toNat)
      payload = .ok reply)
    {position : Nat} {byte : UInt8} (inside : position < reply.length)
    (different : reply[position]? ≠ some byte)
    (queued : bus.line.replies = reply.set position byte) :
    ∃ fault, Refusal fault ∧
      ((perform (MemoryLine.link discipline) operation).run bus).result =
        .error fault := by
  have countable :
      (payload.length : Int) + 2 ≤ Packet.maximumLength := by
    have few := answered.count_le
    simp only [Packet.maximumLength]
    omega
  rw [Packet.status_eq id error countable, Except.ok.injEq] at replies
  subst replies
  have room : Packet.headerSize ≤ bus.reader.capacity :=
    Nat.le_trans (by decide) reachable.ready.room
  obtain ⟨verdict, decided, resultEq⟩ :=
    perform_verdict reachable unattended works chunked timed answered.typed
      single builds
  rw [resultEq]
  cases verdict with
  | error fault => exact ⟨fault, decided.refusal, rfl⟩
  | ok response =>
      obtain ⟨packet, first, long⟩ := decided.accepted
      have whole : Packet.Sealed bus.line.replies := by
        apply Stream.sealed_of_long_packet room first
        rw [queued, List.length_set, Packet.length_encode, counted,
          answered.count_eq, Packet.minimumSize]
        simp only [Packet.parametersPosition] at long
        omega
      rw [queued] at whole
      have found := List.getElem?_eq_getElem inside
      have same :=
        (Packet.sealed_encode ⟨id, error, payload⟩).eq_of_set found whole
      rw [found, same] at different
      exact absurd rfl different

/-- A bus on whose line the reply of motor 1 to the reading of two bytes is
queued with another length, so that it announces a shorter message. -/
def shortened : Bus MemoryLine where
  line :=
    { MemoryLine.create (.integer 57600) .nothing [] with
      replies :=
        (Packet.mk 1 0 [0x2A, 1]).encode.set Packet.lengthPosition 3 }
  reader := ⟨List.replicate 12 0, 0, 0, 0⟩
  writeBuffer := [0xFF, 0xFF, 0, 0, 0, 0, 0, 0]
  baudRate := .integer 57600
  timeoutMargin := .real .zero

theorem perform_refuses_corrupted_length :
    ∃ fault, Refusal fault ∧
      ((perform (MemoryLine.link .blocking)
        (.read (.integer 1) twoBytes)).run shortened).result =
          .error fault := by
  have started :
      Bus.start (MemoryLine.link .blocking) shortened.line
        ⟨.integer 12, .integer 8, .integer 57600, .real .zero⟩ =
          .ok shortened := by
    rfl
  have timed : shortened.Timed :=
    ⟨⟨.integer 57600, rfl, rfl⟩, ⟨.real .zero, .zero, rfl, rfl⟩⟩
  have builds : shortened.Builds (.read (.integer 1) twoBytes) 1 := by
    refine ⟨_, (Packet.mk 1 Instruction.readStatus.code [7]).encode, rfl, ?_⟩
    rfl
  have replies :
      Packet.status (.integer (1 : UInt8).toNat) (.integer (0 : UInt8).toNat)
        [0x2A, 1] = .ok (Packet.mk 1 0 [0x2A, 1]).encode :=
    Packet.status_eq 1 0 (by decide)
  have inside : 3 < (Packet.mk 1 0 [0x2A, 1]).encode.length := by decide
  have different :
      (Packet.mk 1 0 [0x2A, 1]).encode[3]? ≠ some 3 := by decide
  exact
    perform_refuses_corrupted (.start started) rfl rfl (Or.inl rfl) timed
      (.read _ twoBytes) (by decide) builds rfl replies inside different rfl

end Bus

end ActuatorBus
