import ActuatorBus.Proofs.Bus.Exchanging
import ActuatorBus.Proofs.Bus.Reachable
import ActuatorBus.Proofs.Register.Codec

/-!
# Verdicts

What comes of an operation on one motor is decided by the first event of the
reply. `Verdict` lists what there can be, with the order of the checks: the
sender, then its errors, then the number of parameters.
-/

namespace ActuatorBus

/-! ## What there can be -/

namespace Bus

open ActuatorBus.Stream (Event firstEvent)

/-- What comes of an operation on a motor, of which a register was read or
none, from the first event of the reply. -/
inductive Verdict (id : UInt8) (register : Option Register) :
    Option Event → Except Fault Response → Prop where
  | silence :
    Verdict id register none (.error (.line .deadline .readTimedOut))
  | tooSmall (required capacity : Nat) :
    Verdict id register (some (.tooSmall required capacity))
      (.error (.bufferTooSmall required capacity))
  | badChecksum (received computed : UInt8) :
    Verdict id register (some (.badChecksum received computed))
      (.error (.invalidChecksum received.toNat computed.toNat))
  | foreign (sender length error : UInt8) (parameters : Bytes)
    (different : sender ≠ id) :
    Verdict id register
      (some (.packet (Packet.headerByte :: Packet.headerByte :: sender ::
        length :: error :: parameters)))
      (.error (.invalidPacketId sender.toNat (some (id.toNat : Int))))
  | refused (length error : UInt8) (parameters : Bytes)
    (failed : error.toNat &&& ErrorFlags.errorMask ≠ 0) :
    Verdict id register
      (some (.packet (Packet.headerByte :: Packet.headerByte :: id ::
        length :: error :: parameters)))
      (.error (.motorError ⟨error.toNat &&& ErrorFlags.definedMask⟩))
  | miscounted (length error : UInt8) (parameters : Bytes)
    {given : Register} (reads : register = some given)
    (succeeded : error.toNat &&& ErrorFlags.errorMask = 0)
    (miscounted : parameters.length ≠ given.width) :
    Verdict id register
      (some (.packet (Packet.headerByte :: Packet.headerByte :: id ::
        length :: error :: parameters)))
      (.error (.invalidParameterCount parameters.length
        ⟨.exactly, given.width⟩))
  | value (length error : UInt8) (parameters : Bytes)
    {given : Register} (reads : register = some given)
    (succeeded : error.toNat &&& ErrorFlags.errorMask = 0)
    (counted : parameters.length = given.width) :
    Verdict id register
      (some (.packet (Packet.headerByte :: Packet.headerByte :: id ::
        length :: error :: parameters)))
      (.ok ⟨id.toNat, ErrorFlags.warningOf error,
        .value (.number (given.format.value parameters))⟩)
  | raw (length error : UInt8) (parameters : Bytes)
    (reads : register = none)
    (succeeded : error.toNat &&& ErrorFlags.errorMask = 0) :
    Verdict id register
      (some (.packet (Packet.headerByte :: Packet.headerByte :: id ::
        length :: error :: parameters)))
      (.ok ⟨id.toNat, ErrorFlags.warningOf error, .raw parameters⟩)

end Bus

namespace Operation

/-- The register that an operation reads, if it reads one. -/
def readRegister : Operation → Option Register
  | read _ register => some register
  | _ => none

/-- An operation that knows what its reply should be. -/
inductive Typed : Operation → Prop where
  | ping (motorId : Value) : Typed (.ping motorId)
  | read (motorId : Value) (register : Register) :
    Typed (.read motorId register)
  | write (motorId : Value) (register : Register) (value : Value) :
    Typed (.write motorId register value)
  | multiWrite (motorId : Value) (entries : List WriteEntry) :
    Typed (.multiWrite motorId entries)

end Operation

namespace Bus

open ActuatorBus.Stream (Event firstEvent)

/-- What an operation makes of a reply. -/
def judged (operation : Operation) (id : UInt8) (packet : Bytes) :
    Except Fault Response := do
  operation.conclude (← Response.judge packet (.integer id.toNat))

theorem verdict_packet {operation : Operation} (typed : operation.Typed)
    (id sender length error : UInt8) (parameters : Bytes) :
    Verdict id operation.readRegister
      (some (.packet (Packet.headerByte :: Packet.headerByte :: sender ::
        length :: error :: parameters)))
      (judged operation id (Packet.headerByte :: Packet.headerByte ::
        sender :: length :: error :: parameters)) := by
  rw [judged, Response.judge_fields _ _ _ _ (by simp), checkSameId_integer,
    ErrorFlags.check_known]
  by_cases same : sender = id
  · subst same
    rw [checkPacketId, if_pos rfl, ok_bind]
    by_cases succeeded : error.toNat &&& ErrorFlags.errorMask = 0
    · rw [if_pos succeeded, ok_bind, pure_eq_ok, ok_bind]
      cases typed with
      | read motorId register =>
          rw [Operation.conclude, Response.decode_raw]
          by_cases counted : parameters.length = register.width
          · rw [Register.decode_of_counted counted]
            exact .value length error parameters rfl succeeded counted
          · rw [Register.decode_of_miscounted counted]
            exact .miscounted length error parameters rfl succeeded counted
      | _ => exact .raw length error parameters rfl succeeded
    · rw [if_neg succeeded]
      exact .refused length error parameters succeeded
  · have different : (sender.toNat : Int) ≠ id.toNat := by
      intro equal
      exact same (UInt8.toNat_inj.1 (Int.ofNat_inj.1 equal))
    rw [checkPacketId, if_neg different]
    exact .foreign sender length error parameters same

theorem verdict_event {operation : Operation} (typed : operation.Typed)
    (id : UInt8) {capacity : Nat} (room : Packet.headerSize ≤ capacity)
    (bytes : Bytes) :
    Verdict id operation.readRegister (firstEvent capacity bytes)
      (received (firstEvent capacity bytes) >>= judged operation id) := by
  rw [Stream.firstEvent_skip]
  rcases Stream.announced_cases room (Stream.start_drop_start bytes) with
    ⟨_, decodeEq, _⟩ | ⟨size, _, complete⟩ | ⟨required, _, refused⟩
  · rw [firstEvent, decodeEq]
    exact .silence
  · rw [complete.firstEvent_eq]
    rcases complete.event_eq with
      ⟨received, computed, eventEq⟩ |
        ⟨sender, length, error, parameters, eventEq⟩
    · rw [eventEq]
      exact .badChecksum received computed
    · rw [eventEq]
      exact verdict_packet typed id sender length error parameters
  · rw [refused.firstEvent_eq]
    exact .tooSmall required capacity

end Bus

namespace Operation

/-- The reply to a typed operation has few parameters. -/
theorem Typed.expected_eq {operation : Operation} (typed : operation.Typed)
    {motorId : Value} {request : Request}
    (asks : operation.asked = some (motorId, .ok request)) :
    ∃ expected : Nat, request.expected = .integer expected ∧
      (expected : Int) + 2 ≤ Packet.maximumLength := by
  cases typed with
  | ping motorId =>
      simp only [asked, Option.some.injEq, Prod.mk.injEq] at asks
      obtain ⟨_, _, returned⟩ := bind_eq_ok_iff.1 asks.2
      cases returned
      exact ⟨4, rfl, by decide⟩
  | read motorId register =>
      simp only [asked, Option.some.injEq, Prod.mk.injEq] at asks
      obtain ⟨_, _, made⟩ := bind_eq_ok_iff.1 asks.2
      obtain ⟨_, _, rfl⟩ := Request.read_eq made
      refine ⟨register.width, rfl, ?_⟩
      have narrow := register.width_le
      simp only [Packet.maximumLength]
      omega
  | write motorId register value =>
      simp only [asked, Option.some.injEq, Prod.mk.injEq] at asks
      obtain ⟨_, _, _, rfl⟩ := Request.write_eq asks.2
      exact ⟨0, rfl, by decide⟩
  | multiWrite motorId entries =>
      simp only [asked, Option.some.injEq, Prod.mk.injEq] at asks
      obtain ⟨_, _, _, rfl⟩ := Request.writeAll_eq asks.2
      exact ⟨0, rfl, by decide⟩

theorem Typed.awaitsReply_eq {operation : Operation}
    (typed : operation.Typed) {id : UInt8}
    (single : (id.toNat : Int) ≠ broadcastId)
    {asked : Except Fault Request}
    (asks : operation.asked = some (.integer id.toNat, asked)) :
    operation.awaitsReply = true := by
  cases typed <;>
    (simp only [Operation.asked, Option.some.injEq, Prod.mk.injEq] at asks
     obtain ⟨rfl, _⟩ := asks
     simp [awaitsReply, single])

end Operation

namespace Bus

open ActuatorBus.Stream (firstEvent)

/-- The request of an operation can be built on a bus. -/
def Builds {σ : Type} (bus : Bus σ) (operation : Operation) (id : UInt8) :
    Prop :=
  ∃ request packet,
    operation.asked = some (.integer id.toNat, .ok request) ∧
      ((prepare (.integer id.toNat) request.code
        (.integer request.parameterCount) request.fill).run bus).result =
          .ok packet

/-- On a line that only gives what was queued as the reply, the result of a
typed operation on one motor is the verdict on the first event of that reply,
whatever was received or buffered before. -/
theorem perform_verdict {discipline : Discipline} {bus : Bus MemoryLine}
    (reachable : Reachable (MemoryLine.link discipline) bus)
    (unattended : bus.line.motors = []) (works : bus.line.failures = .none)
    (chunked : bus.line.Chunked) (timed : bus.Timed)
    {operation : Operation} (typed : operation.Typed) {id : UInt8}
    (single : (id.toNat : Int) ≠ broadcastId)
    (builds : bus.Builds operation id) :
    ∃ verdict,
      Verdict id operation.readRegister
        (firstEvent bus.reader.capacity bus.line.replies) verdict ∧
      ((perform (MemoryLine.link discipline) operation).run bus).result =
        verdict.map some := by
  obtain ⟨request, bytes, asks, prepared⟩ := builds
  obtain ⟨image, fills⟩ := Operation.asked_fills asks
  obtain ⟨expected, expects, countable⟩ := typed.expected_eq asks
  have room : Packet.headerSize ≤ bus.reader.capacity :=
    Nat.le_trans (by decide) reachable.ready.room
  have asked : bus.Asked (.integer id.toNat) request [] [] := by
    refine ⟨works, image, ?_⟩
    cases made : request.packet bus.writeBuffer.length
        (.integer id.toNat) image with
    | error fault =>
        obtain ⟨_, _, run⟩ := prepare_error fills made
        rw [run] at prepared
        cases prepared
    | ok packet =>
        exact ⟨packet, [], fills, rfl, by rw [unattended]; rfl⟩
  obtain ⟨final, notes, _, run⟩ :=
    perform_follows discipline asks asked expects countable timed room chunked
  rw [List.append_nil] at run
  refine ⟨_, verdict_event typed id room bus.line.replies, ?_⟩
  rw [run, concluded, if_pos (typed.awaitsReply_eq single asks)]
  cases received (firstEvent bus.reader.capacity bus.line.replies) with
  | error fault => rfl
  | ok bytes =>
      simp only [ok_bind, judged]
      cases Response.judge bytes (.integer id.toNat) with
      | error fault => rfl
      | ok response =>
          simp only [ok_bind]
          cases operation.conclude response <;> rfl

/-- A bus with room for messages of twelve bytes, at a line on which a reply
of motor 1 is queued behind two bytes of noise. The reply has a warning, an
undefined error bit and two parameters. -/
def noisy : Bus MemoryLine where
  line :=
    { MemoryLine.create (.integer 8000000) (.integer 3) [] with
      input := [0xFF, 0xFF, 1]
      replies := [0xFF, 7] ++ (Packet.mk 1 0x82 [0x2A, 1]).encode }
  reader := ⟨List.replicate 12 0, 0, 0, 0⟩
  writeBuffer := [0xFF, 0xFF, 0, 0, 0, 0, 0, 0]
  baudRate := .integer 8000000
  timeoutMargin := .real .zero

/-- A register of two bytes. -/
def twoBytes : Register where
  name := .words "position"
  spelling := "u2"
  format := .unsigned .two
  access := .flag false
  space := some .status
  address := .integer 7

theorem perform_verdict_noisy :
    firstEvent 12 noisy.line.replies =
        some (.packet [0xFF, 0xFF, 1, 4, 0x82, 0x2A, 1]) ∧
      ((perform (MemoryLine.link .blocking)
        (.read (.integer 1) twoBytes)).run noisy).result =
        .ok (some ⟨1, some ⟨2⟩, .value (.integer 298)⟩) := by
  have started :
      Bus.start (MemoryLine.link .blocking) noisy.line
        ⟨.integer 12, .integer 8, .integer 8000000, .real .zero⟩ =
          .ok noisy := by
    rfl
  have timed : noisy.Timed :=
    ⟨⟨.integer 8000000, rfl, rfl⟩, ⟨.real .zero, .zero, rfl, rfl⟩⟩
  have chunked : noisy.line.Chunked := Or.inr ⟨3, by decide, rfl⟩
  have builds : noisy.Builds (.read (.integer 1) twoBytes) 1 := by
    refine ⟨_, (Packet.mk 1 Instruction.readStatus.code [7]).encode, rfl, ?_⟩
    rfl
  have first :
      firstEvent 12 noisy.line.replies =
        some (.packet [0xFF, 0xFF, 1, 4, 0x82, 0x2A, 1]) := by
    decide +kernel
  obtain ⟨verdict, decided, resultEq⟩ :=
    perform_verdict (.start started) rfl rfl chunked timed (.read _ twoBytes)
      (by decide) builds
  change Verdict 1 (some twoBytes) (firstEvent 12 _) verdict at decided
  rw [first] at decided
  refine ⟨first, ?_⟩
  rw [resultEq]
  cases decided with
  | foreign _ _ _ _ different => exact absurd rfl different
  | refused _ _ _ failed => exact absurd rfl failed
  | miscounted _ _ _ reads _ miscounted =>
      cases reads
      exact absurd rfl miscounted
  | raw _ _ _ reads => cases reads
  | value _ _ _ reads =>
      cases reads
      rfl

end Bus

end ActuatorBus
