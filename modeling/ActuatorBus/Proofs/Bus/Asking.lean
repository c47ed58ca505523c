import ActuatorBus.Proofs.Packet.Parameters
import ActuatorBus.Proofs.Runs

/-!
# What operations ask

An operation that starts with an instruction makes a request, sends it, and
looks at the reply to it if there is to be one. `perform_eq` says so for all
of them at once.
-/

namespace ActuatorBus

namespace Operation

/-- The motor that an operation asks first of all, and its request. -/
def asked : Operation → Option (Value × Except Fault Request)
  | ping motorId =>
    some (motorId, do
      Request.checkAddressable motorId
      return .bare .ping Request.pingParameters)
  | read motorId register =>
    some (motorId, do
      Request.checkAddressable motorId
      Request.read register)
  | write motorId register value =>
    some (motorId, Request.write register value)
  | multiWrite motorId entries => some (motorId, Request.writeAll entries)
  | saveConfig motorId =>
    some (motorId, .ok (.bare .saveConfig (.integer 0)))
  | readRaw motorId code address length =>
    some (motorId, do
      Request.checkAddressable motorId
      return .readRaw code address length)
  | writeRaw motorId code address bytes =>
    some (motorId,
      .ok ⟨code, bytes.length + 1, .integer 0,
        some (Filler.data address bytes)⟩)
  | _ => none

/-- Whether an operation waits for the reply to its request. -/
def awaitsReply : Operation → Bool
  | ping motorId | read motorId _ | write motorId _ _
  | multiWrite motorId _ | readRaw motorId _ _ _ =>
    !motorId.same (.integer broadcastId)
  | _ => false

/-- What an operation makes of the response to its request. -/
def conclude : Operation → Response → Except Fault Response
  | read _ register, response => response.decode register
  | _, response => .ok response

/-- What the parameters of the instruction of an operation come to. -/
def image : Operation → Except Fault Bytes
  | read _ register => register.address.needByte.map fun byte => [byte]
  | write _ register value => do
    let address ← register.address.needByte
    (register.image value).map (address :: ·)
  | multiWrite _ entries => WriteEntry.images entries
  | readRaw _ _ address _ => address.needByte.map fun byte => [byte]
  | writeRaw _ _ address bytes => do
    let address ← address.needByte
    return address :: bytes
  | _ => .ok []

theorem asked_fills_image {operation : Operation} {motorId : Value}
    {request : Request}
    (asks : operation.asked = some (motorId, .ok request)) :
    request.Fills operation.image := by
  cases operation with
  | ping given =>
      simp only [asked, Option.some.injEq, Prod.mk.injEq] at asks
      obtain ⟨_, _, returned⟩ := bind_eq_ok_iff.1 asks.2
      cases returned
      exact Request.bare_fills _ _
  | read given register =>
      simp only [asked, Option.some.injEq, Prod.mk.injEq] at asks
      obtain ⟨_, _, made⟩ := bind_eq_ok_iff.1 asks.2
      exact Request.read_fills made
  | write given register value =>
      simp only [asked, Option.some.injEq, Prod.mk.injEq] at asks
      exact Request.write_fills asks.2
  | multiWrite given entries =>
      simp only [asked, Option.some.injEq, Prod.mk.injEq] at asks
      exact Request.writeAll_fills asks.2
  | saveConfig given =>
      cases asks
      exact Request.bare_fills _ _
  | readRaw given code address length =>
      simp only [asked, Option.some.injEq, Prod.mk.injEq] at asks
      obtain ⟨_, _, returned⟩ := bind_eq_ok_iff.1 asks.2
      cases returned
      exact Request.readRaw_fills _ _ _
  | writeRaw given code address bytes =>
      cases asks
      exact ⟨1 + bytes.length, by simp [Int.add_comm],
        Filler.writes_data address bytes⟩
  | readResponse expected expectedId => cases asks
  | setBaudRate baudRate => cases asks
  | writePacket given code parameterCount parameters => cases asks
  | transfer given code parameterCount expected parameters => cases asks

theorem asked_fills {operation : Operation} {motorId : Value}
    {request : Request}
    (asks : operation.asked = some (motorId, .ok request)) :
    ∃ image, request.Fills image :=
  ⟨operation.image, asked_fills_image asks⟩

end Operation

namespace Bus

variable {σ : Type} (link : Link σ)

theorem request_eq (motorId : Value) (request : Request) :
    Bus.request link motorId request = (do
      writePacket link motorId request.code (.integer request.parameterCount)
        request.fill
      if motorId.same (.integer broadcastId) then return none
      return some (← readResponse link request.expected motorId)) := rfl

theorem writeItems_of_bytes (motorId code address : Value)
    {items : List Value} {bytes : Bytes}
    (areBytes : Bytes.ofValues items = .ok bytes) :
    writeItems link motorId code address items =
      writePacket link motorId code (.integer (bytes.length + 1))
        (some (Filler.data address bytes)) := by
  rw [writeItems, Filler.items_of_bytes address areBytes,
    Packet.length_ofValues areBytes]

theorem writeRaw_eq_writePacket (motorId code address : Value)
    (bytes : Bytes) :
    writeRaw link motorId code address bytes =
      writePacket link motorId code (.integer (bytes.length + 1))
        (some (Filler.data address bytes)) :=
  writeItems_of_bytes link motorId code address
    (Packet.ofValues_integers bytes)

theorem perform_eq {operation : Operation} {motorId : Value}
    {asked : Except Fault Request}
    (asks : operation.asked = some (motorId, asked)) :
    perform link operation = (do
      let request ← Act.ofExcept asked
      writePacket link motorId request.code (.integer request.parameterCount)
        request.fill
      if operation.awaitsReply then
        let response ← readResponse link request.expected motorId
        return some (← Act.ofExcept (operation.conclude response))
      else return none) := by
  cases operation with
  | ping given =>
      cases asks
      simp only [perform, ping, request_eq, Operation.awaitsReply,
        Operation.conclude, Act.ofExcept_bind, bind_assoc]
      by_cases everyone : motorId.same (.integer broadcastId) = true <;>
        simp [everyone]
  | read given register =>
      cases asks
      simp only [perform, read, request_eq, Operation.awaitsReply,
        Operation.conclude, Act.ofExcept_bind, bind_assoc]
      by_cases everyone : motorId.same (.integer broadcastId) = true <;>
        simp [everyone]
  | write given register value =>
      cases asks
      simp only [perform, write, request_eq, Operation.awaitsReply,
        Operation.conclude]
      by_cases everyone : motorId.same (.integer broadcastId) = true <;>
        simp [everyone]
  | multiWrite given entries =>
      cases asks
      simp only [perform, multiWrite, request_eq, Operation.awaitsReply,
        Operation.conclude]
      by_cases everyone : motorId.same (.integer broadcastId) = true <;>
        simp [everyone]
  | saveConfig given =>
      cases asks
      rfl
  | readRaw given code address length =>
      cases asks
      simp only [perform, readRaw, request_eq, Operation.awaitsReply,
        Operation.conclude, Act.ofExcept_bind, bind_assoc]
      by_cases everyone : motorId.same (.integer broadcastId) = true <;>
        simp [everyone]
  | writeRaw given code address bytes =>
      cases asks
      rw [perform, writeRaw_eq_writePacket]
      rfl
  | readResponse expected expectedId => cases asks
  | setBaudRate baudRate => cases asks
  | writePacket given code parameterCount parameters => cases asks
  | transfer given code parameterCount expected parameters => cases asks

end Bus

end ActuatorBus
