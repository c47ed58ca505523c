import ActuatorBus.Bus.Basic
import ActuatorBus.Response

/-!
# Exchanges

An exchange is one instruction and at most one reply. The instruction is
written into the buffer before the line is touched, so that a bad value fails
early. Then the reader forgets what it holds and the line discards its input:
a reply to an earlier instruction must not be taken for the reply to this
one.
-/

namespace ActuatorBus.Bus

variable {σ : Type} (link : Link σ)

/-- The fault of a line at a stage of an exchange. -/
def atStage (stage : DeviceError → Stage) : Fault → Fault
  | .device error =>
    if error.concernsLine then .line (stage error) error else .device error
  | fault => fault

/-- The stage of a failed read. -/
def readStage (error : DeviceError) : Stage :=
  if error.isTimeout then .deadline else .read

/-- Writes an instruction into the buffer, forgets buffered input, and gives
the bytes to send. -/
def prepare (motorId code parameterCount : Value)
    (fill : Option Filler) : Act (Bus σ) Bytes := do
  let size ←
    onWriteBuffer (Packet.write motorId code parameterCount fill)
  onReader Reader.reset
  let packet := (← Act.get).writeBuffer.take size
  Act.note (.sendingPacket packet)
  return packet

/-- Sends an instruction, after discarding all input. -/
def writePacket (motorId code parameterCount : Value)
    (fill : Option Filler) : Act (Bus σ) Unit := do
  let packet ← prepare motorId code parameterCount fill
  Act.mapFault (atStage fun _ => .discard) (onLine link.discardInput)
  Act.mapFault (atStage fun _ => .write) (onLine (link.writeAll packet))

/-- One step of reading a packet: the packet if it is complete, else more
bytes from the line. -/
def readStep (deadline : Double) : Act (Bus σ) (Option Bytes) := do
  match ← onReader Reader.poll with
  | some size => return some (← onReader (Reader.take size))
  | none =>
    let space := (← Act.get).reader.unfilled
    let bytes ←
      Act.mapFault (atStage readStage) (onLine (link.read space deadline))
    onReader (Reader.receive bytes)
    return none

/-- Reads the next packet, without its checksum. -/
def readPacket (deadline : Double) : Act (Bus σ) Bytes := do
  let patience := link.patience (← Act.get).line
  Act.untilSome (patience + 1) (readStep link deadline)

/-- Reads a reply, which is expected to come from the given motor if there is
one. -/
def readResponse (expected expectedId : Value) :
    Act (Bus σ) Response := do
  let bus ← Act.get
  let timeout ← Act.ofExcept (bus.responseTimeout expected)
  let packet ← readPacket link (link.deadline bus.line timeout)
  Response.ofPacket packet expectedId

/-- Sends an instruction and reads the reply. The broadcast id gets none. -/
def transfer (motorId code parameterCount expected : Value)
    (fill : Option Filler) : Act (Bus σ) (Option Response) := do
  writePacket link motorId code parameterCount fill
  if motorId.same (.integer broadcastId) then return none
  return some (← readResponse link expected motorId)

end ActuatorBus.Bus
