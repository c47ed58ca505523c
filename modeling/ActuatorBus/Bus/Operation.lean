import ActuatorBus.Bus.Exchange
import ActuatorBus.Bus.Request

/-!
# Operations

What can be asked of the motors on a bus. Each operation is one instruction;
all but saving and raw writing read the reply to it, unless it went to
all motors at once.
-/

namespace ActuatorBus

namespace Bus

variable {σ : Type} (link : Link σ)

/-- Sends a request and reads the reply. -/
def request (motorId : Value) (request : Request) :
    Act (Bus σ) (Option Response) :=
  transfer link motorId request.code (.integer request.parameterCount)
    request.expected request.fill

/-- Asks whether a motor is there. -/
def ping (motorId : Value) : Act (Bus σ) (Option Response) := do
  Act.ofExcept (Request.checkAddressable motorId)
  request link motorId (.bare .ping Request.pingParameters)

/-- Reads a register; the response carries its value. -/
def read (motorId : Value) (register : Register) :
    Act (Bus σ) (Option Response) := do
  Act.ofExcept (Request.checkAddressable motorId)
  let asked ← Act.ofExcept (Request.read register)
  match ← request link motorId asked with
  | none => return none
  | some response => return some (← Act.ofExcept (response.decode register))

/-- Writes a register and reads the reply. -/
def write (motorId : Value) (register : Register) (value : Value) :
    Act (Bus σ) (Option Response) := do
  request link motorId (← Act.ofExcept (Request.write register value))

/-- Writes several registers of a motor with one instruction. -/
def multiWrite (motorId : Value) (entries : List WriteEntry) :
    Act (Bus σ) (Option Response) := do
  request link motorId (← Act.ofExcept (Request.writeAll entries))

/-- Makes the config registers of a motor persist. -/
def saveConfig (motorId : Value) : Act (Bus σ) Unit :=
  writePacket link motorId (.integer Instruction.saveConfig.code.toNat)
    (.integer 0) none

def readRaw (motorId code address length : Value) :
    Act (Bus σ) (Option Response) := do
  Act.ofExcept (Request.checkAddressable motorId)
  request link motorId (.readRaw code address length)

/-- Writes items, which have to be bytes, at an address. The reply, if there is
one, is left to `readResponse`. -/
def writeItems (motorId code address : Value) (items : List Value) :
    Act (Bus σ) Unit :=
  writePacket link motorId code (.integer (items.length + 1))
    (some (Filler.items address items))

/-- Writes bytes at an address. -/
def writeRaw (motorId code address : Value) (bytes : Bytes) :
    Act (Bus σ) Unit :=
  writeItems link motorId code address
    (bytes.map fun b => .integer b.toNat)

end Bus

inductive Operation where
  | ping (motorId : Value)
  | read (motorId : Value) (register : Register)
  | write (motorId : Value) (register : Register) (value : Value)
  | multiWrite (motorId : Value) (entries : List WriteEntry)
  | saveConfig (motorId : Value)
  | readRaw (motorId code address length : Value)
  | writeRaw (motorId code address : Value) (bytes : Bytes)
  | readResponse (expected expectedId : Value)
  | setBaudRate (baudRate : Value)
  /-- Writes given parameters, or those that the buffer holds. -/
  | writePacket (motorId code parameterCount : Value)
    (parameters : Option Bytes)
  | transfer (motorId code parameterCount expected : Value)
    (parameters : Option Bytes)
deriving DecidableEq, Repr

/-- Performs an operation. It may have no response even if it succeeds. -/
def Bus.perform {σ : Type} (link : Link σ) :
    Operation → Act (Bus σ) (Option Response)
  | .ping motorId => ping link motorId
  | .read motorId register => read link motorId register
  | .write motorId register value => write link motorId register value
  | .multiWrite motorId entries => multiWrite link motorId entries
  | .saveConfig motorId => do
    saveConfig link motorId
    return none
  | .readRaw motorId code address length =>
    readRaw link motorId code address length
  | .writeRaw motorId code address bytes => do
    writeRaw link motorId code address bytes
    return none
  | .readResponse expected expectedId => do
    return some (← readResponse link expected expectedId)
  | .setBaudRate baudRate => do
    setBaudRate link baudRate
    return none
  | .writePacket motorId code parameterCount parameters => do
    writePacket link motorId code parameterCount
      (parameters.map Filler.putAll)
    return none
  | .transfer motorId code parameterCount expected parameters =>
    transfer link motorId code parameterCount expected
      (parameters.map Filler.putAll)

end ActuatorBus
