import ActuatorBus.Bus.Operation
import ActuatorBus.Coroutine

/-!
# Suspending buses

The exchanges and operations of a bus that gives way to others while its line
writes or waits for input. They are coroutines, and written apart from those of
a blocking bus. Both kinds of bus share what needs no call that takes time: how
an instruction is prepared, how the reader works and how a packet is judged.
-/

namespace ActuatorBus

variable {σ : Type}

/-- What a link does for a bus that waits for a call. -/
def Link.serve (link : Link σ) : (call : LineCall) → Act (Bus σ) call.Answer
  | .writeAll packet => Bus.onLine (link.writeAll packet)
  | .read space deadline => Bus.onLine (link.read space deadline)

namespace AsyncBus

open Coroutine (act awaitRead awaitWrite)

variable (link : Link σ)

/-! ## Exchanges -/

def writePacket (motorId code parameterCount : Value)
    (fill : Option Filler) : Coroutine (Bus σ) Unit := do
  let packet ← act (Bus.prepare motorId code parameterCount fill)
  Coroutine.mapFault (Bus.atStage fun _ => .discard)
    (act (Bus.onLine link.discardInput))
  Coroutine.mapFault (Bus.atStage fun _ => .write) (awaitWrite packet)

/-- Looks for a message. Gives its size if it is complete, else waits for more
bytes from the line. -/
def awaitMessage (deadline : Double) : Coroutine (Bus σ) (Option Nat) := do
  match ← act (Bus.onReader Reader.poll) with
  | some size => return some size
  | none =>
    let space := (← act .get).reader.unfilled
    let bytes ←
      Coroutine.mapFault (Bus.atStage Bus.readStage) (awaitRead space deadline)
    act (Bus.onReader (Reader.receive bytes))
    return none

/-- Reads the next packet, without its checksum. -/
def readPacket (deadline : Double) : Coroutine (Bus σ) Bytes := do
  let patience := link.patience (← act .get).line
  let size ← Coroutine.untilSome (patience + 1) (awaitMessage deadline)
  act (Bus.onReader (Reader.take size))

def readResponse (expected expectedId : Value) :
    Coroutine (Bus σ) Response := do
  let bus ← act .get
  let timeout ← act (.ofExcept (bus.responseTimeout expected))
  let packet ← readPacket link (link.deadline bus.line timeout)
  act (Response.ofPacket packet expectedId)

/-- Sends an instruction and reads the reply. The broadcast id gets none. -/
def transfer (motorId code parameterCount expected : Value)
    (fill : Option Filler) : Coroutine (Bus σ) (Option Response) := do
  writePacket link motorId code parameterCount fill
  if motorId.same (.integer broadcastId) then return none
  return some (← readResponse link expected motorId)

/-! ## Operations -/

/-- Sends a request and reads the reply. -/
def request (motorId : Value) (request : Request) :
    Coroutine (Bus σ) (Option Response) :=
  transfer link motorId request.code (.integer request.parameterCount)
    request.expected request.fill

def ping (motorId : Value) : Coroutine (Bus σ) (Option Response) := do
  act (.ofExcept (Request.checkAddressable motorId))
  request link motorId (.bare .ping Request.pingParameters)

def read (motorId : Value) (register : Register) :
    Coroutine (Bus σ) (Option Response) := do
  act (.ofExcept (Request.checkAddressable motorId))
  let asked ← act (.ofExcept (Request.read register))
  match ← request link motorId asked with
  | none => return none
  | some response =>
    return some (← act (.ofExcept (response.decode register)))

def write (motorId : Value) (register : Register) (value : Value) :
    Coroutine (Bus σ) (Option Response) := do
  request link motorId
    (← act (.ofExcept (Request.write register value)))

def multiWrite (motorId : Value) (entries : List WriteEntry) :
    Coroutine (Bus σ) (Option Response) := do
  request link motorId (← act (.ofExcept (Request.writeAll entries)))

def saveConfig (motorId : Value) : Coroutine (Bus σ) Unit :=
  writePacket link motorId (.integer Instruction.saveConfig.code.toNat)
    (.integer 0) none

def readRaw (motorId code address length : Value) :
    Coroutine (Bus σ) (Option Response) := do
  act (.ofExcept (Request.checkAddressable motorId))
  request link motorId (.readRaw code address length)

/-- Writes items, which have to be bytes, at an address. -/
def writeItems (motorId code address : Value) (items : List Value) :
    Coroutine (Bus σ) Unit :=
  writePacket link motorId code (.integer (items.length + 1))
    (some (Filler.items address items))

def writeRaw (motorId code address : Value) (bytes : Bytes) :
    Coroutine (Bus σ) Unit :=
  writeItems link motorId code address
    (bytes.map fun b => .integer b.toNat)

def perform : Operation → Coroutine (Bus σ) (Option Response)
  | .ping motorId => ping link motorId
  | .read motorId register => read link motorId register
  | .write motorId register value => write link motorId register value
  | .multiWrite motorId entries => multiWrite link motorId entries
  | .saveConfig motorId => do
    saveConfig link motorId
    return none
  | .readRaw motorId code address length =>
    readRaw link motorId code address length
  | .writeRaw motorId code address bytes => do
    writeRaw link motorId code address bytes
    return none
  | .readResponse expected expectedId => do
    return some (← readResponse link expected expectedId)
  | .setBaudRate baudRate => do
    act (Bus.setBaudRate link baudRate)
    return none
  | .writePacket motorId code parameterCount parameters => do
    writePacket link motorId code parameterCount
      (parameters.map Filler.putAll)
    return none
  | .transfer motorId code parameterCount expected parameters =>
    transfer link motorId code parameterCount expected
      (parameters.map Filler.putAll)

end AsyncBus

namespace Discipline

variable (link : Link σ)

/-- Reads a packet as a bus of the discipline does. -/
def readPacket (deadline : Double) : Discipline → Act (Bus σ) Bytes
  | blocking => Bus.readPacket link deadline
  | suspending => (AsyncBus.readPacket link deadline).complete link.serve

/-- Performs an operation as a bus of the discipline does. -/
def perform (operation : Operation) :
    Discipline → Act (Bus σ) (Option Response)
  | blocking => Bus.perform link operation
  | suspending => (AsyncBus.perform link operation).complete link.serve

/-- Writes items at an address as a bus of the discipline does. -/
def writeItems (motorId code address : Value) (items : List Value) :
    Discipline → Act (Bus σ) Unit
  | blocking => Bus.writeItems link motorId code address items
  | suspending =>
    (AsyncBus.writeItems link motorId code address items).complete link.serve

end Discipline

end ActuatorBus
