import ActuatorBus.Line.Link
import ActuatorBus.Motor

/-!
# Lines in memory

A line without a device. Bytes are readable at once (`input`), or after the
next write (`replies`), and simulated motors answer what is written.
-/

namespace ActuatorBus

structure MemoryLine where
  clock : Double
  baudRate : Value
  /-- The most bytes that a single read gives. -/
  chunkSize : Value
  /-- What can be read now. -/
  input : Bytes
  /-- What can be read after the next write. -/
  replies : Bytes
  /-- What was written, oldest first. -/
  written : List Bytes
  discards : Nat
  failures : LineFailures
  motors : List Motor
  closed : Bool
deriving DecidableEq, Repr

namespace MemoryLine

def create (baudRate chunkSize : Value) (motors : List Motor) :
    MemoryLine where
  clock := .zero
  baudRate := baudRate
  chunkSize := chunkSize
  input := []
  replies := []
  written := []
  discards := 0
  failures := .none
  motors := motors
  closed := false

def wait (seconds : Double) : Act MemoryLine Unit :=
  Act.modify fun line => { line with clock := line.clock.add seconds }

def sleep (seconds : Number) : Act MemoryLine Unit := do
  wait (← Act.ofExcept seconds.toDouble)

/-- Makes bytes readable now. -/
def feed (bytes : Bytes) (line : MemoryLine) : MemoryLine :=
  { line with input := line.input ++ bytes }

/-- Makes bytes readable after the next write. -/
def queueReply (bytes : Bytes) (line : MemoryLine) : MemoryLine :=
  { line with replies := line.replies ++ bytes }

def motor (id : Value) : Act MemoryLine Motor := do
  let entries := (← Act.get).motors.map fun motor => (motor.key, motor)
  Act.ofExcept (id.lookup entries)

def onMotor {α : Type} (id : Value) (action : Act Motor α) :
    Act MemoryLine α := do
  let motor ← motor id
  Act.on (fun _ => motor)
    (fun motor line =>
      { line with
        motors := line.motors.map fun other =>
          if other.key.same id then motor else other })
    action

/-- Forgets what can be read. -/
def discardInput : Act MemoryLine Unit := do
  Act.failOn (← Act.get).failures.discard
  Act.modify fun line =>
    { line with discards := line.discards + 1, input := [] }

/-- Writes bytes; the queued replies and then the answers of the motors become
readable. -/
def send (bytes : Bytes) : Act MemoryLine Unit := do
  Act.failOn (← Act.get).failures.write
  Act.modify fun line =>
    { line with
      written := line.written ++ [bytes]
      input := line.input ++ line.replies
      replies := [] }
  let answer ← Act.on MemoryLine.motors
    (fun motors line => { line with motors := motors })
    (Motor.respondAll bytes)
  Act.modify (feed answer)

/-- Takes bytes that can be read: as many as there is room for, or as the
chunk size says if that is less. -/
def receive (space : Nat) : Act MemoryLine Bytes := do
  let line ← Act.get
  let available := min line.input.length space
  let count ←
    match line.chunkSize with
    | .nothing => pure available
    | chunk => do
      if ← Act.ofExcept (chunk.less (.integer available)) then
        pure (← Act.ofExcept chunk.needCount).toNat
      else pure available
  Act.set { line with input := line.input.drop count }
  return line.input.take count

/-- Reads bytes; if there are none, the deadline passes. -/
def readBlocking (space : Nat) (deadline : Double) : Act MemoryLine Bytes := do
  let line ← Act.get
  Act.failOn line.failures.read
  if line.input.isEmpty then
    let delay := deadline.sub line.clock
    if Double.zero.lt delay then wait delay
    Act.fail (.device .readTimedOut)
  else receive space

/-- Reads bytes after giving way; if there are none, the deadline passes. -/
def readSuspending (space : Nat) (deadline : Double) :
    Act MemoryLine Bytes := do
  let line ← Act.get
  Act.failOn line.failures.read
  if line.input.isEmpty then
    let delay := deadline.sub line.clock
    if Double.zero.lt delay then wait delay
    Act.fail (.device .readTimedOut)
  else
    wait .zero
    receive space

def read : Discipline → (space : Nat) → (deadline : Double) →
    Act MemoryLine Bytes
  | .blocking => readBlocking
  | .suspending => readSuspending

def writeAll (discipline : Discipline) (bytes : Bytes) :
    Act MemoryLine Unit := do
  match discipline with
  | .blocking => send bytes
  | .suspending => do
    wait .zero
    send bytes

/-- The operations of a line in memory. Every read takes a byte or ends the
attempt, so that there are no more reads than bytes, and one. -/
def link (discipline : Discipline) : Link MemoryLine where
  now := clock
  baudRate := baudRate
  setBaudRate rate line := { line with baudRate := rate }
  discardInput := discardInput
  writeAll := writeAll discipline
  read := read discipline
  close := Act.modify fun line => { line with closed := true }
  patience line := line.input.length + 1

end MemoryLine

end ActuatorBus
