import ActuatorBus.Bus.ByName
import ActuatorBus.Line.Memory
import ActuatorBus.Proofs.Register.Codec
import ActuatorBus.Proofs.Register.Map
import ActuatorBus.Proofs.Response

/-!
# Fleets

A fleet is what the users of a bus with simulated motors see: motors that have
a number for each register. There are no packets, no buffers and no line. A
call asks one motor, or all of them, to carry out a task.
-/

namespace ActuatorBus

/-- A motor as its users see it. -/
structure Station where
  id : UInt8
  /-- The error byte of its replies. -/
  error : UInt8
  /-- What its registers hold, by their names. -/
  values : AddressSpace → String → Number
  /-- What its config registers held when they were last saved. -/
  saved : String → Number

/-- What an instruction asks a motor to do. -/
inductive Task where
  | ping
  | read (slot : Slot)
  /-- Writes numbers to registers of a space, one after the other. -/
  | write (space : AddressSpace) (entries : List (String × Number))
  | save

namespace Station

/-- What the config registers hold at first. -/
def freshConfig (id : UInt8) (name : String) : Number :=
  .integer (if name = "id" then id.toNat else 0)

/-- A motor that was not written to yet. -/
def fresh (id error : UInt8) : Station where
  id := id
  error := error
  values
    | .config => freshConfig id
    | .status => fun _ => .integer 0
  saved := freshConfig id

/-- The motor with another number in a register. -/
def put (station : Station) (space : AddressSpace) (name : String)
    (value : Number) : Station :=
  { station with
    values := fun other label =>
      if other = space ∧ label = name then value
      else station.values other label }

/-- The motor after a task. -/
def carryOut (station : Station) : Task → Station
  | .ping | .read _ => station
  | .write space entries =>
    entries.foldl (fun station entry => station.put space entry.1 entry.2)
      station
  | .save => { station with saved := station.values .config }

/-- The data of the response to a task, if there is one. A register is read as
what it holds of the number that it has. -/
def data (station : Station) : Task → Except Fault (Option Payload)
  | .ping => .ok (some (.raw Motor.defaultPingData))
  | .read slot => do
    let held := station.values slot.space slot.register.label
    let value ← slot.register.stored (.number held)
    return some (.value (.number value))
  | .write _ _ => .ok (some (.raw []))
  | .save => .ok none

/-- The response to a task, if there is one. -/
def response (station : Station) (task : Task) :
    Except Fault (Option Response) := do
  let data ← station.data task
  return data.map fun data =>
    ⟨station.id.toNat, ErrorFlags.warningOf station.error, data⟩

end Station

/-- The motors of a line, in the order in which they hear of an
instruction. -/
abbrev Fleet := List Station

namespace WriteEntry

/-- The space of the registers of entries, which must be the same for all. -/
def commonSpace : List WriteEntry → Except Fault AddressSpace
  | [] => .error .noEntries
  | first :: rest =>
    if rest.any fun entry =>
        entry.register.space != first.register.space then
      .error .mixedSpaces
    else
      match first.register.space with
      | some space => .ok space
      | none => .error .missingKey

/-- What the register of an entry holds of its bytes. -/
def held (entry : WriteEntry) : Except Fault (String × Number) := do
  let data ← Filler.fitting 4 entry.data
  return (entry.register.label, ← entry.register.decode data)

end WriteEntry

namespace Fleet

/-- Whether an id is the one that all motors listen to. -/
def isEveryone (target : UInt8) : Bool := (target.toNat : Int) == broadcastId

/-- The fleet after a task for one motor or for all. -/
def carryOut (fleet : Fleet) (target : UInt8) (task : Task) : Fleet :=
  fleet.map fun station =>
    if station.id = target ∨ isEveryone target then station.carryOut task
    else station

/-- The response to a task for one motor. There is none if all motors were
asked, or if the task has no reply. A motor that is not there does not reply in
time. -/
def response (fleet : Fleet) (target : UInt8) (task : Task) :
    Except Fault (Option Response) :=
  if isEveryone target then .ok none
  else
    match task, fleet.find? fun station => station.id == target with
    | .save, _ => .ok none
    | _, none => .error (.line .deadline .readTimedOut)
    | task, some station => station.response task

/-- Asks one motor, or all of them, to carry out a task. -/
def ask (target : UInt8) (task : Task) : Act Fleet (Option Response) := do
  let fleet ← Act.get
  Act.set (fleet.carryOut target task)
  Act.ofExcept (fleet.response target task)

/-- The bytes that an instruction has room for. -/
def room : Nat := 128

/-! ## Operations -/

/-- Asks whether a motor is there. -/
def ping (motorId : Value) : Act Fleet (Option Response) := do
  Act.ofExcept (Request.checkAddressable motorId)
  ask (← Act.ofExcept motorId.needByte) .ping

/-- Reads a register. -/
def read (motorId : Value) (slot : Slot) : Act Fleet (Option Response) := do
  Act.ofExcept (Request.checkAddressable motorId)
  ask (← Act.ofExcept motorId.needByte) (.read slot)

/-- Writes a register. -/
def write (motorId : Value) (slot : Slot) (value : Value) :
    Act Fleet (Option Response) := do
  Act.ofExcept slot.register.checkWritable
  let target ← Act.ofExcept motorId.needByte
  let held ← Act.ofExcept (slot.register.stored value)
  ask target (.write slot.space [(slot.register.label, held)])

/-- Writes several registers. -/
def multiWrite (motorId : Value) (entries : List WriteEntry) :
    Act Fleet (Option Response) := do
  let space ← Act.ofExcept (WriteEntry.commonSpace entries)
  Act.ofExcept <| checkBufferSize
    (Packet.size (entries.length * WriteEntry.width)) room
  let target ← Act.ofExcept motorId.needByte
  let held ← Act.ofExcept (entries.mapM WriteEntry.held)
  ask target (.write space held)

/-- Makes the config registers of a motor persist. -/
def saveConfig (motorId : Value) : Act Fleet Unit := do
  let _ ← ask (← Act.ofExcept motorId.needByte) .save

/-- Reads all registers of a space, one after the other. -/
def readAll (motorId : Value) (space : AddressSpace) :
    Act Fleet (List (String × Option Payload)) :=
  (Slot.all space).mapM fun slot => do
    let response ← read motorId slot
    return (slot.register.label, response.map Response.data)

end Fleet

/-! ## Calls -/

/-- What users call. -/
inductive Call where
  | ping (motorId : Value)
  | read (motorId : Value) (slot : Slot)
  | write (motorId : Value) (slot : Slot) (value : Value)
  | multiWrite (motorId : Value) (values : List (Slot × Value))
  | saveConfig (motorId : Value)
  | readNamed (motorId : Value) (name : String)
  | writeNamed (motorId : Value) (name : String) (value : Value)
  | writeGains (motorId loop : Value) (gains : List Value)
  | readAll (motorId : Value) (space : AddressSpace)

/-- What a call gives. -/
inductive Answer where
  | nothing
  | response (given : Option Response)
  | values (given : List (String × Option Payload))
deriving DecidableEq, Repr

namespace Call

/-- The entries of a multiple write. -/
def entriesOf (values : List (Slot × Value)) :
    Except Fault (List WriteEntry) :=
  values.mapM fun given => WriteEntry.ofValue given.1.register given.2

/-- Performs a call on a bus. -/
def perform {σ : Type} (link : Link σ) : Call → Act (Bus σ) Answer
  | ping motorId => Answer.response <$> Bus.ping link motorId
  | read motorId slot => Answer.response <$> Bus.read link motorId slot.register
  | write motorId slot value =>
    Answer.response <$> Bus.write link motorId slot.register value
  | multiWrite motorId values => do
    let entries ← Act.ofExcept (entriesOf values)
    Answer.response <$> Bus.multiWrite link motorId entries
  | saveConfig motorId => do
    Bus.saveConfig link motorId
    return .nothing
  | readNamed motorId name =>
    Answer.response <$> Bus.readNamed link motorId name
  | writeNamed motorId name value =>
    Answer.response <$> Bus.writeNamed link motorId name value
  | writeGains motorId loop gains =>
    Answer.response <$> Bus.writeGains link motorId loop gains
  | readAll motorId space =>
    Answer.values <$>
      Bus.readAll link .blocking motorId (RegisterMap.registers space)

/-- What a call means for a fleet. -/
def meaning : Call → Act Fleet Answer
  | ping motorId => Answer.response <$> Fleet.ping motorId
  | read motorId slot => Answer.response <$> Fleet.read motorId slot
  | write motorId slot value =>
    Answer.response <$> Fleet.write motorId slot value
  | multiWrite motorId values => do
    let entries ← Act.ofExcept (entriesOf values)
    Answer.response <$> Fleet.multiWrite motorId entries
  | saveConfig motorId => do
    Fleet.saveConfig motorId
    return .nothing
  | readNamed motorId name => do
    let slot ← Act.ofExcept (Slot.named name)
    Answer.response <$> Fleet.read motorId slot
  | writeNamed motorId name value => do
    let slot ← Act.ofExcept (Slot.named name)
    Answer.response <$> Fleet.write motorId slot value
  | writeGains motorId loop gains => do
    let entries ← Act.ofExcept (ControlLoop.gainEntries loop gains)
    Answer.response <$> Fleet.multiWrite motorId entries
  | readAll motorId space => Answer.values <$> Fleet.readAll motorId space

/-- Performs calls one after the other and collects what they give; a fault
does not keep the later ones from being made. -/
def each {σ : Type} (act : Call → Act σ Answer) (calls : List Call) :
    Act σ (List (Except Fault Answer)) :=
  calls.mapM fun call => Act.attempt (act call)

end Call

end ActuatorBus
