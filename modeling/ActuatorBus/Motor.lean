import ActuatorBus.Packet.Writer
import ActuatorBus.Register.Map

/-!
# Simulated motors

A motor keeps a value for each of its registers, a saved copy of its config
registers and the instructions it carried out. `respond` is its answer to an
instruction packet. A motor trusts the line: it does not look at checksums.
-/

namespace ActuatorBus

/-- A value for each register of a table, by name, in table order. -/
abbrev RegisterValues := List (String × Value)

namespace RegisterValues

def initial (space : AddressSpace) : RegisterValues :=
  (RegisterMap.registers space).map fun register =>
    (register.label, .integer 0)

def get? (values : RegisterValues) (name : String) : Option Value :=
  List.lookup name values

def put (values : RegisterValues) (name : String) (value : Value) :
    RegisterValues :=
  values.map fun entry => if entry.1 == name then (name, value) else entry

end RegisterValues

structure Motor where
  id : Value
  /-- The id under which it is known: of ids that are the same, the first. -/
  key : Value
  /-- The error byte of its replies. -/
  error : Value
  /-- The parameters of its reply to a ping. -/
  pingData : Bytes
  config : RegisterValues
  status : RegisterValues
  /-- The config registers as they were last saved. -/
  saved : RegisterValues
  /-- The instructions carried out, oldest first. -/
  instructions : List Instruction
deriving DecidableEq, Repr

namespace Motor

/-- The reply to a ping of a motor that was given none. -/
def defaultPingData : Bytes := [0, 1, 2, 3]

/-- A new motor: its registers are zero, apart from the one with its id. -/
def create (id error : Value) (pingData : Bytes) : Motor :=
  let config := (RegisterValues.initial .config).put "id" id
  { id, error, pingData, config
    key := id
    status := .initial .status
    saved := config
    instructions := [] }

def values (motor : Motor) : AddressSpace → RegisterValues
  | .config => motor.config
  | .status => motor.status

def withValue (motor : Motor) (space : AddressSpace) (name : String)
    (value : Value) : Motor :=
  match space with
  | .config => { motor with config := motor.config.put name value }
  | .status => { motor with status := motor.status.put name value }

/-- The registers with a value other than the integer zero. -/
def touched (values : RegisterValues) : RegisterValues :=
  values.filter fun entry =>
    match entry.2 with
    | .number value => value != .integer 0
    | value => !value.same (.integer 0)

/-- Sets a register, config before status; nothing if there is none of the
name. -/
def setRegister (motor : Motor) (name : String) (value : Value) : Motor :=
  match RegisterMap.named? .config name with
  | some _ => motor.withValue .config name value
  | none => motor.withValue .status name value

/-- The value of a register, as bytes. -/
def readRegister (space : AddressSpace) (address : UInt8) :
    Act Motor Bytes := do
  let register ←
    Act.ofExcept (RegisterMap.withAddress space address.toNat)
  match ((← Act.get).values space).get? register.label with
  | some value => Act.ofExcept (register.encode value)
  | none => Act.fail .missingKey

/-- Cuts parameters into addresses with up to four bytes each. -/
def cutEntries : Bytes → List (UInt8 × Bytes)
  | [] => []
  | address :: rest =>
    (address, rest.take 4) :: cutEntries (rest.drop 4)
termination_by parameters => parameters.length
decreasing_by simp only [List.length_drop, List.length_cons]; omega

/-- Writes data to registers, one after the other. -/
def writeEntries (space : AddressSpace) :
    List (UInt8 × Bytes) → Act Motor Unit
  | [] => pure ()
  | (address, data) :: rest => do
    let register ←
      Act.ofExcept (RegisterMap.withAddress space address.toNat)
    let value ← Act.ofExcept (register.decode data)
    Act.modify fun motor =>
      motor.withValue space register.label (.number value)
    writeEntries space rest

/-- Writes the parameters of an instruction: one register if they are as many
as its address and its value take, else entries of five bytes. -/
def writeParameters (space : AddressSpace) (parameters : Bytes) :
    Act Motor Unit :=
  match parameters with
  | [] => pure ()
  | address :: data => do
    let first ← Act.ofExcept (RegisterMap.withAddress space address.toNat)
    if data.length = first.width then
      writeEntries space [(address, data)]
    else
      writeEntries space (cutEntries parameters)

/-- The parameters of an instruction packet, as its length byte says. -/
def parametersOf (packet : Bytes) (length : UInt8) : Bytes :=
  packet.slice Packet.parametersPosition
    (Packet.headerSize + length.toNat - 1)

/-- Carries out an instruction. Gives the parameters of the reply, or nothing
if there is none. -/
def execute (instruction : Instruction) (parameters : Bytes) :
    Act Motor (Option Bytes) := do
  Act.modify fun motor =>
    { motor with instructions := motor.instructions ++ [instruction] }
  let read (space : AddressSpace) : Act Motor (Option Bytes) := do
    match parameters with
    | [] => Act.fail .indexOutOfRange
    | address :: _ => return some (← readRegister space address)
  let write (space : AddressSpace) : Act Motor (Option Bytes) := do
    writeParameters space parameters
    return some []
  match instruction with
  | .ping => return some (← Act.get).pingData
  | .readStatus => read .status
  | .readConfig => read .config
  | .writeStatus => write .status
  | .writeConfig => write .config
  | .saveConfig =>
    Act.modify fun motor => { motor with saved := motor.config }
    return none
  | .bulkComm => return none

/-- The answer to an instruction packet, empty if there is none. A motor
answers to its own id; to the broadcast id it only listens. -/
def respond (packet : Bytes) : Act Motor Bytes := do
  let motor ← Act.get
  match packet[Packet.idPosition]? with
  | none => Act.fail .indexOutOfRange
  | some packetId =>
    let target : Value := .integer packetId.toNat
    if !target.same motor.id && packetId.toNat != broadcastId then
      return []
    match packet[Packet.codePosition]?, packet[Packet.lengthPosition]? with
    | some code, some length =>
      match Instruction.ofCode? code with
      | none => Act.fail (.unknownInstruction code)
      | some instruction =>
        match ← execute instruction (parametersOf packet length) with
        | none => return []
        | some reply =>
          if packetId.toNat == broadcastId then return []
          Act.ofExcept (Packet.status motor.id motor.error reply)
    | _, _ => Act.fail .indexOutOfRange

/-- Motors with one for each id: of several with the same id the last one, in
the place of the first and known as that one was. An id must be one that can
be looked up. -/
def distinct (motors : List Motor) : Except Fault (List Motor) :=
  motors.foldlM (fun found motor => do
    motor.key.checkKey
    if found.any fun other => other.key.same motor.key then
      return found.map fun other =>
        if other.key.same motor.key then { motor with key := other.key }
        else other
    else return found ++ [motor]) []

/-- What the answers of all motors on a line come to. -/
def answers (packet : Bytes) : List Motor → Outcome (List Motor) Bytes
  | [] => ⟨.ok [], [], []⟩
  | motor :: rest =>
    match (respond packet).run motor with
    | ⟨.error fault, motor, notes⟩ => ⟨.error fault, motor :: rest, notes⟩
    | ⟨.ok reply, motor, notes⟩ =>
      let others := answers packet rest
      ⟨others.result.map (reply ++ ·), motor :: others.state,
        notes ++ others.notes⟩

/-- The answers of all motors on a line, joined in order. A fault keeps the
motors behind it from seeing the packet. -/
def respondAll (packet : Bytes) : Act (List Motor) Bytes where
  run := answers packet

end Motor

end ActuatorBus
