import ActuatorBus.Register.Format
import ActuatorBus.Value.Use

/-!
# Registers

A register has a name, a number format, and, once it belongs to a table, an
address space and an address in it. Its name, its address and whether it can
be written are what they were given as; a table takes only an address that is
a byte.
-/

namespace ActuatorBus

structure Register where
  name : Value
  /-- The format as it was spelled. -/
  spelling : String
  format : NumberFormat
  /-- It can be written if this counts as a yes. -/
  access : Value
  space : Option AddressSpace
  /-- The address in the space, nothing if there is none yet. -/
  address : Value
deriving DecidableEq, Repr

namespace Register

/-- A register whose format is spelled out. -/
def ofSpelling (name : Value) (spelling : String) (access : Value)
    (space : Option AddressSpace) (address : Value) :
    Except Fault Register :=
  (NumberFormat.ofSpelling name.text spelling).map fun format =>
    { name, spelling, format, access, space, address }

/-- A register whose format is given by a value: spelled out, or left open. A
format that is left open is eight bytes wide; an empty list or record is a
format of nothing. A record would have to say of each part where it starts,
which takes a pair. -/
def ofFormat (name format access : Value)
    (space : Option AddressSpace) (address : Value) :
    Except Fault Register :=
  match format with
  | .words spelling => ofSpelling name spelling access space address
  | .nothing => .error (.unsupportedWidth name.text 8)
  | .several [] | .record _ [] =>
    .error (.unsupportedFormat name.text format.text)
  | .record _ (.number _ :: _) | .record _ (.flag _ :: _)
  | .record _ (.nothing :: _) => .error .unreadableFormat
  | .record _ _ => .error .inconsistentFormat
  | _ => .error .unreadableFormat

def label (register : Register) : String := register.name.text

def writable (register : Register) : Bool := register.access.isTruthy

def width (register : Register) : Nat := register.format.width

/-- A register with all its parts. -/
def representation (register : Register) : String :=
  "Reg(" ++ register.name.representation ++ ", " ++
    Text.quoted register.spelling ++ ", w=" ++
    register.access.text ++ ", reg_type=" ++
    AddressSpace.qualifiedLabelOf register.space ++ ", offset=" ++
    register.address.text ++ ")"

def readInstruction (register : Register) : Except Fault Instruction :=
  match register.space with
  | some space => .ok space.readInstruction
  | none => .error .missingKey

/-- The instruction that writes the register; a read-only register has
none. -/
def writeInstruction (register : Register) :
    Except Fault (Option Instruction) :=
  if !register.writable then .ok none
  else
    match register.space with
    | some space => .ok (some space.writeInstruction)
    | none => .error .missingKey

def checkWritable (register : Register) : Except Fault Unit :=
  if register.writable then .ok ()
  else
    match register.space with
    | some space => .error (.readOnly space register.name)
    | none => .error .spaceless

end Register

end ActuatorBus
