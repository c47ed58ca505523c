/-!
# Error flags

Every status packet carries one byte of flags. The communication and the
overheat flag are warnings: the instruction was still executed. Every other
defined flag means that the instruction cannot be trusted. Undefined bits are
kept but have no name.
-/

namespace ActuatorBus

/-- The flags of a status packet, as a number. -/
structure ErrorFlags where
  code : Nat
deriving DecidableEq, Repr

namespace ErrorFlags

/-- The flags that have a meaning. -/
inductive Flag where
  | communication
  | overheat
  | absolutePosition
  | watchdogStop
  | jointLimit
  | hardware
  | initialization
deriving DecidableEq, Repr

namespace Flag

def all : List Flag :=
  [communication, overheat, absolutePosition, watchdogStop, jointLimit,
    hardware, initialization]

def position : Flag → Nat
  | communication => 0
  | overheat => 1
  | absolutePosition => 2
  | watchdogStop => 3
  | jointLimit => 4
  | hardware => 5
  | initialization => 6

def label : Flag → String
  | communication => "COMMUNICATION"
  | overheat => "OVERHEAT"
  | absolutePosition => "ABSOLUTE_POSITION"
  | watchdogStop => "WATCHDOG_ESTOP"
  | jointLimit => "JOINT_LIMIT"
  | hardware => "HARDWARE"
  | initialization => "INITIALIZATION"

end Flag

def definedMask : Nat := 0x7F

/-- The bits of the two warnings. -/
def warningMask : Nat := 0x03

/-- The bits with a meaning that are no warnings. -/
def errorMask : Nat := 0x7C

/-- The least power of two with room for all flags and for a number. -/
private def room (n : Nat) : Nat :=
  if n ≤ definedMask + 1 then definedMask + 1 else Nat.pow 2 (n.log2 + 1)

/-- The flags of a number. A negative number has the flags that are missing
from its complement. -/
def ofInt : Int → ErrorFlags
  | .ofNat n => ⟨n⟩
  | .negSucc n => ⟨room (n + 1) - (n + 1)⟩

def has (flags : ErrorFlags) (flag : Flag) : Bool :=
  flags.code.testBit flag.position

/-- The flags that have a meaning. -/
def known (flags : ErrorFlags) : ErrorFlags := ⟨flags.code &&& definedMask⟩

def warnings (flags : ErrorFlags) : ErrorFlags := ⟨flags.code &&& warningMask⟩

def errors (flags : ErrorFlags) : ErrorFlags := ⟨flags.code &&& errorMask⟩

def isEmpty (flags : ErrorFlags) : Bool := flags.code == 0

/-- The names of the set flags, from the lowest bit on. -/
def labels (flags : ErrorFlags) : List String :=
  (Flag.all.filter flags.has).map Flag.label

def text (flags : ErrorFlags) : String :=
  if flags.labels.isEmpty then "ok"
  else String.intercalate " | " flags.labels

/-- The flags with their type and number: the named ones, then the undefined
bits as one number. -/
def representation (flags : ErrorFlags) : String :=
  let undefinedBits := flags.code - flags.known.code
  let parts :=
    if undefinedBits = 0 then flags.labels
    else flags.labels ++ [toString undefinedBits]
  let named :=
    if flags.labels.isEmpty then "" else "." ++ String.intercalate "|" parts
  "<ErrorFlags" ++ named ++ ": " ++ toString flags.code ++ ">"

end ErrorFlags

end ActuatorBus
