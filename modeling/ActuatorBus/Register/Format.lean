import ActuatorBus.Register.Spelling

/-!
# Number formats of registers

A register holds an unsigned or a signed integer of one, two or four bytes, or
a half or single precision number. Its low byte travels first, so that a
spelling with the high byte first is refused where there is more than one
byte.
-/

namespace ActuatorBus

inductive ByteWidth where
  | one
  | two
  | four
deriving DecidableEq, Repr

def ByteWidth.bytes : ByteWidth → Nat
  | one => 1
  | two => 2
  | four => 4

inductive Precision where
  | half
  | single
deriving DecidableEq, Repr

namespace Precision

def format : Precision → BinaryFormat
  | half => .half
  | single => .single

def bytes : Precision → Nat
  | half => 2
  | single => 4

end Precision

/-- How a register represents its value. -/
inductive NumberFormat where
  | unsigned (width : ByteWidth)
  | signed (width : ByteWidth)
  | real (precision : Precision)
deriving DecidableEq, Repr

namespace NumberFormat

def width : NumberFormat → Nat
  | unsigned width => width.bytes
  | signed width => width.bytes
  | real precision => precision.bytes

/-- The format of a number of the given kind and size, if registers can have
it. -/
def ofKind? : ElementKind → (size : Nat) → Option NumberFormat
  | .unsigned, 1 => some (.unsigned .one)
  | .unsigned, 2 => some (.unsigned .two)
  | .unsigned, 4 => some (.unsigned .four)
  | .signed, 1 => some (.signed .one)
  | .signed, 2 => some (.signed .two)
  | .signed, 4 => some (.signed .four)
  | .real, 2 => some (.real .half)
  | .real, 4 => some (.real .single)
  | _, _ => none

/-- The format spelled for a register of the given name. A kind that is no
number is refused first, then a size, then a byte order. -/
def ofSpelling (register spelling : String) : Except Fault NumberFormat := do
  let found ← Spelling.ofText spelling
  if !found.kind.isNumber then throw (.unsupportedFormat register spelling)
  match ofKind? found.kind found.size with
  | none => throw (.unsupportedWidth register found.size)
  | some format =>
    if found.bigEndian && 1 < found.size then throw (.bigEndian register)
    return format

end NumberFormat

end ActuatorBus
