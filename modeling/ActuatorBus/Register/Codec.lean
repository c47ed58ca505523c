import ActuatorBus.Packet.Writer
import ActuatorBus.Register.Basic
import ActuatorBus.Value.Shape

/-!
# Register values

How the value of a register becomes bytes and back. An integer register takes
any number that is an integer in its range; whether it is one is decided on
the double nearest to it, its range and its bytes on the exact integer. A
register that holds a fraction takes every number and rounds it, by way of a
double. A number can also be given as a flag or in words.
-/

namespace ActuatorBus

namespace ByteWidth

/-- The number of values that a width has room for. -/
def values : ByteWidth → Int
  | one => 0x100
  | two => 0x10000
  | four => 0x100000000

/-- The least and the greatest unsigned integer of a width. -/
def unsignedRange (width : ByteWidth) : Int × Int := (0, width.values - 1)

/-- The least and the greatest signed integer of a width. -/
def signedRange (width : ByteWidth) : Int × Int :=
  (-(width.values / 2), width.values / 2 - 1)

end ByteWidth

namespace NumberFormat

/-- The bytes of an integer, modulo the values that fit into the width. -/
def integerBytes (width : ByteWidth) (n : Int) : Bytes :=
  Bytes.ofNat width.bytes (n % width.values).toNat

/-- The bytes of the number of a precision that is nearest to a double. -/
def realBytes (precision : Precision) (x : Double) : Bytes :=
  Bytes.ofNat precision.bytes
    (BinaryFormat.double.convert precision.format x.word)

/-- The value of bytes that are as many as the format is wide. -/
def value (format : NumberFormat) (bytes : Bytes) : Number :=
  match format with
  | unsigned _ => .integer bytes.toNat
  | signed width =>
    let word : Int := bytes.toNat
    .integer (if word < width.values / 2 then word else word - width.values)
  | real precision =>
    .real (.ofWord (precision.format.convert .double bytes.toNat))

end NumberFormat

namespace Precision

/-- The double that a single value is where it is to be rounded; no value at
all is not a number. -/
def doubleOf : Value → Except Fault Double
  | .nothing => .ok .nan
  | .words text =>
    match Numeral.double? text with
    | some x => .ok x
    | none => .error .notANumber
  | value => do (← value.needNumber).toDouble

/-- The bytes of all single values that a value holds. -/
def encode (precision : Precision) (value : Value) : Except Fault Bytes := do
  if !value.isRegular then throw .inconsistentFormat
  let doubles ← value.leaves.mapM doubleOf
  return doubles.flatMap (NumberFormat.realBytes precision)

end Precision

namespace Register

/-- The bytes of an integer in an integer register with the given width and
range. -/
def encodeInteger (register : Register) (width : ByteWidth)
    (range : Int × Int) (n : Int) : Except Fault Bytes :=
  if range.1 ≤ n ∧ n ≤ range.2 then .ok (NumberFormat.integerBytes width n)
  else .error (.outOfRange register.label n range.1 range.2)

/-- The bytes of a number in an integer register. The double nearest to the
number decides whether it is an integer. -/
def encodeWhole (register : Register) (width : ByteWidth)
    (range : Int × Int) (value : Number) (nearest : Double) :
    Except Fault Bytes :=
  match nearest.isIntegral, value.toInt? with
  | true, some n => register.encodeInteger width range n
  | _, _ => .error (.notAnInteger register.label (.number value))

def encodeNumber (register : Register) (value : Number) :
    Except Fault Bytes :=
  match value.toDouble? with
  | none => .error .overflow
  | some nearest =>
    match register.format with
    | .unsigned width =>
      register.encodeWhole width width.unsignedRange value nearest
    | .signed width =>
      register.encodeWhole width width.signedRange value nearest
    | .real precision => .ok (NumberFormat.realBytes precision nearest)

/-- The bytes of a text in an integer register. The double that it stands for
decides whether it is an integer, and it must also be spelled as one. -/
def encodeWords (register : Register) (width : ByteWidth)
    (range : Int × Int) (text : String) : Except Fault Bytes :=
  match Numeral.double? text, Numeral.integer? text with
  | none, _ => .error .notANumber
  | some nearest, n =>
    if !nearest.isIntegral then
      .error (.notAnInteger register.label (.words text))
    else
      match n with
      | none => .error .notANumber
      | some n => register.encodeInteger width range n

/-- The bytes of a value in an integer register. -/
def encodeIntegral (register : Register) (width : ByteWidth)
    (range : Int × Int) : Value → Except Fault Bytes
  | .flag value =>
    register.encodeInteger width range (if value then 1 else 0)
  | .words text => register.encodeWords width range text
  | _ => .error .unsuitable

/-- The bytes of a value. A register that holds a fraction takes several at
once, but has no room for them. -/
def encode (register : Register) : Value → Except Fault Bytes
  | .number value => register.encodeNumber value
  | value =>
    match register.format with
    | .unsigned width =>
      register.encodeIntegral width width.unsignedRange value
    | .signed width =>
      register.encodeIntegral width width.signedRange value
    | .real precision => precision.encode value

@[simp] theorem encode_number (register : Register) (value : Number) :
    register.encode (.number value) = register.encodeNumber value := rfl

/-- Writes a value at the front of a buffer. The size of the buffer is checked
before the value. -/
def fill (register : Register) (value : Value) : Filler := do
  Act.ofExcept (checkBufferSize register.width (← Act.get).length)
  let bytes ← Act.ofExcept (register.encode value)
  Filler.within 0 register.width (Filler.putAll bytes)

/-- The value of the parameter bytes of a response. -/
def decode (register : Register) (bytes : Bytes) : Except Fault Number := do
  ExpectedCount.check ⟨.exactly, register.width⟩ bytes.length
  return register.format.value bytes

end Register

end ActuatorBus
