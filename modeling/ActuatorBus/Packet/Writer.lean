import ActuatorBus.Act
import ActuatorBus.Packet.Basic

/-!
# Writing packets

A packet is written in place into a buffer: header, id, length, code,
parameters, checksum. The parameters are written by a filler, an action on the
parameter bytes alone. Whatever was written before a fault stays.

What a packet is made of may be given as values of any kind. A value is
refused when its byte is to be stored, so that the bytes before it are there.
The code alone is made a whole number first. For integers a packet is written
as `write_integer` says.
-/

namespace ActuatorBus

/-- Writes into a buffer of fixed length. -/
abbrev Filler := Act Bytes Unit

namespace Filler

/-- Stores a value in one byte. -/
def putByte (position : Nat) (value : Int) : Filler := do
  let buffer ← Act.get
  Act.require (position < buffer.length) .indexOutOfRange
  match Bytes.ofInt? value with
  | some b => Act.set (buffer.set position b)
  | none => Act.fail .notAByte

/-- Stores a value of any kind in one byte. -/
def putValue (position : Nat) (value : Value) : Filler := do
  Act.require (position < (← Act.get).length) .indexOutOfRange
  putByte position (← Act.ofExcept value.needCount)

@[simp] theorem putValue_integer (position : Nat) (n : Int) :
    putValue position (.integer n) = putByte position n := by
  ext state : 2
  by_cases inside : position < state.length <;>
    simp [putValue, putByte, inside, Value.needCount, Value.whole?,
      Value.Whole.toInt]

/-- Runs a filler on the bytes from `start` up to, but not including,
`stop`. -/
def within {α : Type} (start stop : Nat) (fill : Act Bytes α) : Act Bytes α :=
  Act.on (Bytes.slice start stop)
    (fun view buffer =>
      buffer.take start ++ (view ++ buffer.drop (max start stop)))
    fill

/-- Runs a filler on the bytes from `start` on. -/
def after {α : Type} (start : Nat) (fill : Act Bytes α) : Act Bytes α :=
  Act.on (List.drop start) (fun view buffer => buffer.take start ++ view) fill

/-- Runs a filler on the bytes from an index on, which counts from the end if
it is negative. -/
def afterIndex {α : Type} (index : Int) (fill : Act Bytes α) :
    Act Bytes α := do
  let size := (← Act.get).length
  after (if index < 0 then index + size else index).toNat fill

/-- Stores bytes over the whole buffer, whose length they must have. -/
def putAll (bytes : Bytes) : Filler := do
  let buffer ← Act.get
  Act.require (bytes.length == buffer.length) .lengthMismatch
  Act.set bytes

def address (address : Value) : Filler := putValue 0 address

/-- Stores an address byte and then data up to the end of the buffer. -/
def data (address : Value) (bytes : Bytes) : Filler := do
  putValue 0 address
  after 1 (putAll bytes)

/-- Stores an address byte and then items that are made bytes together. -/
def items (address : Value) (items : List Value) : Filler := do
  putValue 0 address
  after 1 do
    putAll (← Act.ofExcept (Bytes.ofValues items))

end Filler

namespace Packet

def putHeader : Filler := do
  Filler.putByte 0 headerByte.toNat
  Filler.putByte 1 headerByte.toNat

/-- Writes a packet at the front of the buffer, given how its id and its code
are stored, and gives its size. Without a filler the parameter bytes keep what
the buffer held. -/
def writeWith (putId putCode : Filler) (parameterCount : Int)
    (fill : Option Filler) : Act Bytes Nat := do
  Act.ofExcept (checkBufferSize (size parameterCount) (← Act.get).length)
  Act.require (parameterCount + 2 ≤ maximumLength)
    (.tooManyParameters (.integer parameterCount))
  putHeader
  putId
  Filler.putByte lengthPosition (parameterCount + 2)
  putCode
  let checksumPosition := (parametersPosition + parameterCount).toNat
  match fill with
  | some fill => Filler.within parametersPosition checksumPosition fill
  | none => pure ()
  let body := (← Act.get).slice idPosition checksumPosition
  Filler.putByte checksumPosition (checksum body).toNat
  return checksumPosition + 1

def putCode (code : Value) : Filler := do
  Filler.putByte codePosition (← Act.ofExcept code.wholeNumber)

@[simp] theorem putCode_integer (code : Int) :
    putCode (.integer code) = Filler.putByte codePosition code := rfl

/-- Fails to write a packet with a number of parameters that is a double. Such
a number passes the checks of the size, but cannot be stored. -/
def writeUncounted (motorId : Value) (parameterCount : Double) :
    Act Bytes Nat := do
  let length := parameterCount.add (.ofNat 2)
  let required := (Double.ofNat headerSize).add length
  Act.ofExcept (checkRoom (.real required) (.integer (← Act.get).length))
  Act.require (!(Number.integer maximumLength).lt (.real length))
    (.tooManyParameters (.real parameterCount))
  putHeader
  Filler.putValue idPosition motorId
  Act.require (lengthPosition < (← Act.get).length) .indexOutOfRange
  Act.fail .unsuitable

/-- Writes a packet at the front of the buffer and gives its size. -/
def write (motorId code parameterCount : Value) (fill : Option Filler) :
    Act Bytes Nat := do
  match ← Act.ofExcept parameterCount.needNumber with
  | .integer count =>
    writeWith (Filler.putValue idPosition motorId) (putCode code) count fill
  | .real count => writeUncounted motorId count

theorem write_integer (motorId code parameterCount : Int)
    (fill : Option Filler) :
    write (.integer motorId) (.integer code) (.integer parameterCount) fill =
      writeWith (Filler.putByte idPosition motorId)
        (Filler.putByte codePosition code) parameterCount fill := by
  ext state : 2
  simp [write, Value.needNumber, Value.number?]

/-- A packet in a buffer of its own. -/
def build (motorId code : Value) (parameters : List Value) :
    Except Fault Bytes :=
  let fill : Filler := do
    Filler.putAll (← Act.ofExcept (Bytes.ofValues parameters))
  let buffer := List.replicate (minimumSize + parameters.length) 0
  let outcome :=
    (write motorId code (.integer parameters.length) (some fill)).run buffer
  outcome.result.map fun _ => outcome.state

/-- The status packet of a motor. Its error is made a whole number before
anything is written. -/
def status (motorId error : Value) (parameters : Bytes) :
    Except Fault Bytes := do
  build motorId (.integer (← error.wholeNumber))
    (parameters.map fun b => .integer b.toNat)

end Packet

end ActuatorBus
