import ActuatorBus.Binary.Format

/-!
# Double-precision numbers

A double is its sixty-four bits. Every operation computes the exact result in
whole units and rounds once; an operation without a result gives the one
quiet not-a-number `nan`.
-/

namespace ActuatorBus

/-- A double-precision number, given by its bits. -/
structure Double where
  bits : UInt64
deriving DecidableEq, Repr

namespace Double

/-- The bits as a word of the sixty-four bit format. -/
def word (x : Double) : Nat := x.bits.toNat

def ofWord (word : Nat) : Double := ⟨UInt64.ofNat word⟩

/-- The quiet not-a-number with a clear sign and an empty payload. -/
def nan : Double := ⟨0x7ff8000000000000⟩

def zero : Double := ⟨0⟩

def one : Double := ⟨0x3ff0000000000000⟩

def half : Double := ⟨0x3fe0000000000000⟩

def infinity (negative : Bool) : Double :=
  ofWord (BinaryFormat.double.ofSign negative BinaryFormat.double.infinityWord)

def isNegative (x : Double) : Bool := BinaryFormat.double.isNegative x.word

def isNaN (x : Double) : Bool := BinaryFormat.double.isNaN x.word

def isInfinite (x : Double) : Bool := BinaryFormat.double.isInfinite x.word

def isFinite (x : Double) : Bool := BinaryFormat.double.isFinite x.word

def magnitude (x : Double) : Nat := BinaryFormat.double.magnitude x.word

/-- The units in the number one. -/
def unitsPerOne : Nat :=
  Nat.pow 2 BinaryFormat.double.unitPlaces

/-- The bits below the sign as a number, with the sign. The words of a format
are in the order of their values, so that the order of the ranks is the order
of the numbers; both zeros have the same rank. -/
def rank (x : Double) : Int :=
  if x.isNegative then -(x.magnitude : Int) else x.magnitude

/-- The value in units, with its sign. An infinity counts as the power of two
above the largest finite value, so that the units are in the order of the
numbers, too. -/
def units (x : Double) : Int :=
  let size : Int := BinaryFormat.double.units x.magnitude
  if x.isNegative then -size else size

/-- The double nearest to a fraction of units, with the given sign. -/
def nearest (negative : Bool) (numerator denominator : Nat) : Double :=
  ofWord <| BinaryFormat.double.ofSign negative <|
    BinaryFormat.double.roundUnits numerator denominator

def ofNat (n : Nat) : Double := nearest false (n * unitsPerOne) 1

/-- The double nearest to an integer, or `none` if that is an infinity. -/
def ofInt? (n : Int) : Option Double :=
  let x := nearest (n < 0) (n.natAbs * unitsPerOne) 1
  if x.isFinite then some x else none

/-- The integer that `x` is, if it is one. -/
def toInt? (x : Double) : Option Int :=
  if x.isFinite && x.units % unitsPerOne == 0 then
    some (x.units / unitsPerOne)
  else none

/-- Whether `x` is a finite number without fractional part. -/
def isIntegral (x : Double) : Bool := x.toInt?.isSome

def neg (x : Double) : Double := ⟨x.bits ^^^ 0x8000000000000000⟩

/-- The rounded sum. An exact zero is negative only if both addends are. -/
def add (x y : Double) : Double :=
  if x.isNaN || y.isNaN then nan
  else if x.isInfinite then
    if y.isInfinite && x.isNegative != y.isNegative then nan else x
  else if y.isInfinite then y
  else
    let sum := x.units + y.units
    if sum = 0 then nearest (x.isNegative && y.isNegative) 0 1
    else nearest (sum < 0) sum.natAbs 1

def sub (x y : Double) : Double := x.add y.neg

def mul (x y : Double) : Double :=
  let negative := x.isNegative != y.isNegative
  if x.isNaN || y.isNaN then nan
  else if x.isInfinite || y.isInfinite then
    if x.units = 0 || y.units = 0 then nan else infinity negative
  else nearest negative (x.units.natAbs * y.units.natAbs) unitsPerOne

def div (x y : Double) : Double :=
  let negative := x.isNegative != y.isNegative
  if x.isNaN || y.isNaN then nan
  else if x.isInfinite then
    if y.isInfinite then nan else infinity negative
  else if y.isInfinite then nearest negative 0 1
  else if y.units = 0 then
    if x.units = 0 then nan else infinity negative
  else
    nearest negative (x.units.natAbs * unitsPerOne) y.units.natAbs

/-- The remainder of `x` on division by `y`, with the sign of `x`. It is
exact. -/
def remainder (x y : Double) : Double :=
  if x.isNaN || y.isNaN || x.isInfinite || y.units = 0 then nan
  else if y.isInfinite then x
  else nearest x.isNegative (x.units.natAbs % y.units.natAbs) 1

/-- The greatest whole number up to `x`. -/
def floor (x : Double) : Double :=
  if x.isFinite then
    nearest x.isNegative ((x.units / unitsPerOne).natAbs * unitsPerOne) 1
  else x

/-- The integer next to `x` on the side of zero, if `x` is finite. -/
def truncate? (x : Double) : Option Int :=
  if x.isFinite then some (x.units.tdiv unitsPerOne) else none

/-- Whether `x` is less than `y`; never so if one is not a number. -/
def lt (x y : Double) : Bool :=
  !x.isNaN && !y.isNaN && x.rank < y.rank

/-- Whether `x` is at most `y`; never so if one is not a number. -/
def le (x y : Double) : Bool :=
  !x.isNaN && !y.isNaN && x.rank ≤ y.rank

/-- Whether `x` and `y` are the same number; the two zeros are. -/
def same (x y : Double) : Bool :=
  !x.isNaN && !y.isNaN && x.rank == y.rank

/-- The remainder of `x` on division by `y`, with the sign of `y`. -/
def modulo (x y : Double) : Double :=
  let rest := x.remainder y
  if rest.same zero then nearest y.isNegative 0 1
  else if y.lt zero != rest.lt zero then rest.add y
  else rest

/-- The quotient rounded down to a whole number. The remainder is taken off
before the division, so that the rounded quotient lies next to the whole
number meant, and is moved onto it. A zero gets the sign of the quotient. -/
def floorDiv (x y : Double) : Double :=
  let rest := x.remainder y
  let quotient := (x.sub rest).div y
  let quotient :=
    if !rest.same zero && y.lt zero != rest.lt zero then quotient.sub one
    else quotient
  if quotient.same zero then nearest (x.div y).isNegative 0 1
  else
    let whole := quotient.floor
    if half.lt (quotient.sub whole) then whole.add one else whole

end Double

end ActuatorBus
