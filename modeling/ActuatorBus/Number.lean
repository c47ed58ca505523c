import ActuatorBus.Decimal.Layout

/-!
# Numbers

A value handed to a register, or read from one, is an integer of any size or
a double. An integer and a double can be the same number and still be told
apart. The order of numbers is the exact one: no integer is rounded for it.
-/

namespace ActuatorBus

/-- An integer of any size, or a double. -/
inductive Number where
  | integer (n : Int)
  | real (x : Double)
deriving DecidableEq, Repr

namespace Number

/-- The double nearest to the number, or `none` if an integer is too
large. -/
def toDouble? : Number → Option Double
  | integer n => Double.ofInt? n
  | real x => some x

/-- The integer that the number is, if it is one. -/
def toInt? : Number → Option Int
  | integer n => some n
  | real x => x.toInt?

/-- Whether two numbers have the same value, exactly. -/
def same : Number → Number → Bool
  | integer m, integer n => m == n
  | real x, real y => x.same y
  | integer n, real x => x.toInt? == some n
  | real x, integer n => x.toInt? == some n

/-- Whether one number is less than another, exactly; never so if one is not
a number. -/
def lt : Number → Number → Bool
  | integer m, integer n => m < n
  | real x, real y => x.lt y
  | integer n, real x =>
    if x.isFinite then n * Double.unitsPerOne < x.units
    else !x.isNaN && !x.isNegative
  | real x, integer n =>
    if x.isFinite then x.units < n * Double.unitsPerOne
    else !x.isNaN && x.isNegative

/-- Whether a number lies between two integers, or is one of them. -/
def isWithin (least greatest : Int) : Number → Bool
  | integer n => least ≤ n && n ≤ greatest
  | real x =>
    !x.isNaN && !(real x).lt (integer least) &&
      !(integer greatest).lt (real x)

/-- The smaller number; the first one if the second is not smaller. -/
def min (first second : Number) : Number :=
  if second.lt first then second else first

/-- The text of a number: decimal digits, or the shortest form of a
double. -/
def text : Number → String
  | integer n => toString n
  | real x => x.text

end Number

end ActuatorBus
