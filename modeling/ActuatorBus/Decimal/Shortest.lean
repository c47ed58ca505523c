import ActuatorBus.Binary.Double

/-!
# Shortest decimals

Among the decimals that round to a given double, the one with the fewest
digits is chosen, and of those the nearest.

The reals that round to a magnitude reach from half way to the magnitude
below to half way to the magnitude above; the ends belong to them exactly when
the magnitude is even. `readsBack` tests this by comparing naturals. The
search goes through the grids of one digit, two digits, and so on; a grid has
a hit only if one of the two neighbours of the value on it is one.
-/

namespace ActuatorBus

/-- The decimal `digits * 10 ^ exponent`. -/
structure Decimal where
  digits : Nat
  exponent : Int
deriving DecidableEq, Repr

namespace Decimal

/-- The number of decimal digits of `n`; one for zero. -/
def digitCount (n : Nat) : Nat :=
  if n < 10 then 1 else digitCount (n / 10) + 1
termination_by n
decreasing_by omega

/-- The order of a decimal and `halves` half units of the double format. -/
def compareHalfUnits (d : Decimal) (halves : Nat) : Ordering :=
  compare
    (d.digits * Nat.pow 10 d.exponent.toNat * (2 * Double.unitsPerOne))
    (halves * Nat.pow 10 (-d.exponent).toNat)

/-- Whether a decimal rounds to the double of the given positive
magnitude. -/
def readsBack (magnitude : Nat) (d : Decimal) : Bool :=
  let below := BinaryFormat.double.units (magnitude - 1)
  let value := BinaryFormat.double.units magnitude
  let above := BinaryFormat.double.units (magnitude + 1)
  let endsBelong := magnitude % 2 == 0
  let low := d.compareHalfUnits (below + value)
  let high := d.compareHalfUnits (value + above)
  (low == .gt || endsBelong && low == .eq) &&
    (high == .lt || endsBelong && high == .eq)

/-- The least `k` such that `units` units are less than `10 ^ k`. -/
def scale (units : Nat) : Int :=
  if Double.unitsPerOne ≤ units then
    digitCount (units / Double.unitsPerOne)
  else
    1 - (digitCount ((Double.unitsPerOne - 1) / units) : Int)

/-- The last grid point at or below `units` units, on the grid of
`10 ^ exponent`. -/
def floorOn (units : Nat) (exponent : Int) : Nat :=
  units * Nat.pow 10 (-exponent).toNat /
    (Double.unitsPerOne * Nat.pow 10 exponent.toNat)

/-- The nearer of the two grid points around the value, if both round to the
magnitude, a tie going to the even one; else the one that does, if any. -/
def onGrid? (magnitude : Nat) (exponent : Int) : Option Decimal :=
  let value := BinaryFormat.double.units magnitude
  let lower : Decimal := ⟨floorOn value exponent, exponent⟩
  let upper : Decimal := ⟨lower.digits + 1, exponent⟩
  match readsBack magnitude lower, readsBack magnitude upper with
  | true, false => some lower
  | false, true => some upper
  | false, false => none
  | true, true =>
    let middle : Decimal := ⟨lower.digits + upper.digits, exponent⟩
    match middle.compareHalfUnits (4 * value) with
    | .gt => some lower
    | .lt => some upper
    | .eq => some (if lower.digits % 2 = 0 then lower else upper)

/-- Moves trailing zeros of the digits into the exponent. -/
def dropZeros (digits : Nat) (exponent : Int) : Decimal :=
  if digits = 0 then ⟨0, 0⟩
  else if digits % 10 = 0 then dropZeros (digits / 10) (exponent + 1)
  else ⟨digits, exponent⟩
termination_by digits
decreasing_by omega

/-- The value of a magnitude as a decimal, without rounding. -/
def exact (magnitude : Nat) : Decimal :=
  ⟨BinaryFormat.double.units magnitude *
      Nat.pow 5 BinaryFormat.double.unitPlaces,
    -(BinaryFormat.double.unitPlaces : Int)⟩

/-- The shortest decimal that rounds to a positive finite magnitude. Seventeen
digits always suffice. -/
def shortest (magnitude : Nat) : Decimal :=
  let k := scale (BinaryFormat.double.units magnitude)
  let found := (List.range 17).findSome? fun n =>
    onGrid? magnitude (k - (n + 1 : Nat))
  let d := found.getD (exact magnitude)
  dropZeros d.digits d.exponent

end Decimal

end ActuatorBus
