import ActuatorBus.Bytes

/-!
# Binary interchange formats

A binary floating-point format has a sign bit, a biased exponent and a
fraction. A word of the format is handled as a natural number. Every finite
magnitude is a whole number of *units*, the least positive magnitude of the
format, so values are compared, added and rounded as integers.

`roundUnits` is rounding to the nearest word, ties to the even one; the words
of non-negative values are in the order of their values, and the carry out of
the fraction moves on into the exponent. The functions are inlined, so that
the powers of two of a known format are computed only once.
-/

namespace ActuatorBus

/-- The quotient rounded to the nearest integer, a tie to the even one. -/
@[inline] def roundHalfEven (numerator denominator : Nat) : Nat :=
  let quotient := numerator / denominator
  let rest := numerator % denominator
  if 2 * rest < denominator then quotient
  else if denominator < 2 * rest then quotient + 1
  else quotient + quotient % 2

/-- The widths of the exponent and the fraction of a floating-point format. -/
structure BinaryFormat where
  exponentBits : Nat
  fractionBits : Nat
deriving DecidableEq, Repr

namespace BinaryFormat

@[inline] def half : BinaryFormat := ⟨5, 10⟩

@[inline] def single : BinaryFormat := ⟨8, 23⟩

@[inline] def double : BinaryFormat := ⟨11, 52⟩

variable (F : BinaryFormat)

@[inline] def magnitudeBits : Nat := F.exponentBits + F.fractionBits

/-- The word of the sign alone, which is the word of negative zero. -/
@[inline] def signWord : Nat := Nat.pow 2 F.magnitudeBits

/-- The word of positive infinity; every larger magnitude is not a number. -/
@[inline] def infinityWord : Nat :=
  (Nat.pow 2 F.exponentBits - 1) * Nat.pow 2 F.fractionBits

/-- The bit that marks a quiet not-a-number. -/
@[inline] def quietBit : Nat := Nat.pow 2 (F.fractionBits - 1)

/-- One unit is two to the power of minus `unitPlaces`. -/
@[inline] def unitPlaces : Nat :=
  Nat.pow 2 (F.exponentBits - 1) - 2 + F.fractionBits

@[inline] def magnitude (word : Nat) : Nat := word % F.signWord

@[inline] def isNegative (word : Nat) : Bool := word / F.signWord % 2 == 1

@[inline] def isNaN (word : Nat) : Bool := F.infinityWord < F.magnitude word

@[inline] def isInfinite (word : Nat) : Bool :=
  F.magnitude word == F.infinityWord

@[inline] def isFinite (word : Nat) : Bool := F.magnitude word < F.infinityWord

/-- The value of a magnitude, counted in units. Below the least normal
magnitude the fraction counts units; above it the leading one is implied and
each step of the exponent doubles the value. The word of infinity gets the
value at which overflow begins to round up. -/
@[inline] def units (magnitude : Nat) : Nat :=
  let exponent := magnitude / Nat.pow 2 F.fractionBits
  let fraction := magnitude % Nat.pow 2 F.fractionBits
  if exponent = 0 then fraction
  else (Nat.pow 2 F.fractionBits + fraction) <<< (exponent - 1)

/-- The magnitude nearest to `numerator / denominator` units, ties to the
even word. A value that rounds past the largest finite one becomes
infinity. -/
@[inline] def roundUnits (numerator denominator : Nat) : Nat :=
  let shift := (numerator / denominator).log2 - F.fractionBits
  let significand :=
    roundHalfEven numerator (denominator <<< shift)
  min F.infinityWord (shift * Nat.pow 2 F.fractionBits + significand)

@[inline] def ofSign (negative : Bool) (magnitude : Nat) : Nat :=
  if negative then F.signWord + magnitude else magnitude

/-- The word of the format `target` nearest to the value of a word of the
format `source`, ties to even, overflow to infinity. What is not a number
stays so: it keeps its sign and the leading bits of its fraction, and becomes
quiet. -/
def convert (source target : BinaryFormat) (word : Nat) : Nat :=
  let magnitude := source.magnitude word
  target.ofSign (source.isNegative word) <|
    if source.isNaN word then
      let fraction := magnitude % Nat.pow 2 source.fractionBits
      let moved :=
        fraction * Nat.pow 2 target.fractionBits /
          Nat.pow 2 source.fractionBits
      target.infinityWord + (moved ||| target.quietBit)
    else if source.isInfinite word then
      target.infinityWord
    else
      target.roundUnits
        (source.units magnitude * Nat.pow 2 target.unitPlaces)
        (Nat.pow 2 source.unitPlaces)

end BinaryFormat

end ActuatorBus
