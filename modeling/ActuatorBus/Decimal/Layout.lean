import ActuatorBus.Decimal.Shortest

/-!
# The text of a number

Integers are written in decimal. Doubles are written with the fewest digits
that identify them, positionally while the exponent of the leading digit lies
in `plain`, otherwise with an exponent.
-/

namespace ActuatorBus

namespace Decimal

/-- How doubles are written. -/
structure Layout where
  /-- The least exponent of the leading digit that is written
  positionally. -/
  plainFrom : Int
  /-- The least exponent of the leading digit, above `plainFrom`, that is
  written with an exponent again. -/
  plainBelow : Int
  /-- The least number of digits of an exponent. -/
  exponentDigits : Nat
  /-- The text of what is not a number. -/
  notANumber : String
  infinite : String

/-- The digits of `n`, left-padded with zeros to `width`. -/
private def padded (width n : Nat) : String :=
  let digits := toString n
  String.ofList (List.replicate (width - digits.length) '0') ++ digits

/-- The text of a positive decimal in a layout: a whole number keeps one zero
behind the point, the mantissa of an exponent form keeps none. -/
def render (layout : Layout) (d : Decimal) : String :=
  let digits := (toString d.digits).toList
  let leading : Int := d.exponent + digits.length - 1
  if layout.plainFrom ≤ leading ∧ leading < layout.plainBelow then
    if 0 ≤ d.exponent then
      String.ofList (digits ++ List.replicate d.exponent.toNat '0') ++ ".0"
    else if 0 ≤ leading then
      let whole := (leading + 1).toNat
      String.ofList (digits.take whole) ++ "." ++
        String.ofList (digits.drop whole)
    else
      "0." ++
        String.ofList (List.replicate (-leading - 1).toNat '0' ++ digits)
  else
    let mantissa :=
      match digits with
      | [] => ""
      | [single] => String.ofList [single]
      | first :: rest => String.ofList (first :: '.' :: rest)
    mantissa ++ (if leading < 0 then "e-" else "e+") ++
      padded layout.exponentDigits leading.natAbs

end Decimal

namespace Double

/-- Doubles in messages are positional from `0.0001` to below `10 ^ 16`; an
exponent has at least two digits. -/
def layout : Decimal.Layout where
  plainFrom := -4
  plainBelow := 16
  exponentDigits := 2
  notANumber := "nan"
  infinite := "inf"

def text (x : Double) : String :=
  if x.isNaN then layout.notANumber
  else
    (if x.isNegative then "-" else "") ++
      if x.isInfinite then layout.infinite
      else if x.magnitude = 0 then "0.0"
      else (Decimal.shortest x.magnitude).render layout

end Double

end ActuatorBus
