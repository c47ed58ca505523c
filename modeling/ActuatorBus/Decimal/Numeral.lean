import ActuatorBus.Binary.Double
import ActuatorBus.Text.Blank
import ActuatorBus.Text.Digit

/-!
# Numbers in words

A text can stand for an integer or for a double. Blanks around the number do
not matter, its digits can be those of any script, and a low line may stand
between two digits.

The double is the one nearest to the decimal meant. An exponent beyond all
doubles is not computed with.
-/

namespace ActuatorBus.Numeral

/-- Whether a character is a blank of any script. -/
private def isAnyBlank (c : Char) : Bool :=
  Text.isBlank c || Text.isWideBlank c

/-- Whether a character is a decimal digit of any script. -/
private def isDigit (c : Char) : Bool := (Text.digit? c).isSome

/-- The sign in front of some characters, and the others. -/
private def splitSign : List Char → Bool × List Char
  | '-' :: rest => (true, rest)
  | '+' :: rest => (false, rest)
  | rest => (false, rest)

/-- Characters without the low lines between two digits, unless there is one
elsewhere. The first argument says whether a digit stands before. -/
private def dropLowLines? : (behindDigit : Bool) → List Char →
    Option (List Char)
  | _, [] => some []
  | behindDigit, c :: rest =>
    if c = '_' then
      if behindDigit && rest.head?.any isDigit then
        dropLowLines? false rest
      else none
    else (dropLowLines? (isDigit c) rest).map (c :: ·)

/-- The most digits with which an integer is read or written. -/
def digitLimit : Nat := 4300

/-- Whether an integer has no more digits than are written. -/
def isWritable (n : Int) : Bool := n.natAbs < Nat.pow 10 digitLimit

/-- The integer that a text stands for. -/
def integer? (text : String) : Option Int := do
  let (negative, rest) :=
    splitSign (Text.trim isAnyBlank text.toList)
  let digits ← dropLowLines? false rest
  guard (!digits.isEmpty && digits.all isDigit &&
    digits.length ≤ digitLimit)
  let size : Int := Text.decimal digits
  return if negative then -size else size

/-- The greatest exponent of the leading digit that is computed with. -/
private def exponentLimit : Int := 400

/-- The double nearest to a whole number of powers of ten. -/
def scaled (negative : Bool) (digits : Nat) (exponent : Int) : Double :=
  let leading := exponent + (toString digits).length
  if digits = 0 || leading < -exponentLimit then .nearest negative 0 1
  else if exponentLimit < leading then .infinity negative
  else if 0 ≤ exponent then
    .nearest negative
      (digits * Nat.pow 10 exponent.toNat * Double.unitsPerOne) 1
  else
    .nearest negative (digits * Double.unitsPerOne)
      (Nat.pow 10 exponent.natAbs)

/-- The exponent that characters behind a mantissa stand for; without any it
is zero. -/
private def exponent? : List Char → Option Int
  | [] => some 0
  | mark :: rest =>
    let (negative, digits) := splitSign rest
    if mark.toLower = 'e' && !digits.isEmpty && digits.all isDigit then
      let size : Int := Text.decimal digits
      some (if negative then -size else size)
    else none

/-- The double that unsigned characters stand for: an infinity, what is not a
number, or a decimal with a point or an exponent. -/
private def unsigned? (negative : Bool) (characters : List Char) :
    Option Double :=
  let name := String.ofList (characters.map Char.toLower)
  if name = "inf" || name = "infinity" then some (.infinity negative)
  else if name = "nan" then
    some (if negative then Double.nan.neg else .nan)
  else do
    let whole := characters.takeWhile isDigit
    let rest := characters.drop whole.length
    let (part, rest) :=
      match rest with
      | '.' :: behind =>
        let part := behind.takeWhile isDigit
        (part, behind.drop part.length)
      | rest => ([], rest)
    guard (!(whole ++ part).isEmpty)
    let exponent ← exponent? rest
    return scaled negative (Text.decimal (whole ++ part))
      (exponent - part.length)

/-- The double that a text stands for. -/
def double? (text : String) : Option Double := do
  let characters ←
    dropLowLines? false (Text.trim isAnyBlank text.toList)
  let (negative, rest) := splitSign characters
  unsigned? negative rest

end ActuatorBus.Numeral
