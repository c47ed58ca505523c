import ActuatorBus.Text.Hex
import ActuatorBus.Text.Printable

/-!
# Quoted text

Texts and byte strings are quoted with single quotes, unless they hold a
single quote and no double quote. What is not printable is escaped by its
code.
-/

namespace ActuatorBus.Text

def singleQuote : Char := Char.ofNat 0x27

/-- The quote around a text that holds only single quotes. -/
def doubleQuote : Char := Char.ofNat 0x22

/-- The character that begins every escape. -/
def backslash : Char := Char.ofNat 0x5C

/-- The quote that encloses a text of the given characters. -/
def quoteFor (characters : List Char) : Char :=
  if singleQuote ∈ characters ∧ doubleQuote ∉ characters then doubleQuote
  else singleQuote

/-- The lower-case hexadecimal digits of a code, at least `width` of them. -/
private def codeDigits (width code : Nat) : List Char :=
  let digits := Nat.toDigits 16 code
  List.replicate (width - digits.length) '0' ++ digits

/-- A backslash and what follows it. -/
private def escaped (rest : List Char) : List Char := backslash :: rest

/-- A character inside quotes, given whether it is shown as it is. -/
private def escape (quote : Char) (shown : Char → Bool) (c : Char) :
    List Char :=
  if c = quote ∨ c = backslash then escaped [c]
  else if c = '\t' then escaped ['t']
  else if c = '\n' then escaped ['n']
  else if c = '\r' then escaped ['r']
  else if shown c then [c]
  else if c.toNat ≤ 0xFF then escaped ('x' :: codeDigits 2 c.toNat)
  else if c.toNat ≤ 0xFFFF then escaped ('u' :: codeDigits 4 c.toNat)
  else escaped ('U' :: codeDigits 8 c.toNat)

/-- Characters between quotes. -/
private def enclose (shown : Char → Bool) (characters : List Char) : String :=
  let quote := quoteFor characters
  String.ofList
    (quote :: characters.flatMap (escape quote shown) ++ [quote])

def quoted (text : String) : String := enclose isPrintable text.toList

/-- A byte string between quotes, behind the letter `b`; bytes outside the
seven-bit range are not printable. -/
def quotedBytes (bytes : Bytes) : String :=
  "b" ++ enclose (fun c => c.toNat < 0x80 && isPrintable c)
    (bytes.map fun b => Char.ofNat b.toNat)

end ActuatorBus.Text
