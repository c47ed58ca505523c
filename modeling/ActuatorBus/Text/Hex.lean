import ActuatorBus.Bytes
import ActuatorBus.Text.Blank

/-!
# Hexadecimal text

Bytes are shown as two lower-case digits, single numbers as at least two
upper-case digits behind `0x`. Bytes are read from digits of either case, with
blanks between them where one likes.
-/

namespace ActuatorBus.Text

/-- The two lower-case digits of a byte. -/
def hexByte (b : UInt8) : String :=
  String.ofList [Nat.digitChar (b.toNat / 16), Nat.digitChar (b.toNat % 16)]

/-- A byte string, two digits a byte, without separators. -/
def hex (bytes : Bytes) : String :=
  String.join (bytes.map hexByte)

/-- A byte string, two digits a byte, the bytes separated by one space. -/
def hexDump (bytes : Bytes) : String :=
  String.intercalate " " (bytes.map hexByte)

/-- The number that a hexadecimal digit stands for. -/
def hexDigit? (c : Char) : Option Nat :=
  if '0' ≤ c ∧ c ≤ '9' then some (c.toNat - '0'.toNat)
  else if 'a' ≤ c ∧ c ≤ 'f' then some (c.toNat - 'a'.toNat + 10)
  else if 'A' ≤ c ∧ c ≤ 'F' then some (c.toNat - 'A'.toNat + 10)
  else none

/-- The bytes that digits stand for, two digits a byte. Blanks may stand
around a byte, but not inside it. -/
def bytes? : List Char → Option Bytes
  | [] => some []
  | [c] => if isBlank c then some [] else none
  | c :: d :: rest =>
    if isBlank c then bytes? (d :: rest)
    else
      match hexDigit? c, hexDigit? d with
      | some high, some low =>
        (bytes? rest).map (UInt8.ofNat (high * 16 + low) :: ·)
      | _, _ => none

theorem hexDigit?_digitChar :
    ∀ n : Fin 16, hexDigit? (Nat.digitChar n) = some n.val := by
  decide

theorem isBlank_digitChar :
    ∀ n : Fin 16, isBlank (Nat.digitChar n) = false := by
  decide

theorem toList_hex (bytes : Bytes) :
    (hex bytes).toList = bytes.flatMap fun b => (hexByte b).toList := by
  simp [hex, String.toList_join, List.flatMap_map]

/-- Bytes are read back from the digits that show them. -/
theorem bytes?_hex (bytes : Bytes) :
    bytes? (hex bytes).toList = some bytes := by
  rw [toList_hex]
  induction bytes with
  | nil => rfl
  | cons b rest restRead =>
      have small := b.toNat_lt
      have high := hexDigit?_digitChar ⟨b.toNat / 16, by omega⟩
      have low := hexDigit?_digitChar ⟨b.toNat % 16, by omega⟩
      have shown := isBlank_digitChar ⟨b.toNat / 16, by omega⟩
      have value : b.toNat / 16 * 16 + b.toNat % 16 = b.toNat := by omega
      simp only [hexByte, String.toList_ofList] at restRead
      simp only at high low shown
      simp [hexByte, bytes?, high, low, shown, restRead, value]

/-- `digits` behind as many zeros as a text of `width` characters needs. -/
private def padZeros (width : Nat) (digits : List Char) : List Char :=
  List.replicate (width - digits.length) '0' ++ digits

/-- A number in upper-case digits behind `0x`. At least two characters follow
`0x`; the sign of a negative number counts as one of them. -/
def hexNumber (n : Int) : String :=
  let digits := (Nat.toDigits 16 n.natAbs).map Char.toUpper
  if n < 0 then
    "0x-" ++ String.ofList (padZeros 1 digits)
  else
    "0x" ++ String.ofList (padZeros 2 digits)

end ActuatorBus.Text
