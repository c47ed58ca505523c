/-!
# Blank characters

The blanks of the seven-bit range stand before and behind numbers everywhere;
where other scripts are read, too, there are more of them.
-/

namespace ActuatorBus.Text

/-- Whether a character is a space, or one of the five controls that move to
another place on the page. -/
def isBlank (c : Char) : Bool :=
  c == ' ' || (9 ≤ c.toNat && c.toNat ≤ 13)

/-- Whether a character beyond the seven-bit range is a blank. -/
def isWideBlank (c : Char) : Bool :=
  (0x2000 ≤ c.toNat && c.toNat ≤ 0x200A) ||
    c.toNat ∈ [0x85, 0xA0, 0x1680, 0x2028, 0x2029, 0x202F, 0x205F, 0x3000]

/-- Characters without the blanks before and behind them. -/
def trim (blank : Char → Bool) (characters : List Char) : List Char :=
  ((characters.dropWhile blank).reverse.dropWhile blank).reverse

end ActuatorBus.Text
