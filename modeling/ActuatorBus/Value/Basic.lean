import ActuatorBus.DeviceError
import ActuatorBus.Number

/-!
# Values of any kind

What is handed over under a key, or told to a fault, may be of any kind; its
use decides which kinds it can work with. A value can be a list of values, or
a record of values with keys.

Numbers and flags are compared by their numbers, texts by their characters,
lists and records by their items. Two failures are never the same one.
Equality of values as data is stricter: it tells a flag from the number it
counts as.
-/

namespace ActuatorBus

/-- Something that can be handed over. -/
inductive Value where
  | number (value : Number)
  | flag (value : Bool)
  | words (text : String)
  | failure (error : DeviceError)
  | nothing
  | several (items : List Value)
  /-- Items with keys, in the order of the keys. -/
  | record (keys : List String) (items : List Value)
deriving Repr, Inhabited

namespace Value

@[match_pattern] abbrev integer (n : Int) : Value := number (.integer n)

@[match_pattern] abbrev real (x : Double) : Value := number (.real x)

/-! ## Equality -/

mutual

/-- Whether two values are equal as data. -/
def equal : Value → Value → Bool
  | number a, number b => a == b
  | flag a, flag b => a == b
  | words a, words b => a == b
  | failure a, failure b => a == b
  | nothing, nothing => true
  | several first, several second => equalAll first second
  | record keys first, record others second =>
    keys == others && equalAll first second
  | _, _ => false

/-- Whether two lists of values are equal as data. -/
def equalAll : List Value → List Value → Bool
  | [], [] => true
  | a :: first, b :: second => equal a b && equalAll first second
  | _, _ => false

end

mutual

theorem equal_iff : ∀ a b : Value, equal a b = true ↔ a = b
  | number a, b => by cases b <;> simp [equal]
  | flag a, b => by cases b <;> simp [equal]
  | words a, b => by cases b <;> simp [equal]
  | failure a, b => by cases b <;> simp [equal]
  | nothing, b => by cases b <;> simp [equal]
  | several items, b => by
      cases b <;> simp [equal, equalAll_iff items]
  | record keys items, b => by
      cases b <;> simp [equal, equalAll_iff items]

theorem equalAll_iff :
    ∀ first second : List Value, equalAll first second = true ↔ first = second
  | [], second => by cases second <;> simp [equalAll]
  | a :: first, second => by
      cases second <;> simp [equalAll, equal_iff a, equalAll_iff first]

end

instance : DecidableEq Value := fun a b =>
  decidable_of_iff (equal a b = true) (equal_iff a b)

/-! ## Words -/

def kind : Value → String
  | number (.integer _) => "int"
  | number (.real _) => "float"
  | flag _ => "bool"
  | words _ => "str"
  | failure error => error.kind.label
  | nothing => "NoneType"
  | several _ => "list"
  | record _ _ => "dict"

mutual

/-- A value with its kind: a text stands between quotes. -/
def representation : Value → String
  | number value => value.text
  | flag true => "True"
  | flag false => "False"
  | words text => Text.quoted text
  | failure error => error.representation
  | nothing => "None"
  | several items => "[" ++ enumeration items ++ "]"
  | record keys items => "\x7b" ++ keyedEnumeration keys items ++ "\x7d"

/-- Values one after the other, with their kinds. -/
def enumeration : List Value → String
  | [] => ""
  | [value] => representation value
  | value :: rest => representation value ++ ", " ++ enumeration rest

/-- Values one after the other, each behind its key. -/
def keyedEnumeration : List String → List Value → String
  | key :: _, [value] => Text.quoted key ++ ": " ++ representation value
  | key :: keys, value :: rest =>
    Text.quoted key ++ ": " ++ representation value ++ ", " ++
      keyedEnumeration keys rest
  | _, _ => ""

end

def text : Value → String
  | words text => text
  | failure error => error.text
  | value => value.representation

/-- What the words of a fault come to: a single value is the text itself,
several are enumerated between parentheses. -/
def wording : List Value → String
  | [] => ""
  | [value] => value.text
  | values => "(" ++ enumeration values ++ ")"

/-! ## Integers -/

/-- An integer, which may have been given as a flag. -/
inductive Whole where
  | number (n : Int)
  | flag (value : Bool)
deriving DecidableEq, Repr

/-- The integer; a flag counts as one or zero. -/
def Whole.toInt : Whole → Int
  | number n => n
  | flag true => 1
  | flag false => 0

def Whole.toValue : Whole → Value
  | number n => integer n
  | flag value => .flag value

/-- The integer that a value is, if it is one. -/
def whole? : Value → Option Whole
  | integer n => some (.number n)
  | flag value => some (.flag value)
  | _ => none

/-! ## Comparison -/

/-- The number that a value is; a flag counts as one or zero. -/
def number? : Value → Option Number
  | number value => some value
  | flag true => some (.integer 1)
  | flag false => some (.integer 0)
  | words _ | failure _ | nothing | several _ | record _ _ => none

mutual

def same : Value → Value → Bool
  | number a, second => second.number?.any a.same
  | flag a, second =>
    second.number?.any (Number.integer (if a then 1 else 0)).same
  | words a, words b => a == b
  | nothing, nothing => true
  | several first, several second => sameAll first second
  | record keys first, record others second =>
    keys == others && sameAll first second
  | _, _ => false

/-- Whether two lists of values are the same, one value after the other. -/
def sameAll : List Value → List Value → Bool
  | [], [] => true
  | a :: first, b :: second => same a b && sameAll first second
  | _, _ => false

end

mutual

/-- Whether a value is less than another one, where values of their kinds have
an order. -/
def less? : Value → Value → Option Bool
  | number a, second => second.number?.map a.lt
  | flag a, second =>
    second.number?.map (Number.integer (if a then 1 else 0)).lt
  | words a, words b => some (a < b)
  | several first, several second => lessAll? first second
  | _, _ => none

/-- Whether a list of values is less than another one: the first values that
differ decide, and without any the length does. -/
def lessAll? : List Value → List Value → Option Bool
  | _, [] => some false
  | [], _ :: _ => some true
  | a :: first, b :: second =>
    if same a b then lessAll? first second else less? a b

end

@[simp] theorem same_integer (m n : Int) :
    (integer m).same (integer n) = (m == n) := by
  simp [same, number?, Number.same]

@[simp] theorem less?_integer (m n : Int) :
    (integer m).less? (integer n) = some (decide (m < n)) := by
  simp [less?, number?, Number.lt]

end Value

end ActuatorBus
