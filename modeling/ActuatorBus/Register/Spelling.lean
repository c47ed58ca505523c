import ActuatorBus.Fault
import ActuatorBus.Text.Blank

/-!
# How number formats are spelled

A format is spelled in one of three ways: by a letter, by a kind and a size in
bytes as in `u4`, or by a name as in `int8`. A byte order may stand before the
first two. The formats of times carry a unit between brackets.

Formats can also be listed between commas, and each can say in front how often
it is repeated. What is listed or repeated is no number, unless the repetition
counts nothing at all.

`Spelling.ofText` only says what a spelling means. Which formats a register
can have is not decided here.
-/

namespace ActuatorBus

/-- What a format is a format of. -/
inductive ElementKind where
  | unsigned
  | signed
  | real
  /-- A row of units that take so many bytes each, such as a text. -/
  | row (unit : Nat)
  /-- Something else that is no number. -/
  | other
deriving DecidableEq, Repr

/-- Whether a format of the kind is a format of numbers. -/
def ElementKind.isNumber : ElementKind → Bool
  | unsigned | signed | real => true
  | row _ | other => false

/-- What a spelling means. -/
structure Spelling where
  kind : ElementKind
  /-- The bytes of an element. A row of no bytes has an open length. -/
  size : Nat
  /-- Whether the high byte comes first. -/
  bigEndian : Bool
deriving DecidableEq, Repr

namespace Spelling

/-! ## Single formats -/

/-- An element whose byte order is not spelled out. -/
private def sized (kind : ElementKind) (size : Nat) : Spelling :=
  ⟨kind, size, false⟩

/-- The greatest size and the greatest count that can be spelled out. -/
private def sizeLimit : Nat := 0x7FFFFFFF

/-- The formats in the order of their numbers. -/
private def numbered : List Spelling :=
  [sized .other 1, sized .signed 1, sized .unsigned 1, sized .signed 2,
    sized .unsigned 2, sized .signed 4, sized .unsigned 4, sized .signed 8,
    sized .unsigned 8, sized .signed 8, sized .unsigned 8, sized .real 4,
    sized .real 8, sized .real 16, sized .other 8, sized .other 16,
    sized .other 32, sized .other 8, sized (.row 1) 0, sized (.row 4) 0,
    sized (.row 1) 0, sized .other 8, sized .other 8, sized .real 2]

/-- The format that a letter stands for. A character that is no letter can
stand for the number of a format. -/
def ofLetter? (letter : Char) : Option Spelling :=
  if letter = 'b' then some (sized .signed 1)
  else if letter = 'B' then some (sized .unsigned 1)
  else if letter = 'h' then some (sized .signed 2)
  else if letter = 'H' then some (sized .unsigned 2)
  else if letter = 'i' then some (sized .signed 4)
  else if letter = 'I' then some (sized .unsigned 4)
  else if letter ∈ ['l', 'q', 'n', 'p'] then some (sized .signed 8)
  else if letter ∈ ['L', 'Q', 'N', 'P'] then some (sized .unsigned 8)
  else if letter = 'e' then some (sized .real 2)
  else if letter = 'f' then some (sized .real 4)
  else if letter = 'd' then some (sized .real 8)
  else if letter = 'g' then some (sized .real 16)
  else if letter = '?' then some (sized .other 1)
  else if letter ∈ ['F', 'O', 'M', 'm'] then some (sized .other 8)
  else if letter ∈ ['D', 'T'] then some (sized .other 16)
  else if letter = 'G' then some (sized .other 32)
  else if letter ∈ ['S', 'V'] then some (sized (.row 1) 0)
  else if letter = 'U' then some (sized (.row 4) 0)
  else if letter = 'c' then some (sized (.row 1) 1)
  else numbered[letter.toNat]?

/-- The format of a kind with a size in bytes, or in units of a row. -/
def ofKind? (kind : Char) (size : Nat) : Option Spelling :=
  if kind = 'u' then
    if size ∈ [1, 2, 4, 8] then some (sized .unsigned size) else none
  else if kind = 'i' then
    if size ∈ [1, 2, 4, 8] then some (sized .signed size) else none
  else if kind = 'f' then
    if size ∈ [2, 4, 8, 16] then some (sized .real size) else none
  else if kind = 'b' then
    if size = 1 then some (sized .other 1) else none
  else if kind = 'c' then
    if size ∈ [8, 16, 32] then some (sized .other size) else none
  else if kind = 'O' then
    if size ∈ [4, 8] then some (sized .other 8) else none
  else if kind ∈ ['M', 'm'] then
    if size = 8 then some (sized .other 8) else none
  else if kind ∈ ['S', 'a', 'V'] then some (sized (.row 1) size)
  else if kind = 'U' then
    if 4 * size ≤ sizeLimit then some (sized (.row 4) (4 * size)) else none
  else none

def ofName? (name : String) : Option Spelling :=
  if name ∈ ["int8", "byte"] then some (sized .signed 1)
  else if name ∈ ["uint8", "ubyte"] then some (sized .unsigned 1)
  else if name ∈ ["int16", "short"] then some (sized .signed 2)
  else if name ∈ ["uint16", "ushort"] then some (sized .unsigned 2)
  else if name ∈ ["int32", "intc"] then some (sized .signed 4)
  else if name ∈ ["uint32", "uintc"] then some (sized .unsigned 4)
  else if name ∈ ["int64", "long", "longlong", "intp", "int_", "int"] then
    some (sized .signed 8)
  else if name ∈ ["uint64", "ulong", "ulonglong", "uintp", "uint"] then
    some (sized .unsigned 8)
  else if name ∈ ["float16", "half"] then some (sized .real 2)
  else if name ∈ ["float32", "single"] then some (sized .real 4)
  else if name ∈ ["float64", "double", "float"] then some (sized .real 8)
  else if name ∈ ["float128", "longdouble"] then some (sized .real 16)
  else if name ∈ ["bool", "bool_"] then some (sized .other 1)
  else if name ∈ ["complex64", "csingle", "object_", "object"] then
    some (sized .other 8)
  else if name ∈ ["complex128", "cdouble", "complex"] then
    some (sized .other 16)
  else if name ∈ ["complex256", "clongdouble"] then some (sized .other 32)
  else if name ∈ ["bytes_", "bytes", "a", "void"] then some (sized (.row 1) 0)
  else if name ∈ ["str_", "str", "unicode"] then some (sized (.row 4) 0)
  else none

/-- The integer at the front of some characters, after blanks and a sign, and
what follows it. -/
private def leadingInteger? (characters : List Char) :
    Option (Int × List Char) :=
  let (negative, rest) : Bool × List Char :=
    match characters.dropWhile Text.isBlank with
    | '-' :: rest => (true, rest)
    | '+' :: rest => (false, rest)
    | rest => (false, rest)
  let digits := rest.takeWhile Char.isDigit
  if digits.isEmpty then none
  else
    let size : Int := Text.decimal digits
    some (if negative then -size else size, rest.drop digits.length)

/-- The least number that is too large for eight bytes with a sign. -/
private def uncountable : Nat := 0x8000000000000000

/-- Whether an integer can be a size or a count. -/
private def inLimits (n : Int) : Bool := 0 ≤ n && n ≤ sizeLimit

/-- The size that characters spell. -/
private def size? (characters : List Char) : Option Nat :=
  match leadingInteger? characters with
  | some (n, []) => if inLimits n then some n.toNat else none
  | _ => none

/-- The format that a spelling without a byte order means, apart from names
and times. -/
private def ofUnordered? (characters : List Char) : Option Spelling :=
  match characters with
  | [] => none
  | [letter] => ofLetter? letter
  | kind :: rest => size? rest >>= ofKind? kind

/-! ## Times -/

/-- A unit in which times are counted, with its multiples that are whole
counts of a smaller unit; an unspecific one has none. A week has also the one
of no length. -/
private def timeUnit? (name : String) : Option (List Int) :=
  if name = "Y" then some [12, 52, 365]
  else if name = "M" then some [4, 30, 720]
  else if name = "W" then some [7, 168, 10080, 0]
  else if name = "D" then some [24, 1440, 86400]
  else if name = "h" then some [60, 3600]
  else if name = "m" then some [60, 60000]
  else if name ∈ ["s", "ms", "us", "μs", "ns", "ps"] then
    some [1000, 1000000]
  else if name = "fs" then some [1000]
  else if name ∈ ["as", "generic"] then some []
  else none

/-- What lies behind the spelling of a time, if a spelling is one. -/
private def afterTime? (characters : List Char) : Option (List Char) :=
  match characters with
  | 'M' :: '8' :: rest | 'm' :: '8' :: rest => some rest
  | characters =>
    if "datetime64".toList.isPrefixOf characters then
      some (characters.drop 10)
    else if "timedelta64".toList.isPrefixOf characters then
      some (characters.drop 11)
    else none

/-- The divisor that an integer stands for: as many as fit into eight bytes,
of which the low four count. -/
private def divisor (n : Int) : Int :=
  let greatest : Int := uncountable - 1
  Int.bmod (max (-greatest - 1) (min n greatest)) 0x100000000

/-- Checks a unit of time: a count, the unit, and a divisor that divides one
of its multiples. -/
private def checkTimeUnit (characters : List Char) : Except Fault Unit := do
  let rest ←
    match leadingInteger? characters with
    | none => pure characters
    | some (count, rest) =>
      if inLimits count then pure rest else throw .unreadableFormat
  let unit := rest.takeWhile (· != '/')
  match timeUnit? (String.ofList unit), rest.drop unit.length with
  | none, _ => throw .unreadableFormat
  | some _, [] => return
  | some multiples, _ :: behind =>
    match leadingInteger? behind with
    | some (n, []) =>
      let divisor := divisor n
      if divisor != 1 && multiples.all fun n => Int.tmod n divisor != 0 then
        throw .inconsistentFormat
    | _ => throw .unreadableFormat

/-- Checks what lies behind the spelling of a time: nothing, or a unit between
brackets. -/
private def checkTime (characters : List Char) : Except Fault Unit := do
  match characters with
  | [] => return
  | '[' :: rest =>
    let unit := rest.takeWhile (· != ']')
    match rest.drop unit.length with
    | [] => throw .unreadableFormat
    | _ :: behind => do
      if unit.isEmpty then throw .unreadableFormat
      checkTimeUnit unit
      if !behind.isEmpty then throw .unreadableFormat
  | _ => throw .unreadableFormat

/-- The characters of the byte orders. -/
private def orders : List Char := ['<', '>', '=', '|']

/-- The byte order at the front of a spelling, and what follows it. -/
private def order (characters : List Char) : Option Char × List Char :=
  match characters with
  | c :: rest => if c ∈ orders then (some c, rest) else (none, c :: rest)
  | [] => (none, [])

/-- The format that a single spelling means. Names have no byte order. -/
private def ofSingle (characters : List Char) : Except Fault Spelling := do
  let (mark, rest) := order characters
  match afterTime? rest with
  | some unit => do
    checkTime unit
    return sized .other 8
  | none =>
    match ofUnordered? rest with
    | some spelling => return { spelling with bigEndian := mark == some '>' }
    | none =>
      match ofName? (String.ofList characters) with
      | some spelling => return spelling
      | none => throw .unreadableFormat

/-! ## Repetitions -/

/-- How often a format is repeated: a number of times, or along several
counts. -/
private inductive Repetition where
  | times (count : Nat)
  | along (counts : List Nat)

/-- Characters without the spaces around them. -/
private def trim (characters : List Char) : List Char :=
  Text.trim (· == ' ') characters

/-- Characters cut at the commas. -/
private def cutAtCommas : (piece characters : List Char) → List (List Char)
  | piece, [] => [piece.reverse]
  | piece, c :: rest =>
    if c = ',' then piece.reverse :: cutAtCommas [] rest
    else cutAtCommas (c :: piece) rest

/-- A count. It begins with a zero only if all digits are zeros, and is not
too long to be read. -/
private def count? (characters : List Char) : Option Nat :=
  let digits := trim characters
  let wellFormed :=
    !digits.isEmpty && digits.all Char.isDigit &&
      (digits.all (· == '0') ||
        (digits.head? != some '0' && digits.length ≤ Numeral.digitLimit))
  if wellFormed then some (Text.decimal digits) else none

/-- One count, or several with commas between them and maybe one behind. -/
private def repetition? (characters : List Char) : Option Repetition :=
  match cutAtCommas [] characters with
  | [single] => (count? single).map .times
  | pieces =>
    let pieces :=
      if (pieces.getLast?.map trim) == some [] then pieces.dropLast
      else pieces
    (pieces.mapM count?).map .along

/-- The repetition that characters spell, maybe between parentheses, where
there may be no counts at all. -/
private def Repetition.ofCharacters? (characters : List Char) :
    Option Repetition :=
  match trim characters with
  | '(' :: rest =>
    if rest.getLast? == some ')' then
      let counts := rest.dropLast
      if (trim counts).isEmpty then some (.along []) else repetition? counts
    else none
  | counts => repetition? counts

/-- The greatest number of counts along which a format is repeated. -/
private def countLimit : Nat := 64

/-- The product of some counts, which must be countable up to the first
zero. -/
private def elements? : (product : Nat) → (counts : List Nat) → Option Nat
  | product, [] => some product
  | product, count :: rest =>
    if count = 0 then some 0
    else if uncountable ≤ product * count then none
    else elements? (product * count) rest

/-- A format repeated along some counts. Without elements it is a row of open
length. -/
private def repeatAlong (counts : List Nat) (spelling : Spelling) :
    Except Fault Spelling :=
  if counts.isEmpty then .ok spelling
  else if countLimit < counts.length || counts.any (sizeLimit < ·) then
    .error .inconsistentFormat
  else
    match elements? 1 counts with
    | none => .error .inconsistentFormat
    | some elements =>
      let size := elements * spelling.size
      if sizeLimit < elements || sizeLimit < size then
        .error .inconsistentFormat
      else .ok (sized (if size = 0 then .row 1 else .other) size)

/-- A repeated format. A row of open length gets its length in this way. -/
private def repeated (repetition : Repetition) (spelling : Spelling) :
    Except Fault Spelling :=
  match spelling.kind, spelling.size, repetition with
  | .row unit, 0, .times count =>
    if count * unit ≤ sizeLimit then .ok (sized (.row unit) (count * unit))
    else .error .inconsistentFormat
  | .row _, 0, .along _ => .error .inconsistentFormat
  | _, _, .times count => repeatAlong [count] spelling
  | _, _, .along counts => repeatAlong counts spelling

/-! ## Lists of formats -/

/-- One of several formats: how it is spelled, with its byte order, and how
often it is repeated. -/
private structure Piece where
  repetition : Option Repetition
  format : List Char

/-- The characters at the front that spell a repetition, and the others. -/
private def spanRepetition (characters : List Char) : List Char × List Char :=
  let isSpace := fun (c : Char) => c == ' '
  let rest := characters.dropWhile isSpace
  let rest := if rest.head? == some '(' then rest.drop 1 else rest
  let rest := rest.dropWhile fun c => c == ' ' || c == ',' || c.isDigit
  let rest := if rest.head? == some ')' then rest.drop 1 else rest
  let rest := rest.dropWhile isSpace
  (characters.take (characters.length - rest.length), rest)

/-- The characters at the front that spell a format, and the others. -/
private def spanFormat (characters : List Char) : List Char × List Char :=
  let rest := characters.dropWhile fun c =>
    c.isAlphanum || c == '.' || c == '?'
  let rest :=
    match rest with
    | '[' :: inside =>
      match inside.dropWhile fun c =>
          c.isAlphanum || c == '.' || c == ',' with
      | ']' :: behind =>
        if inside.head? == some ']' then rest else behind
      | _ => rest
    | _ => rest
  (characters.take (characters.length - rest.length), rest)

/-- Whether a character is blank, as it may stand around a comma. -/
private def isAround (c : Char) : Bool :=
  Text.isBlank c || Text.isWideBlank c || (0x1C ≤ c.toNat && c.toNat ≤ 0x1F)

/-- What lies behind a comma after a piece; nothing, if nothing but blanks
follows the piece. -/
private def behindPiece (characters : List Char) :
    Except Fault (Option (List Char)) :=
  match characters.dropWhile isAround with
  | [] => .ok none
  | ',' :: rest => .ok (some (rest.dropWhile isAround))
  | _ => .error .inconsistentFormat

/-- The byte order that two marks agree on. The low byte comes first unless
one is told otherwise. -/
private def agreed : (first second : Option Char) → Except Fault (List Char)
  | some a, some b =>
    let usual := fun (c : Char) => if c = '=' then '<' else c
    if usual a = usual b then .ok (if a = '>' then ['>'] else [])
    else .error .inconsistentFormat
  | first, second => .ok (if first.or second == some '>' then ['>'] else [])

/-- The pieces of a list of formats, and whether there is a comma between or
behind them. Every piece or the comma behind it takes a character. -/
private def pieces : (limit : Nat) → List Char →
    Except Fault (List Piece × Bool)
  | 0, _ | _, [] => .ok ([], false)
  | limit + 1, characters => do
    let (first, rest) := order characters
    let (counts, rest) := spanRepetition rest
    let (second, rest) := order rest
    let (format, rest) := spanFormat rest
    let next ← behindPiece rest
    let mark ← agreed first second
    let repetition ←
      if counts.isEmpty then pure none
      else
        match Repetition.ofCharacters? counts with
        | some repetition => pure (some repetition)
        | none => throw .malformedRepeat
    let piece : Piece := ⟨repetition, mark ++ format⟩
    match next with
    | none => return ([piece], false)
    | some rest => return (piece :: (← pieces limit rest).1, true)

/-- Pieces without the last one if it spells nothing. -/
private def dropVoid (pieces : List Piece) : List Piece :=
  let isVoid := fun (piece : Piece) =>
    piece.repetition.isNone && piece.format.isEmpty
  if pieces.getLast?.any isVoid then pieces.dropLast else pieces

/-- Whether there is a comma outside of brackets. -/
private def hasComma : (depth : Int) → List Char → Bool
  | _, [] => false
  | depth, c :: rest =>
    if c = ',' then depth == 0 || hasComma depth rest
    else if c = '[' then hasComma (depth + 1) rest
    else if c = ']' then hasComma (depth - 1) rest
    else hasComma depth rest

/-- Whether a spelling lists or repeats formats: it begins with a digit or
with an empty pair of parentheses, or has a comma. -/
private def isComposed (characters : List Char) : Bool :=
  let beginsRepeated (characters : List Char) : Bool :=
    match characters with
    | '(' :: ')' :: _ => true
    | c :: _ => c.isDigit
    | [] => false
  beginsRepeated characters || beginsRepeated (order characters).2 ||
    hasComma 0 characters

/-- The format that characters mean. A piece of a composed spelling is shorter
than the whole. -/
private def ofCharacters : (limit : Nat) → List Char →
    Except Fault Spelling
  | 0, characters => ofSingle characters
  | limit + 1, characters => do
    if !isComposed characters then ofSingle characters
    else
      let (pieces, listed) ← pieces characters.length characters
      let pieces := if listed then dropVoid pieces else pieces
      if pieces.isEmpty then throw .inconsistentFormat
      let formats ← pieces.mapM fun piece => do
        let spelling ← ofCharacters limit piece.format
        match piece.repetition with
        | some repetition => repeated repetition spelling
        | none => return spelling
      match formats, listed with
      | [spelling], false => return spelling
      | formats, _ =>
        return sized .other
          (formats.foldl (fun sum spelling => sum + spelling.size) 0)

/-- What a spelling means. -/
def ofText (text : String) : Except Fault Spelling :=
  ofCharacters text.length text.toList

end Spelling

end ActuatorBus
