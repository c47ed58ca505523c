import ActuatorBus.Fault

/-!
# What uses need of values

A value of a kind that its use cannot work with is refused there: as
`Fault.unsuitable`, or as `Fault.notANumber` where a text or a double stands
for digits.
-/

namespace ActuatorBus

namespace Value

/-- The number that a value has to be. -/
def needNumber (value : Value) : Except Fault Number :=
  match value.number? with
  | some n => .ok n
  | none => .error .unsuitable

/-- The integer that a value has to be where its digits are written. -/
def needDigits (value : Value) : Except Fault Whole :=
  match value.whole?, value with
  | some n, _ => .ok n
  | none, number _ | none, words _ => .error .notANumber
  | none, _ => .error .unsuitable

/-- The integer that a value has to be where it counts something. -/
def needCount (value : Value) : Except Fault Int :=
  match value.whole? with
  | some n => .ok n.toInt
  | none => .error .unsuitable

/-- The whole number that is made of a value: a double loses its fraction, a
text is read. -/
def wholeNumber : Value → Except Fault Int
  | number n => n.truncate
  | flag value => .ok (if value then 1 else 0)
  | words text =>
    match Numeral.integer? text with
    | some n => .ok n
    | none => .error .notANumber
  | failure _ | nothing | several _ | record _ _ => .error .unsuitable

/-- The digits of the whole number next to the number that a value has to be,
on the side of zero. -/
def decimal (value : Value) : Except Fault String := do
  return toString (← (← value.needNumber).truncate)

/-- The bytes whose hexadecimal digits a text has to be. -/
def needBytes : Value → Except Fault Bytes
  | words digits =>
    match Text.bytes? digits.toList with
    | some bytes => .ok bytes
    | none => .error .notANumber
  | _ => .error .unsuitable

/-- The items that a value has to list, if it is one. A text lists its
characters, a record its keys. -/
def needItems : Value → Except Fault (Option (List Value))
  | several items => .ok (some items)
  | words text =>
    .ok (some (text.toList.map fun c => words (String.singleton c)))
  | record keys _ => .ok (some (keys.map words))
  | nothing => .ok none
  | number _ | flag _ | failure _ => .error .unsuitable

/-- The items of a value that has to list some. -/
def itemsNeeded (value : Value) : Except Fault (List Value) := do
  match ← value.needItems with
  | some items => return items
  | none => throw .unsuitable

/-- The place that a value has to be where something starts; without a value
it starts at the front. -/
def needStart : Value → Except Fault Int
  | nothing => .ok 0
  | value => value.needCount

/-- Whether a value can be looked up. A list or a record cannot, not even in
vain. -/
def checkKey : Value → Except Fault Unit
  | several _ | record _ _ => .error .unsuitable
  | _ => .ok ()

/-- What entries hold under a key. -/
def lookup {α : Type} (key : Value) (entries : List (Value × α)) :
    Except Fault α := do
  key.checkKey
  match entries.find? fun entry => entry.1.same key with
  | some entry => return entry.2
  | none => throw .missingKey

/-- Whether a value counts as a yes: a number other than zero, and what is not
empty. -/
def isTruthy : Value → Bool
  | number n => !n.same (.integer 0)
  | flag value => value
  | words text => !text.isEmpty
  | failure _ => true
  | nothing => false
  | several items => !items.isEmpty
  | record keys _ => !keys.isEmpty

/-- Whether a value is less than another one, which must have an order. -/
def less (first second : Value) : Except Fault Bool :=
  match first.less? second with
  | some answer => .ok answer
  | none => .error .unsuitable

end Value

/-- Refuses a size without room for the required bytes. -/
def checkRoom (required total : Value) : Except Fault Unit := do
  if ← total.less required then
    throw (.reported (.bufferTooSmall required total))

/-- Refuses the checksum of a message, given the one of its bytes. The digits
of both are written down for it. -/
def refuseChecksum (received computed : Value) : Except Fault Unit := do
  let received ← received.needDigits
  throw (.reported (.checksum received (← computed.needDigits)))

/-- Refuses a packet id, given the expected one if there is any. The digits
of both are written down for it. -/
def refuseId (actual expected : Value) : Except Fault Unit := do
  let expected ←
    match expected with
    | .nothing => pure none
    | expected => do pure (some (← expected.needDigits))
  match ← actual.needDigits, expected with
  | .number actual, some (.number expected) =>
    throw (.invalidPacketId actual (some expected))
  | actual, expected => throw (.reported (.packetId actual expected))

/-- Refuses a packet id that is not the expected one. -/
def checkSameId (actual expected : Value) : Except Fault Unit :=
  if actual.same expected then .ok () else refuseId actual expected

@[simp] theorem checkSameId_integer (actual expected : Int) :
    checkSameId (.integer actual) (.integer expected) =
      checkPacketId actual expected := by
  by_cases equal : actual = expected
  · simp [checkSameId, checkPacketId, equal]
  · simp [checkSameId, checkPacketId, refuseId, Value.needDigits, equal]
    rfl

/-- Refuses a count that is not bounded as it should be. -/
def ExpectedCount.Bound.check (bound : ExpectedCount.Bound)
    (actual count : Value) : Except Fault Unit := do
  let refused ←
    match bound with
    | exactly => pure !(actual.same count)
    | atMost => count.less actual
    | atLeast => actual.less count
  if refused then
    throw (.reported
      (.parameterCount actual (.requirement ⟨.words bound.text, count⟩)))

/-- The flags of a value, which has to be an integer. -/
def ErrorFlags.ofValue (value : Value) : Except Fault ErrorFlags :=
  match value.needCount with
  | .ok n => .ok (ofInt n)
  | .error _ => .error .notANumber

/-- The address space that a value names, if it is one. -/
def AddressSpace.ofValue : Value → Except Fault (Option AddressSpace)
  | .nothing => .ok none
  | name =>
    name.lookup ([config, status].map fun space =>
      (.words space.label, some space))

/-- The least size that no buffer has because it cannot be counted. -/
def uncountableSize : Int := 0x8000000000000000

/-- The least size for which there is no memory. Where it lies depends on the
machine: this is the one of a machine that has memory for buffers of less than
64 GiB and no more. -/
def unavailableSize : Int := 0x1000000000

/-- The bytes of values, all of which must be bytes. -/
def Bytes.ofValues (values : List Value) : Except Fault Bytes :=
  values.mapM fun value => do
    match Bytes.ofInt? (← value.needCount) with
    | some b => return b
    | none => throw .notAByte

/-- A buffer of the given size, filled with zeros, or with the given
bytes. -/
def Bytes.allocate : (size : Value) → Except Fault Bytes
  | .several items => Bytes.ofValues items
  | .record keys _ => Bytes.ofValues (keys.map .words)
  | size => do
    let size ← size.needCount
    if size < 0 then throw .negativeSize
    if uncountableSize ≤ size then throw .overflow
    if unavailableSize ≤ size then throw .outOfMemory
    return List.replicate size.toNat 0

end ActuatorBus
