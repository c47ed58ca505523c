import ActuatorBus.Act
import ActuatorBus.Register.Basic

/-!
# Register tables

A table holds the registers of one address space, or registers of none. Tables
share their registers with whoever holds them: the registry owns all
registers, and a table refers to them by their place in it. Building a table
gives its registers addresses and the table's space; what was changed before a
fault stays changed.
-/

namespace ActuatorBus

/-- All registers, each known by its place. -/
structure Registry where
  registers : List Register
deriving DecidableEq, Repr

/-- The registers of one address space, by their places in the registry. -/
structure RegisterTable where
  space : Option AddressSpace
  members : List Nat
deriving DecidableEq, Repr

namespace Registry

def fetch (place : Nat) : Act Registry Register := do
  match (← Act.get).registers[place]? with
  | some register => return register
  | none => Act.fail .indexOutOfRange

def update (place : Nat) (change : Register → Register) : Act Registry Unit :=
  Act.modify fun registry => ⟨registry.registers.modify place change⟩

/-- Adds a register and gives its place. -/
def add (register : Register) : Act Registry Nat := do
  let registry ← Act.get
  Act.set ⟨registry.registers ++ [register]⟩
  return registry.registers.length

/-- Gives the registers at the places the addresses from `next` on. -/
def number : (next : Nat) → (places : List Nat) → Act Registry Unit
  | _, [] => pure ()
  | next, place :: rest => do
    update place fun register => { register with address := .integer next }
    number (next + 1) rest

/-- Takes the registers at the places into a table, given those that were
taken already: their spaces must not differ from the table's, their addresses
must fit in a byte, and neither a name nor an address may occur twice. -/
def enroll (space : Option AddressSpace) :
    (taken : List Register) → (places : List Nat) → Act Registry Unit
  | _, [] => pure ()
  | taken, place :: rest => do
    let register ← fetch place
    match register.space with
    | none => pure ()
    | some own =>
      Act.require (some own == space)
        (.foreignSpace register.label own space)
    update place fun register => { register with space := space }
    Act.require ((← Act.ofExcept register.address.needNumber).isWithin 0 255)
      (.addressTooLarge register.label register.address)
    Act.ofExcept register.name.checkKey
    Act.require (taken.all fun other => !other.name.same register.name)
      (.duplicateName register.label)
    Act.require (taken.all fun other => !other.address.same register.address)
      (.duplicateAddress register.address)
    enroll space (register :: taken) rest

/-- Builds the table of the registers at the places. If no register has an
address, they are numbered from zero. -/
def buildTable (space : Option AddressSpace) (places : List Nat) :
    Act Registry RegisterTable := do
  let registers ← places.mapM fetch
  Act.require (!registers.isEmpty) .noRegisters
  if registers.all fun register => register.address = .nothing then
    number 0 places
  else
    Act.require (registers.all fun register => register.address ≠ .nothing)
      .someAddressesMissing
  enroll space [] places
  return ⟨space, places⟩

/-- Builds the table of registers some of which could not be made. A missing
one is a fault, unless the registers before it already show that only some
have addresses. -/
def buildTableOf (space : Option AddressSpace) (places : List (Option Nat)) :
    Act Registry RegisterTable := do
  let present := (places.takeWhile Option.isSome).filterMap id
  if present.length = places.length then buildTable space present
  else
    let addresses := (← present.mapM fetch).map Register.address
    Act.require (addresses.all (· = .nothing) || addresses.all (· ≠ .nothing))
      .someAddressesMissing
    Act.fail .unassigned

end Registry

namespace RegisterTable

/-- What a table is indexed with. -/
inductive Key where
  | name (name : String)
  | index (index : Int)
  /-- Something that is neither a name nor an integer, in words. -/
  | other (text : String)
deriving DecidableEq, Repr

/-- The key that a value is. -/
def Key.ofValue : Value → Key
  | .words text => .name text
  | value =>
    match value.whole? with
    | some n => .index n.toInt
    | none => .other value.text

/-- The item of a list that an index means. A negative index counts from the
end. -/
def itemAt {α : Type} (items : List α) (index : Int) : Except Fault α :=
  let position := if index < 0 then index + items.length else index
  match if position < 0 then none else items[position.toNat]? with
  | some item => .ok item
  | none => .error .indexOutOfRange

variable (table : RegisterTable) (registry : Registry)

def registers : List Register :=
  table.members.filterMap fun place => registry.registers[place]?

def names : List Value := (table.registers registry).map Register.name

/-- The place of the first register with a property. -/
def findPlace? (property : Register → Bool) : Option Nat :=
  table.members.find? fun place =>
    (registry.registers[place]?).any property

def withName? (name : Value) : Option Nat :=
  table.findPlace? registry fun register => register.name.same name

/-- The place of the register that a key means. -/
def lookup : Key → Except Fault Nat
  | .name name =>
    match table.withName? registry (.words name) with
    | some place => .ok place
    | none => .error .missingKey
  | .index index => itemAt table.members index
  | .other text => .error (.unusableKey text)

def withAddress (address : Value) : Except Fault Nat :=
  match table.findPlace? registry fun register =>
      register.address.same address with
  | some place => .ok place
  | none => .error (.unknownAddress address)

/-- Whether a key is the name of a register of the table. -/
def hasKey : Key → Bool
  | .name name => (table.withName? registry (.words name)).isSome
  | .index _ | .other _ => false

/-- Whether the register at a place is one of the table's. -/
def hasPlace (place : Nat) : Except Fault Bool :=
  match registry.registers[place]? with
  | some register => do
    register.name.checkKey
    return table.withName? registry register.name == some place
  | none => .ok false

/-- A table in words; only a table of an address space has a name. -/
def text : Except Fault String :=
  match table.space with
  | none => .error .unassigned
  | some space =>
    .ok ("RegisterTable\x7b" ++ space.label ++ ", " ++
      toString table.members.length ++ " registers\x7d")

end RegisterTable

/-- A register as the only one of a table of its own. -/
def Register.alone (register : Register) (space : Option AddressSpace) :
    Except Fault Register := do
  let outcome := (Registry.buildTable space [0]).run ⟨[register]⟩
  let table ← outcome.result
  match table.registers outcome.state with
  | register :: _ => return register
  | [] => throw .indexOutOfRange

end ActuatorBus
