import ActuatorBus.Register.Map

/-!
# Requests

What an operation on registers asks of a motor: an instruction, its
parameters, and how many parameters the reply is expected to have.
-/

namespace ActuatorBus

structure Request where
  code : Value
  parameterCount : Int
  /-- The number of parameters of the reply. -/
  expected : Value
  fill : Option Filler

namespace Request

def pingParameters : Value := .integer 4

def bare (instruction : Instruction) (expected : Value) : Request :=
  ⟨.integer instruction.code.toNat, 0, expected, none⟩

def read (register : Register) : Except Fault Request := do
  let instruction ← register.readInstruction
  return {
    code := .integer instruction.code.toNat
    parameterCount := 1
    expected := .integer register.width
    fill := some (Filler.address register.address) }

/-- Asks for the bytes at an address. -/
def readRaw (code address length : Value) : Request :=
  ⟨code, 1, length, some (Filler.address address)⟩

def write (register : Register) (value : Value) : Except Fault Request := do
  register.checkWritable
  match ← register.writeInstruction with
  | none => throw .missingKey
  | some instruction =>
    return {
      code := .integer instruction.code.toNat
      parameterCount := register.width + 1
      expected := .integer 0
      fill := some (Filler.register register value) }

def writeAll (entries : List WriteEntry) : Except Fault Request :=
  match entries with
  | [] => throw .noEntries
  | first :: rest => do
    if rest.any fun entry =>
        entry.register.space != first.register.space then
      throw .mixedSpaces
    match first.register.space with
    | none => throw .missingKey
    | some space =>
      return {
        code := .integer space.writeInstruction.code.toNat
        parameterCount := entries.length * WriteEntry.width
        expected := .integer 0
        fill := some (Filler.entries entries) }

/-- Refuses the broadcast id, which never replies. -/
def checkAddressable (motorId : Value) : Except Fault Unit :=
  if motorId.same (.integer broadcastId) then throw .broadcastReply else return

end Request

end ActuatorBus
