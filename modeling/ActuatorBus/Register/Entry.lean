import ActuatorBus.Register.Codec

/-!
# Write requests for registers

The parameters that write registers: an address followed by the bytes of a
value, once or several times. An entry of a multiple write always carries four
bytes.
-/

namespace ActuatorBus

/-- One entry of a multiple write. -/
structure WriteEntry where
  register : Register
  data : Bytes
deriving DecidableEq, Repr

namespace WriteEntry

/-- The bytes of an entry, with its address. -/
def width : Nat := 5

/-- The entry that writes a value to a register. -/
def ofValue (register : Register) (value : Value) :
    Except Fault WriteEntry := do
  register.checkWritable
  if register.width + 1 ≠ width then
    throw (.entryWidth register.label register.width)
  return { register, data := ← register.encode value }

def address (entry : WriteEntry) : Value := entry.register.address

def representation (entry : WriteEntry) : String :=
  "MultiWrite(" ++ entry.register.label ++ ", " ++ Text.hex entry.data ++ ")"

end WriteEntry

namespace Filler

/-- Stores the address of a register and a value for it. -/
def register (register : Register) (value : Value) : Filler := do
  address register.address
  after 1 (register.fill value)

/-- Stores entries one behind the other. -/
def entries : List WriteEntry → Filler
  | [] => pure ()
  | entry :: rest => do
    address entry.address
    within 1 WriteEntry.width (putAll entry.data)
    after WriteEntry.width (entries rest)

end Filler

end ActuatorBus
