import ActuatorBus.Act

/-!
# Lines

What a bus needs from a serial line. A line keeps its own clock, in seconds.
A read waits until there are bytes or the deadline passes; failures of the
device come as `Fault.device`.
-/

namespace ActuatorBus

/-- How a bus waits for its line. -/
inductive Discipline where
  /-- Nothing else happens while the bus waits. -/
  | blocking
  /-- The bus gives way to others whenever it waits. -/
  | suspending
deriving DecidableEq, Repr

/-- The operations of a line of type `σ`. -/
structure Link (σ : Type) where
  now : σ → Double
  baudRate : σ → Value
  setBaudRate : Value → σ → σ
  /-- Forgets what arrived so far. -/
  discardInput : Act σ Unit
  writeAll : Bytes → Act σ Unit
  /-- At most `space` bytes that arrived, maybe none before the deadline. -/
  read : (space : Nat) → (deadline : Double) → Act σ Bytes
  close : Act σ Unit
  /-- How often the bus asks for more bytes of one packet before it takes the
  line for stalled. -/
  patience : σ → Nat

/-- The time that is a number of seconds from now. -/
def Link.deadline {σ : Type} (link : Link σ) (line : σ) (seconds : Double) :
    Double :=
  (link.now line).add seconds

/-- The failures that a line is going to have. -/
structure LineFailures where
  discard : Option DeviceError
  write : Option DeviceError
  read : Option DeviceError
deriving DecidableEq, Repr

def LineFailures.none : LineFailures := ⟨.none, .none, .none⟩

/-- Stops with a failure if there is one. -/
def Act.failOn {σ : Type} (failure : Option DeviceError) : Act σ Unit :=
  match failure with
  | some error => Act.fail (.device error)
  | none => pure ()

end ActuatorBus
