import ActuatorBus.Packet.Basic
import ActuatorBus.Value.Use

/-!
# Transfer times

A byte takes ten bits on the line: a start bit, eight data bits and a stop
bit. Times are rounded up to whole nanoseconds before they become seconds.
Sizes and baud rates are usually integers; if one of them is a double, the
nanoseconds are computed as doubles, too.
-/

namespace ActuatorBus.Packet

def bitsPerByte : Int := 10

def nanosPerSecond : Int := 1000000000

/-- The nanoseconds of a second, as a double. -/
def nanosPerSecondDouble : Double := ⟨0x41cdcd6500000000⟩

theorem nanosPerSecondDouble_eq :
    Double.ofInt? nanosPerSecond = some nanosPerSecondDouble := by
  decide +kernel

/-- The bits of `size` bytes, scaled to nanoseconds, with the opposite sign:
rounding a quotient of it down rounds the time up. -/
def negatedLoad (size : Int) : Int :=
  -(size * bitsPerByte) * nanosPerSecond

/-- The time of `size` bytes in whole nanoseconds, rounded up, for a baud
rate that is not zero. -/
def transferNanos (size baudRate : Int) : Int :=
  -Int.fdiv (negatedLoad size) baudRate

def negatedLoadDouble : (size : Number) → Except Fault Double
  | .integer size => (Number.integer (negatedLoad size)).toDouble
  | .real size => .ok ((size.mul (.ofNat 10)).neg.mul nanosPerSecondDouble)

/-- The time of `size` bytes in seconds. -/
def transferTime : (size baudRate : Number) → Except Fault Double
  | .integer size, .integer baudRate => do
    if baudRate = 0 then throw .divisionByZero
    let nanos ← (Number.integer (transferNanos size baudRate)).toDouble
    return nanos.div nanosPerSecondDouble
  | size, baudRate => do
    let load ← negatedLoadDouble size
    let rate ← baudRate.toDouble
    if rate.same .zero then throw .divisionByZero
    return ((load.floorDiv rate).neg).div nanosPerSecondDouble

/-- The size of a packet with a number of parameters of any kind. -/
def sizeOf (parameterCount : Value) : Except Fault Number := do
  match ← parameterCount.needNumber with
  | .integer count => return .integer (size count)
  | .real count => return .real ((Double.ofNat minimumSize).add count)

end ActuatorBus.Packet
