import ActuatorBus.Packet.Basic
import ActuatorBus.Value.Use

/-!
# Checksums of values

The checksum of what may be values of any kind. A double among them makes the
checksum a double.
-/

namespace ActuatorBus.Packet

/-- The sum of two numbers, a double unless both are integers. -/
def sumOf : Number → Number → Except Fault Number
  | .integer m, .integer n => .ok (.integer (m + n))
  | a, b => do return .real ((← a.toDouble).add (← b.toDouble))

/-- The checksum of the numbers that values are: what makes their sum `255`
modulo `256`. -/
def checksumOfValues (values : List Value) : Except Fault Number := do
  let total ←
    values.foldlM (fun sum value => do sumOf sum (← value.needNumber))
      (.integer 0)
  match total with
  | .integer total => return .integer (checksumOf [total])
  | .real total =>
    return .real ((Double.ofNat 255).sub (total.modulo (.ofNat 256)))

end ActuatorBus.Packet
