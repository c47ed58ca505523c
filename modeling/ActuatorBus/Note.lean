import ActuatorBus.Value.Use

/-!
# Notes

What an action leaves in the log while it runs. A baud rate that is no number
can be noted; it shows only when the note is put into words.
-/

namespace ActuatorBus

inductive Note where
  | skippingGarbage (count : Nat)
  | skippedGarbage (bytes : Bytes)
  | ignoredHeader (length : Nat)
  | readPacket (bytes : Bytes)
  | sendingPacket (bytes : Bytes)
  | undefinedErrorBits (motorId : UInt8) (error : UInt8)
  | baudRateSet (baudRate : Value)
  | connecting (device setup : Value)
  | opened (device baudRate : Value)
  | closed (device : Value)
deriving DecidableEq, Repr

namespace Note

inductive Level where
  | debug
  | info
  | warning
deriving DecidableEq, Repr

def Level.label : Level → String
  | debug => "DEBUG"
  | info => "INFO"
  | warning => "WARNING"

def level : Note → Level
  | skippingGarbage _ => .debug
  | skippedGarbage _ => .debug
  | ignoredHeader _ => .debug
  | readPacket _ => .debug
  | sendingPacket _ => .debug
  | undefinedErrorBits _ _ => .warning
  | baudRateSet _ => .info
  | connecting _ _ => .info
  | opened _ _ => .info
  | closed _ => .info

/-- The text of an entry, or the fault of putting it into words. -/
def text : Note → Except Fault String
  | skippingGarbage count =>
    .ok ("skipping " ++ toString count ++ " bytes of leading garbage.")
  | skippedGarbage bytes => .ok ("skipped garbage: " ++ Text.hexDump bytes)
  | ignoredHeader length =>
    .ok ("ignoring header with invalid length " ++ toString length ++
      ", skipping 1 byte")
  | readPacket bytes => .ok ("read packet: " ++ Text.hexDump bytes)
  | sendingPacket bytes => .ok ("sending packet: " ++ Text.hexDump bytes)
  | undefinedErrorBits motorId error =>
    .ok ("motor " ++ toString motorId.toNat ++
      " set undefined error bits 0x" ++ Text.hexByte error)
  | baudRateSet baudRate => do
    return "baud rate set to " ++ (← baudRate.decimal)
  | connecting device setup =>
    .ok ("connecting to " ++ device.text ++ " with setup " ++ setup.text)
  | opened device baudRate => do
    return "opened " ++ device.text ++ " at " ++ (← baudRate.decimal) ++
      " baud"
  | closed device => .ok ("closed " ++ device.text)

/-- The notes before the first one that cannot be put into words, and the
fault of that one. -/
def unwritable? : List Note → Option (List Note × Fault)
  | [] => none
  | note :: rest =>
    match note.text with
    | .error fault => some ([], fault)
    | .ok _ =>
      (unwritable? rest).map fun found => (note :: found.1, found.2)

end Note

end ActuatorBus
