import ActuatorBus.Text.Quoted

/-!
# Device failures

What a device reports when it fails: the nature of the failure and the words
of the device.
-/

namespace ActuatorBus

/-- The natures of a device failure. Only the first two concern the line. -/
inductive DeviceError.Kind where
  | system
  | timeout
  | internal
deriving DecidableEq, Repr

def DeviceError.Kind.label : DeviceError.Kind → String
  | system => "OSError"
  | timeout => "TimeoutError"
  | internal => "RuntimeError"

/-- What a device reports when it fails. -/
structure DeviceError where
  kind : DeviceError.Kind
  text : String
deriving DecidableEq, Repr

namespace DeviceError

/-- Whether the failure concerns the line, so that the bus reports the stage
at which it happened. -/
def concernsLine (error : DeviceError) : Bool :=
  match error.kind with
  | .system | .timeout => true
  | .internal => false

/-- Whether the failure says that the time was over. -/
def isTimeout (error : DeviceError) : Bool := error.kind == .timeout

/-- The report of a line that got nothing before the deadline. -/
def readTimedOut : DeviceError := ⟨.timeout, "serial read timed out"⟩

/-- A failure with its nature, the words between quotes. -/
def representation (error : DeviceError) : String :=
  error.kind.label ++ "(" ++ Text.quoted error.text ++ ")"

end DeviceError

end ActuatorBus
