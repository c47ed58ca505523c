import ActuatorBus.Act

/-!
# Finding a device

A device is looked for by patterns of names. Of the names that fit the first
pattern with any, the least is taken.
-/

namespace ActuatorBus

/-- The machine on which a device is looked for and opened. -/
structure Host where
  /-- The name of the platform, if it has one. -/
  platform : Value
  /-- The names of the devices that fit a pattern. -/
  devices : String → List String
  /-- The failure with which every device refuses to be opened. -/
  refusal : Option DeviceError

namespace Host

/-- The patterns of the serial devices of a platform. -/
def defaultPatterns : (platform : Value) → Except Fault (List String)
  | .words platform =>
    if platform == "darwin" then .ok ["/dev/tty.usb*"]
    else if platform.startsWith "linux" then
      .ok ["/dev/ttyUSB*", "/dev/ttyACM*"]
    else .error (.unknownPlatform platform)
  | _ => .error .unassigned

def least? (names : List String) : Option String :=
  names.foldl (fun found name =>
    match found with
    | some least => some (if name < least then name else least)
    | none => some name) none

/-- The devices that fit a pattern; what is no text fits none. -/
def fitting (host : Host) (pattern : Value) : Except Fault (List String) := do
  pattern.checkKey
  match pattern with
  | .words pattern => return host.devices pattern
  | _ => return []

def firstFitting? (host : Host) : (patterns : List Value) →
    Except Fault (Option String)
  | [] => .ok none
  | pattern :: rest => do
    match least? (← host.fitting pattern) with
    | some device => return some device
    | none => firstFitting? host rest

/-- The fault that no device fits one of the patterns. Listing them takes that
all are texts. -/
def noDevice (position : Nat) (listed : List String) :
    List Value → Fault
  | [] => .noDevice listed.reverse
  | .words pattern :: rest => noDevice (position + 1) (pattern :: listed) rest
  | pattern :: _ => .patternKind position pattern.kind

/-- The first device that fits one of the patterns; without patterns, one of
those of the platform. -/
def findDevice (host : Host) (patterns : Value) : Except Fault String := do
  let patterns ←
    match ← patterns.needItems with
    | some patterns => pure patterns
    | none => pure ((← defaultPatterns host.platform).map .words)
  match ← host.firstFitting? patterns with
  | some device => return device
  | none => throw (noDevice 0 [] patterns)

end Host

end ActuatorBus
