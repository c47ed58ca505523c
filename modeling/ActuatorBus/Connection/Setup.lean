import ActuatorBus.Bus.Basic

/-!
# Setups

Named sets of values with which a line and a bus are opened. Single values
can be replaced.
-/

namespace ActuatorBus

/-- The values with which a bus is opened. -/
structure Setup where
  baudRate : Value
  readBufferSize : Value
  writeBufferSize : Value
  timeoutMargin : Value
  /-- How long a suspending line waits between two looks, in seconds. -/
  pollInterval : Value
  /-- Where to look for a device; the platform decides if nothing is said. -/
  devicePatterns : Value
deriving DecidableEq, Repr

namespace Setup

def fullBaudRate : Value := .integer 8000000

def fullSpeed : Setup where
  baudRate := fullBaudRate
  readBufferSize := .integer 128
  writeBufferSize := .integer 128
  timeoutMargin := .real ⟨0x3f50624dd2f1a9fc⟩
  pollInterval := .real ⟨0x3f2a36e2eb1c432d⟩
  devicePatterns := .nothing

/-- For slow lines: longer margin and interval. -/
def lowSpeed : Setup where
  baudRate := .integer 115200
  readBufferSize := .integer 128
  writeBufferSize := .integer 128
  timeoutMargin := .real ⟨0x3f747ae147ae147b⟩
  pollInterval := .real ⟨0x3f50624dd2f1a9fc⟩
  devicePatterns := .nothing

/-- The name of the setup that is used unless another one is asked for. -/
def defaultName : String := "bear_default"

def named (name : Value) : Except Fault Setup :=
  name.lookup
    [(.words defaultName, fullSpeed), (.words "bear_low_speed", lowSpeed)]

def entries (setup : Setup) : List (String × Value) := [
  ("baudrate", setup.baudRate),
  ("read_buffer_size", setup.readBufferSize),
  ("write_buffer_size", setup.writeBufferSize),
  ("timeout_margin", setup.timeoutMargin),
  ("poll_interval", setup.pollInterval),
  ("port_patterns", setup.devicePatterns)]

def put (setup : Setup) (key : String) (value : Value) : Setup :=
  if key == "baudrate" then { setup with baudRate := value }
  else if key == "read_buffer_size" then
    { setup with readBufferSize := value }
  else if key == "write_buffer_size" then
    { setup with writeBufferSize := value }
  else if key == "timeout_margin" then { setup with timeoutMargin := value }
  else if key == "poll_interval" then { setup with pollInterval := value }
  else if key == "port_patterns" then { setup with devicePatterns := value }
  else setup

/-- The setup with other values for some keys, all of which must be known. -/
def override (setup : Setup) (changes : List (String × Value)) :
    Except Fault Setup :=
  let unknown := (changes.map Prod.fst).filter fun key =>
    key ∉ setup.entries.map Prod.fst
  if unknown.isEmpty then
    .ok (changes.foldl (fun setup change => setup.put change.1 change.2)
      setup)
  else
    .error (.unknownSetupKeys (unknown.mergeSort fun a b => !(b < a)))

def busOptions (setup : Setup) : BusOptions where
  readBufferSize := setup.readBufferSize
  writeBufferSize := setup.writeBufferSize
  baudRate := setup.baudRate
  timeoutMargin := setup.timeoutMargin

end Setup

end ActuatorBus
