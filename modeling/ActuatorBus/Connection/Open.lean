import ActuatorBus.Connection.Device
import ActuatorBus.Connection.Setup
import ActuatorBus.Line.Memory
import ActuatorBus.Line.Serial

/-!
# Opening a bus

A bus over a serial device, found and set up by name, or over a line in memory
with simulated motors.
-/

namespace ActuatorBus

def SerialLine.openDevice (host : Host) (discipline : Discipline)
    (device baudRate pollInterval : Value) : Act Unit SerialLine := do
  Act.failOn host.refusal
  Act.note (.opened device baudRate)
  return SerialLine.create discipline device baudRate pollInterval

namespace Bus

/-- The names under which the device and its baud rate are given. -/
def deviceKeys : List String := ["port_str", "baud_rate"]

/-- The name under which the interval of a suspending line is given. -/
def intervalKey : String := "poll_interval"

/-- Opens a bus over a serial device, with options given by name. The device
and its baud rate cannot be given again. Of the options only the interval of a
suspending line concerns the device; the others are looked at once it is
open. -/
def openDevice (host : Host) (discipline : Discipline)
    (device baudRate : Value) (settings : List (String × Value)) :
    Act Unit (Bus SerialLine) := do
  Act.require (settings.all fun setting => setting.1 ∉ deviceKeys)
    .unexpectedOption
  let (interval, rest) : Option Value × List (String × Value) :=
    match discipline with
    | .blocking => (none, settings)
    | .suspending =>
      (settings.lookup intervalKey,
        settings.filter fun setting => setting.1 != intervalKey)
  let line ←
    SerialLine.openDevice host discipline device baudRate
      (interval.getD SerialLine.defaultPollInterval)
  let options ← Act.ofExcept (BusOptions.ofSettings rest)
  Act.ofExcept <|
    Bus.start (SerialLine.link discipline) line { options with baudRate }

def setupKey : String := "setup"

def deviceKey : String := "port_str"

/-- The name of the discipline, which is chosen already. -/
def disciplineKey : String := "use_async"

/-- What is chosen under a name, and the changes that choose nothing under it.
A choice can be one of the changes, but it cannot be made twice. -/
def choose (name : String) (choice : Option Value)
    (changes : List (String × Value)) :
    Except Fault (Option Value × List (String × Value)) :=
  match choice, changes.lookup name with
  | some _, some _ => .error .unexpectedOption
  | some value, none => .ok (some value, changes)
  | none, found =>
    .ok (found, changes.filter fun change => change.1 != name)

/-- Opens a bus with a setup and some changes to it. If no device is given,
one is looked for. The bus computes deadlines with the baud rate of the
device. -/
def connect (host : Host) (discipline : Discipline)
    (setup device : Option Value) (changes : List (String × Value)) :
    Act Unit (Bus SerialLine) := do
  let (setup, changes) ← Act.ofExcept (choose setupKey setup changes)
  let (device, changes) ← Act.ofExcept (choose deviceKey device changes)
  Act.require (changes.all fun change => change.1 != disciplineKey)
    .unexpectedOption
  let name := setup.getD (.words Setup.defaultName)
  let setup ← Act.ofExcept (Setup.named name)
  let setup ← Act.ofExcept (setup.override changes)
  let device ←
    match device.getD .nothing with
    | .nothing => do
      pure (.words (← Act.ofExcept (host.findDevice setup.devicePatterns)))
    | device => pure device
  Act.note (.connecting device name)
  let line ←
    SerialLine.openDevice host discipline device setup.baudRate
      setup.pollInterval
  Act.ofExcept <|
    Bus.start (SerialLine.link discipline) line setup.busOptions

/-- A bus over a line in memory with simulated motors, one for each of the
ids. -/
def simulate (discipline : Discipline) (setup motorIds : Value) :
    Except Fault (Bus MemoryLine) := do
  let setup ← Setup.named setup
  let motors ← Motor.distinct <|
    (← motorIds.itemsNeeded).map fun id =>
      Motor.create id (.integer 0) Motor.defaultPingData
  Bus.start (MemoryLine.link discipline)
    (MemoryLine.create setup.baudRate .nothing motors) setup.busOptions

end Bus

end ActuatorBus
