import ActuatorBus.Register.Entry
import ActuatorBus.Register.Table

/-!
# The registers of a motor

The two tables that every motor has, and the gain registers of its control
loops.
-/

namespace ActuatorBus

namespace RegisterMap

/-- A register that holds an unsigned integer. -/
private def word (name : String) : Register :=
  ⟨.words name, "<u4", .unsigned .four, .flag true, none, .nothing⟩

/-- A register that holds a fraction. -/
private def real (name : String) : Register :=
  ⟨.words name, "<f4", .real .single, .flag true, none, .nothing⟩

/-- A register that holds a fraction and cannot be written. -/
private def sensor (name : String) : Register :=
  ⟨.words name, "<f4", .real .single, .flag false, none, .nothing⟩

/-- Registers of a space, with addresses from zero on. -/
private def numbered (space : AddressSpace) (registers : List Register) :
    List Register :=
  registers.mapIdx fun position register =>
    { register with space := some space, address := .integer position }

def config : List Register := numbered .config [
  word "id",
  word "mode",
  word "baud_rate",
  real "homing_offset",
  real "p_gain_id",
  real "i_gain_id",
  real "d_gain_id",
  real "p_gain_iq",
  real "i_gain_iq",
  real "d_gain_iq",
  real "p_gain_vel",
  real "i_gain_vel",
  real "d_gain_vel",
  real "p_gain_pos",
  real "i_gain_pos",
  real "d_gain_pos",
  real "p_gain_force",
  real "i_gain_force",
  real "d_gain_force",
  real "limit_acc_max",
  real "limit_i_max",
  real "limit_vel_max",
  real "limit_pos_min",
  real "limit_pos_max",
  real "min_voltage",
  real "max_voltage",
  word "watchdog_timeout",
  real "temp_limit_low",
  real "temp_limit_high"]

def status : List Register := numbered .status [
  word "torque_enable",
  real "homing_complete",
  real "goal_id",
  real "goal_iq",
  real "goal_vel",
  real "goal_pos",
  sensor "present_id",
  sensor "present_iq",
  sensor "present_vel",
  sensor "present_pos",
  sensor "input_voltage",
  sensor "winding_temp",
  sensor "powerstage_temp",
  sensor "ic_temp",
  sensor "error_status",
  sensor "warning_status"]

def registers : AddressSpace → List Register
  | .config => config
  | .status => status

def named? (space : AddressSpace) (name : String) : Option Register :=
  (registers space).find? fun register => register.name == .words name

def lookup (name : String) : Except Fault Register :=
  match (named? .config name).or (named? .status name) with
  | some register => .ok register
  | none => .error (.unknownRegister name)

def withAddress (space : AddressSpace) (address : Int) :
    Except Fault Register :=
  match (registers space).find? fun register =>
      register.address == .integer address with
  | some register => .ok register
  | none => .error (.unknownAddress (.integer address))

/-- A registry that holds the registers of both tables. -/
def registry : Registry := ⟨config ++ status⟩

def table : AddressSpace → RegisterTable
  | .config => ⟨some .config, List.range config.length⟩
  | .status =>
    ⟨some .status, (List.range status.length).map (· + config.length)⟩

end RegisterMap

/-- The control loops with gains of their own. -/
inductive ControlLoop where
  | directCurrent
  | quadratureCurrent
  | velocity
  | position
  | force
deriving DecidableEq, Repr

namespace ControlLoop

def all : List ControlLoop :=
  [directCurrent, quadratureCurrent, velocity, position, force]

def label : ControlLoop → String
  | directCurrent => "id"
  | quadratureCurrent => "iq"
  | velocity => "vel"
  | position => "pos"
  | force => "force"

def ofLabel (label : Value) : Except Fault ControlLoop :=
  label.lookup (all.map fun loop => (.words loop.label, loop))

/-- The names of the proportional, the integral and the derivative gain. -/
def gains (loop : ControlLoop) : List String :=
  ["p_gain_", "i_gain_", "d_gain_"].map (· ++ loop.label)

/-- The entries that set the gains of the control loop with the given short
name. There must be a value for each gain. -/
def gainEntries (label : Value) (values : List Value) :
    Except Fault (List WriteEntry) := do
  if values.length ≠ 3 then throw .unsuitable
  let loop ← ofLabel label
  (loop.gains.zip values).mapM fun (name, value) =>
    match RegisterMap.named? .config name with
    | some register => WriteEntry.ofValue register value
    | none => .error .missingKey

end ControlLoop

end ActuatorBus
