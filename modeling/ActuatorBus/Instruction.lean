/-!
# Instructions

The instructions that a motor understands, and the two address spaces of
registers with the instructions that read and write them.
-/

namespace ActuatorBus

inductive Instruction where
  | ping
  | readStatus
  | writeStatus
  | readConfig
  | writeConfig
  | saveConfig
  | bulkComm
deriving DecidableEq, Repr

namespace Instruction

def all : List Instruction :=
  [ping, readStatus, writeStatus, readConfig, writeConfig, saveConfig,
    bulkComm]

def code : Instruction → UInt8
  | ping => 0x01
  | readStatus => 0x02
  | writeStatus => 0x03
  | readConfig => 0x04
  | writeConfig => 0x05
  | saveConfig => 0x06
  | bulkComm => 0x12

def label : Instruction → String
  | ping => "Ping"
  | readStatus => "ReadStatus"
  | writeStatus => "WriteStatus"
  | readConfig => "ReadConfig"
  | writeConfig => "WriteConfig"
  | saveConfig => "SaveConfig"
  | bulkComm => "BulkComm"

def ofCode? (code : UInt8) : Option Instruction :=
  all.find? fun instruction => instruction.code == code

theorem ofCode?_code (instruction : Instruction) :
    ofCode? instruction.code = some instruction := by
  cases instruction <;> rfl

end Instruction

/-- The two address spaces of registers. Config registers persist once they
are saved, status registers are volatile. -/
inductive AddressSpace where
  | config
  | status
deriving DecidableEq, Repr

namespace AddressSpace

def label : AddressSpace → String
  | config => "config"
  | status => "status"

/-- The name of an address space in messages about registers. -/
def qualifiedLabel : AddressSpace → String
  | config => "RegisterType.Config"
  | status => "RegisterType.Status"

/-- The name of the space that something may have, in messages. -/
def qualifiedLabelOf : Option AddressSpace → String
  | some space => space.qualifiedLabel
  | none => "None"

def readInstruction : AddressSpace → Instruction
  | config => .readConfig
  | status => .readStatus

def writeInstruction : AddressSpace → Instruction
  | config => .writeConfig
  | status => .writeStatus

end AddressSpace

end ActuatorBus
