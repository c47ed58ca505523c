import ActuatorBus.Bus.Suspending

/-!
# Registers by name

The operations of a bus for registers of the map, given by their names.
-/

namespace ActuatorBus

variable {σ : Type} (link : Link σ)

namespace Bus

def readNamed (motorId : Value) (name : String) :
    Act (Bus σ) (Option Response) := do
  read link motorId (← Act.ofExcept (RegisterMap.lookup name))

def writeNamed (motorId : Value) (name : String) (value : Value) :
    Act (Bus σ) (Option Response) := do
  write link motorId (← Act.ofExcept (RegisterMap.lookup name)) value

/-- Reads registers one after the other, and gives their names and the data of
the responses. A suspending bus cannot do so: it has no response yet when the
data is asked for. -/
def readAll (discipline : Discipline) (motorId : Value)
    (registers : List Register) :
    Act (Bus σ) (List (String × Option Payload)) :=
  registers.mapM fun register => do
    match discipline with
    | .suspending => Act.fail .pendingResponse
    | .blocking =>
      let response ← read link motorId register
      return (register.label, response.map Response.data)

/-- Writes the gains of the control loop with the given short name. -/
def writeGains (motorId loop : Value) (gains : List Value) :
    Act (Bus σ) (Option Response) := do
  multiWrite link motorId
    (← Act.ofExcept (ControlLoop.gainEntries loop gains))

end Bus

namespace AsyncBus

open Coroutine (act)

def readNamed (motorId : Value) (name : String) :
    Coroutine (Bus σ) (Option Response) := do
  read link motorId (← act (.ofExcept (RegisterMap.lookup name)))

def writeNamed (motorId : Value) (name : String) (value : Value) :
    Coroutine (Bus σ) (Option Response) := do
  write link motorId (← act (.ofExcept (RegisterMap.lookup name))) value

def writeGains (motorId loop : Value) (gains : List Value) :
    Coroutine (Bus σ) (Option Response) := do
  multiWrite link motorId
    (← act (.ofExcept (ControlLoop.gainEntries loop gains)))

end AsyncBus

namespace Discipline

def readNamed (motorId : Value) (name : String) :
    Discipline → Act (Bus σ) (Option Response)
  | blocking => Bus.readNamed link motorId name
  | suspending => (AsyncBus.readNamed link motorId name).complete link.serve

def writeNamed (motorId : Value) (name : String) (value : Value) :
    Discipline → Act (Bus σ) (Option Response)
  | blocking => Bus.writeNamed link motorId name value
  | suspending =>
    (AsyncBus.writeNamed link motorId name value).complete link.serve

def writeGains (motorId loop : Value) (gains : List Value) :
    Discipline → Act (Bus σ) (Option Response)
  | blocking => Bus.writeGains link motorId loop gains
  | suspending =>
    (AsyncBus.writeGains link motorId loop gains).complete link.serve

end Discipline

end ActuatorBus
