import ActuatorBus.Bus.Suspending
import ActuatorBus.Proofs.Runs

/-!
# Coroutines against actions

Carried to its end over a link, each coroutine of a suspending bus is the
action that a blocking bus takes over the same link. The order of preparing,
discarding, writing and reading, the faults that a stage of an exchange is
named in, and the checks before it are the same, whatever the line does.
-/

namespace ActuatorBus

namespace AsyncBus

variable {σ : Type} (link : Link σ)

theorem writePacket_complete (motorId code count : Value)
    (fill : Option Filler) :
    (writePacket link motorId code count fill).complete link.serve =
      Bus.writePacket link motorId code count fill := by
  simp only [writePacket, Coroutine.complete_bind, Coroutine.complete_act,
    Coroutine.complete_mapFault, Coroutine.complete_awaitWrite]
  rfl

/-- A blocking bus takes a complete message in the turn that finds it. -/
theorem awaitMessage_complete (deadline : Double) :
    (awaitMessage deadline).complete link.serve >>=
        Option.mapM (fun size => Bus.onReader (Reader.take size)) =
      Bus.readStep link deadline := by
  rw [awaitMessage, Bus.readStep, Coroutine.complete_bind, bind_assoc,
    Coroutine.complete_act]
  congr 1
  funext found
  cases found with
  | none => simp [Link.serve]
  | some size => simp

theorem readPacket_complete (deadline : Double) :
    (readPacket link deadline).complete link.serve =
      Bus.readPacket link deadline := by
  simp only [readPacket, Coroutine.complete_bind, Coroutine.complete_act,
    Coroutine.complete_untilSome, Act.untilSome_bind, awaitMessage_complete]
  rfl

theorem readResponse_complete (expected expectedId : Value) :
    (readResponse link expected expectedId).complete link.serve =
      Bus.readResponse link expected expectedId := by
  simp only [readResponse, Coroutine.complete_bind, Coroutine.complete_act,
    readPacket_complete]
  rfl

theorem transfer_complete (motorId code count expected : Value)
    (fill : Option Filler) :
    (transfer link motorId code count expected fill).complete link.serve =
      Bus.transfer link motorId code count expected fill := by
  rw [transfer, Bus.transfer, Coroutine.complete_bind, writePacket_complete]
  congr 1
  funext _
  by_cases everyone : motorId.same (.integer broadcastId) = true
  · simp [everyone]
  · simp [everyone, readResponse_complete]

/-! ## Operations -/

theorem request_complete (motorId : Value) (asked : Request) :
    (request link motorId asked).complete link.serve =
      Bus.request link motorId asked :=
  transfer_complete link motorId _ _ _ _

theorem ping_complete (motorId : Value) :
    (ping link motorId).complete link.serve = Bus.ping link motorId := by
  simp only [ping, Coroutine.complete_bind, Coroutine.complete_act,
    request_complete]
  rfl

/-- The value is made of the response after all bytes of it were read. -/
theorem read_complete (motorId : Value) (register : Register) :
    (read link motorId register).complete link.serve =
      Bus.read link motorId register := by
  simp only [read, Bus.read, Coroutine.complete_bind, Coroutine.complete_act,
    request_complete]
  congr 1
  funext _
  congr 1
  funext asked
  congr 1
  funext response
  cases response with
  | none => simp
  | some response => simp

theorem write_complete (motorId : Value) (register : Register)
    (value : Value) :
    (write link motorId register value).complete link.serve =
      Bus.write link motorId register value := by
  simp only [write, Coroutine.complete_bind, Coroutine.complete_act,
    request_complete]
  rfl

theorem multiWrite_complete (motorId : Value) (entries : List WriteEntry) :
    (multiWrite link motorId entries).complete link.serve =
      Bus.multiWrite link motorId entries := by
  simp only [multiWrite, Coroutine.complete_bind, Coroutine.complete_act,
    request_complete]
  rfl

theorem saveConfig_complete (motorId : Value) :
    (saveConfig link motorId).complete link.serve =
      Bus.saveConfig link motorId :=
  writePacket_complete link motorId _ _ none

theorem readRaw_complete (motorId code address length : Value) :
    (readRaw link motorId code address length).complete link.serve =
      Bus.readRaw link motorId code address length := by
  simp only [readRaw, Coroutine.complete_bind, Coroutine.complete_act,
    request_complete]
  rfl

theorem writeItems_complete (motorId code address : Value)
    (items : List Value) :
    (writeItems link motorId code address items).complete link.serve =
      Bus.writeItems link motorId code address items :=
  writePacket_complete link motorId code _ _

theorem perform_complete (operation : Operation) :
    (perform link operation).complete link.serve =
      Bus.perform link operation := by
  cases operation with
  | ping motorId => exact ping_complete link motorId
  | read motorId register => exact read_complete link motorId register
  | write motorId register value =>
      exact write_complete link motorId register value
  | multiWrite motorId entries =>
      exact multiWrite_complete link motorId entries
  | readRaw motorId code address length =>
      exact readRaw_complete link motorId code address length
  | transfer motorId code count expected parameters =>
      exact transfer_complete link motorId code count expected _
  | saveConfig motorId =>
      simp [perform, Bus.perform, saveConfig_complete]
  | writeRaw motorId code address bytes =>
      simp [perform, Bus.perform, writeRaw, Bus.writeRaw, writeItems_complete]
  | readResponse expected expectedId =>
      simp [perform, Bus.perform, readResponse_complete]
  | setBaudRate baudRate => simp [perform, Bus.perform]
  | writePacket motorId code count parameters =>
      simp [perform, Bus.perform, writePacket_complete]

end AsyncBus

namespace Discipline

variable {σ : Type} (link : Link σ)

theorem readPacket_eq (deadline : Double) (discipline : Discipline) :
    discipline.readPacket link deadline = Bus.readPacket link deadline := by
  cases discipline with
  | blocking => rfl
  | suspending => exact AsyncBus.readPacket_complete link deadline

/-- A discipline makes no difference over the same link. -/
theorem perform_eq (operation : Operation) (discipline : Discipline) :
    discipline.perform link operation = Bus.perform link operation := by
  cases discipline with
  | blocking => rfl
  | suspending => exact AsyncBus.perform_complete link operation

theorem writeItems_eq (motorId code address : Value) (items : List Value)
    (discipline : Discipline) :
    discipline.writeItems link motorId code address items =
      Bus.writeItems link motorId code address items := by
  cases discipline with
  | blocking => rfl
  | suspending =>
      exact AsyncBus.writeItems_complete link motorId code address items

end Discipline

end ActuatorBus
