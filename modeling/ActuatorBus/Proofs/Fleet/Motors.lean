import ActuatorBus.Proofs.Fleet.Tasks

/-!
# The motors of a fleet

The simulated motor of a station holds the numbers of the station, and does
and replies what a task means for it.
-/

namespace ActuatorBus

namespace RegisterValues

/-- A number for each register of a space. -/
def of (space : AddressSpace) (held : String → Number) : RegisterValues :=
  (RegisterMap.registers space).map fun register =>
    (register.label, .number (held register.label))

theorem put_of (space : AddressSpace) (held : String → Number)
    (name : String) (value : Number) :
    (of space held).put name (.number value) =
      of space fun label => if label = name then value else held label := by
  rw [put, of, of, List.map_map]
  apply List.map_congr_left
  intro register _
  by_cases same : register.label = name
  · simp [same]
  · simp [same]

theorem get?_of (slot : Slot) (held : String → Number) :
    (of slot.space held).get? slot.register.label =
      some (.number (held slot.register.label)) := by
  have found (registers : List Register)
      (member : slot.register ∈ registers) :
      List.lookup slot.register.label (registers.map fun register =>
          (register.label, Value.number (held register.label))) =
        some (.number (held slot.register.label)) := by
    induction registers with
    | nil => cases member
    | cons first rest foundInRest =>
        rw [List.map_cons, List.lookup_cons]
        by_cases same : slot.register.label = first.label
        · simp [same]
        · have later : slot.register ∈ rest := by
            rcases List.mem_cons.1 member with equal | later
            · exact absurd (congrArg Register.label equal) same
            · exact later
          rw [beq_false_of_ne same]
          exact foundInRest later
  exact found _ slot.mapped

end RegisterValues

namespace Station

variable (station : Station) (log : List Instruction)

/-- The simulated motor of a station, with the instructions that it carried
out. -/
def motor : Motor where
  id := .integer station.id.toNat
  key := .integer station.id.toNat
  error := .integer station.error.toNat
  pingData := Motor.defaultPingData
  config := .of .config (station.values .config)
  status := .of .status (station.values .status)
  saved := .of .config station.saved
  instructions := log

theorem motor_values (space : AddressSpace) :
    (station.motor log).values space = .of space (station.values space) := by
  cases space <;> rfl

theorem motor_put (space : AddressSpace) (name : String) (value : Number) :
    (station.motor log).withValue space name (.number value) =
      (station.put space name value).motor log := by
  cases space <;>
    simp [Motor.withValue, motor, put, RegisterValues.put_of]

/-- The parameters of the reply to a task, if there is one. -/
def reply : Task → Except Fault (Option Bytes)
  | .ping => .ok (some Motor.defaultPingData)
  | .read slot =>
    (slot.register.encodeNumber
      (station.values slot.space slot.register.label)).map some
  | .write _ _ => .ok (some [])
  | .save => .ok none

end Station

namespace Motor

variable (station : Station) (log : List Instruction)

theorem carryOut_motor (task : Task) :
    (station.motor log).carryOut task =
      (station.carryOut task).motor log := by
  cases task with
  | ping => rfl
  | read slot => rfl
  | save => rfl
  | write space entries =>
      induction entries generalizing station with
      | nil => rfl
      | cons entry rest carried =>
          simp only [carryOut, Station.carryOut, List.foldl_cons,
            station.motor_put] at carried ⊢
          exact carried _

theorem reply_motor (task : Task) :
    (station.motor log).reply task = station.reply task := by
  cases task with
  | read slot =>
      simp [reply, bytesOf, Station.reply, station.motor_values,
        RegisterValues.get?_of]
  | _ => rfl

/-- What a motor replies to an instruction packet, as bytes. -/
def replyBytes (station : Station) (target : UInt8) : Option Bytes → Bytes
  | none => []
  | some parameters =>
    if Fleet.isEveryone target then []
    else (Packet.mk station.id station.error parameters).encode

theorem reply_read {slot : Slot} {reply : Option Bytes}
    (replies : station.reply (.read slot) = .ok reply) :
    ∃ bytes, reply = some bytes ∧
      slot.register.encodeNumber
        (station.values slot.space slot.register.label) = .ok bytes := by
  cases encoded : slot.register.encodeNumber
      (station.values slot.space slot.register.label) with
  | error fault =>
      simp [Station.reply, encoded, Except.map] at replies
  | ok bytes =>
      simp only [Station.reply, encoded, Except.map, Except.ok.injEq]
        at replies
      exact ⟨bytes, replies.symm, rfl⟩

theorem length_reply {task : Task} {parameters : Bytes}
    (replies : station.reply task = .ok (some parameters)) :
    parameters.length ≤ 4 := by
  cases task with
  | ping =>
      cases replies
      decide
  | save => cases replies
  | write space entries =>
      cases replies
      decide
  | read slot =>
      obtain ⟨bytes, replyEq, encoded⟩ := reply_read station replies
      cases replyEq
      have counted := Register.length_encodeNumber encoded
      exact Nat.le_of_eq (counted.trans slot.width_eq)

/-- Only saving has no reply. -/
theorem eq_save_of_reply {task : Task}
    (replies : station.reply task = .ok none) : task = .save := by
  cases task with
  | save => rfl
  | ping => cases replies
  | write space entries => cases replies
  | read slot =>
      obtain ⟨bytes, replyEq, _⟩ := reply_read station replies
      cases replyEq

theorem countable_of_short {parameters : Bytes}
    (short : parameters.length ≤ 4) :
    (parameters.length : Int) + 2 ≤ Packet.maximumLength := by
  simp only [Packet.maximumLength]
  omega

theorem respond_other {packet : Packet} (other : station.id ≠ packet.motorId)
    (single : Fleet.isEveryone packet.motorId = false) :
    (respond packet.encode).run (station.motor log) =
      ⟨.ok [], station.motor log, []⟩ := by
  have own : (station.motor log).id = .integer station.id.toNat := rfl
  apply respond_unheard
  rw [Bool.eq_false_iff, Ne, listens_iff own]
  simp [other, single]

theorem respond_addressed {packet : Packet} {task : Task}
    (asks : Asks packet task)
    (countable : (packet.parameters.length : Int) + 2 ≤ Packet.maximumLength)
    {reply : Option Bytes} (replies : station.reply task = .ok reply)
    (addressed :
      station.id = packet.motorId ∨ Fleet.isEveryone packet.motorId = true) :
    ∃ later, (respond packet.encode).run (station.motor log) =
      ⟨.ok (replyBytes station packet.motorId reply),
        (station.carryOut task).motor later, []⟩ := by
  have heard : (station.motor log).listens packet.motorId = true :=
    (listens_iff rfl packet.motorId).2 addressed
  have fulfilled : (station.motor log).fulfil task =
      (station.carryOut task).motor (log ++ [task.instruction]) :=
    carryOut_motor station (log ++ [task.instruction]) task
  refine ⟨log ++ [task.instruction], ?_⟩
  rw [respond_heard asks countable heard, fulfilled, reply_motor, replies,
    ok_bind]
  cases reply with
  | none => rfl
  | some parameters =>
      have short := length_reply station replies
      have status :
          Packet.status (station.motor log).id (station.motor log).error
              parameters = _ :=
        Packet.status_eq station.id station.error (countable_of_short short)
      by_cases everyone : Fleet.isEveryone packet.motorId = true
      · simp [answerTo, replyBytes, everyone]
      · simp [answerTo, replyBytes, everyone, status]

end Motor

end ActuatorBus
