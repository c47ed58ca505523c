import ActuatorBus.Proofs.Fleet.Basic
import ActuatorBus.Proofs.Runs

/-!
# Tasks of simulated motors

An instruction packet asks a simulated motor for a task. Whatever the motor
holds, it carries the task out if it listens, and then replies unless all
motors were asked. Several registers may be written by one instruction, which
looks like the writing of a single one if there is only one entry.
-/

namespace ActuatorBus

/-- The parameters of an instruction that writes entries to registers of a
space. -/
inductive Entries (space : AddressSpace) :
    Bytes → List (String × Number) → Prop where
  | nil : Entries space [] []
  | cons (slot : Slot) (ofSpace : slot.space = space) {data rest : Bytes}
    {entries : List (String × Number)} (four : data.length = 4)
    (more : Entries space rest entries) :
    Entries space (slot.address :: (data ++ rest))
      ((slot.register.label, slot.register.format.value data) :: entries)

/-- An instruction packet asks for a task. -/
inductive Asks : Packet → Task → Prop where
  | ping (target : UInt8) : Asks ⟨target, Instruction.ping.code, []⟩ .ping
  | read (target : UInt8) (slot : Slot) :
    Asks ⟨target, slot.space.readInstruction.code, [slot.address]⟩
      (.read slot)
  | write (target : UInt8) {space : AddressSpace} {parameters : Bytes}
    {entries : List (String × Number)}
    (writes : Entries space parameters entries) :
    Asks ⟨target, space.writeInstruction.code, parameters⟩
      (.write space entries)
  | save (target : UInt8) :
    Asks ⟨target, Instruction.saveConfig.code, []⟩ .save

/-- Whom a packet is for makes no difference to its task. -/
theorem Asks.readdress {packet : Packet} {task : Task}
    (asks : Asks packet task) (target : UInt8) :
    Asks { packet with motorId := target } task := by
  cases asks with
  | ping _ => exact .ping target
  | read _ slot => exact .read target slot
  | write _ writes => exact .write target writes
  | save _ => exact .save target

/-- The instruction of a task. -/
def Task.instruction : Task → Instruction
  | .ping => .ping
  | .read slot => slot.space.readInstruction
  | .write space _ => space.writeInstruction
  | .save => .saveConfig

theorem Asks.ofCode?_eq {packet : Packet} {task : Task}
    (asks : Asks packet task) :
    Instruction.ofCode? packet.code = some task.instruction := by
  cases asks with
  | ping _ => exact Instruction.ofCode?_code .ping
  | save _ => exact Instruction.ofCode?_code .saveConfig
  | _ => exact Instruction.ofCode?_code _

namespace Motor

/-! ## Carrying out -/

/-- The motor after a task. -/
def carryOut (motor : Motor) : Task → Motor
  | .ping | .read _ => motor
  | .write space entries =>
    entries.foldl
      (fun motor entry => motor.withValue space entry.1 (.number entry.2))
      motor
  | .save => { motor with saved := motor.config }

/-- What a register holds, as bytes. -/
def bytesOf (motor : Motor) (slot : Slot) : Except Fault Bytes :=
  match (motor.values slot.space).get? slot.register.label with
  | some value => slot.register.encode value
  | none => .error .missingKey

/-- The parameters of the reply to a task, if there is one. -/
def reply (motor : Motor) : Task → Except Fault (Option Bytes)
  | .ping => .ok (some motor.pingData)
  | .read slot => (motor.bytesOf slot).map some
  | .write _ _ => .ok (some [])
  | .save => .ok none

/-- The motor with one more instruction in its log. -/
def logging (motor : Motor) (instruction : Instruction) : Motor :=
  { motor with instructions := motor.instructions ++ [instruction] }

/-- The motor after a task that is in its log, too. -/
def fulfil (motor : Motor) (task : Task) : Motor :=
  (motor.logging task.instruction).carryOut task

theorem readRegister_run (slot : Slot) (motor : Motor) :
    (readRegister slot.space slot.address).run motor =
      ⟨motor.bytesOf slot, motor, []⟩ := by
  simp only [readRegister, slot.withAddress_eq, Act.ofExcept_ok, pure_bind,
    Act.run_bind, Act.run_get, Outcome.andThen_ok, bytesOf]
  cases (motor.values slot.space).get? slot.register.label <;> rfl

theorem writeEntries_run {space : AddressSpace} {parameters : Bytes}
    {entries : List (String × Number)}
    (writes : Entries space parameters entries) :
    ∀ motor : Motor,
      (writeEntries space (cutEntries parameters)).run motor =
        ⟨.ok (), motor.carryOut (.write space entries), []⟩ := by
  induction writes with
  | nil =>
      intro motor
      rw [cutEntries]
      rfl
  | cons slot ofSpace four more written =>
      intro motor
      subst ofSpace
      have cut (data rest : Bytes) (four : data.length = 4) :
          cutEntries (slot.address :: (data ++ rest)) =
            (slot.address, data) :: cutEntries rest := by
        rw [cutEntries, List.take_left' four, List.drop_left' four]
      rw [cut _ _ four]
      have counted := four.trans slot.width_eq.symm
      simp [writeEntries, slot.withAddress_eq,
        Register.decode_of_counted counted, written]
      rfl

theorem writeParameters_run {space : AddressSpace} {parameters : Bytes}
    {entries : List (String × Number)}
    (writes : Entries space parameters entries) (motor : Motor) :
    (writeParameters space parameters).run motor =
      ⟨.ok (), motor.carryOut (.write space entries), []⟩ := by
  have written := writeEntries_run writes motor
  cases writes with
  | nil => rfl
  | @cons slot ofSpace data rest entries four more =>
      subst ofSpace
      have run :
          (writeParameters slot.space (slot.address :: (data ++ rest))).run
              motor =
            (writeEntries slot.space
              (cutEntries (slot.address :: (data ++ rest)))).run motor := by
        rw [writeParameters, slot.withAddress_eq, Act.ofExcept_ok, pure_bind]
        by_cases single : (data ++ rest).length = slot.register.width
        · have whole : (data ++ rest).length = 4 := by
            rw [single, slot.width_eq]
          have cut :
              cutEntries (slot.address :: (data ++ rest)) =
                [(slot.address, data ++ rest)] := by
            rw [cutEntries, List.take_of_length_le (Nat.le_of_eq whole),
              List.drop_of_length_le (Nat.le_of_eq whole), cutEntries]
          rw [if_pos single, cut]
        · rw [if_neg single]
      rw [run]
      exact written

/-- Reading is the same in both spaces. -/
theorem execute_read (space : AddressSpace) (address : UInt8) :
    execute space.readInstruction [address] = (do
      Act.modify fun motor => motor.logging space.readInstruction
      return some (← readRegister space address)) := by
  cases space <;> rfl

/-- Writing is the same in both spaces. -/
theorem execute_write (space : AddressSpace) (parameters : Bytes) :
    execute space.writeInstruction parameters = (do
      Act.modify fun motor => motor.logging space.writeInstruction
      writeParameters space parameters
      return some []) := by
  cases space <;> rfl

/-- A task changes what registers hold and nothing else. -/
theorem carryOut_eq (motor : Motor) (task : Task) :
    ∃ config status saved,
      motor.carryOut task = { motor with config, status, saved } := by
  cases task with
  | ping => exact ⟨_, _, _, rfl⟩
  | read slot => exact ⟨_, _, _, rfl⟩
  | save => exact ⟨_, _, _, rfl⟩
  | write space entries =>
      induction entries generalizing motor with
      | nil => exact ⟨_, _, _, rfl⟩
      | cons entry rest carried =>
          obtain ⟨config, status, saved, restEq⟩ :=
            carried (motor.withValue space entry.1 (.number entry.2))
          have stepEq : motor.carryOut (.write space (entry :: rest)) =
              (motor.withValue space entry.1
                (.number entry.2)).carryOut (.write space rest) := rfl
          refine ⟨config, status, saved, ?_⟩
          rw [stepEq, restEq]
          cases space <;> rfl

theorem execute_run {packet : Packet} {task : Task}
    (asks : Asks packet task) (motor : Motor) :
    (execute task.instruction packet.parameters).run motor =
      ⟨motor.reply task, motor.fulfil task, []⟩ := by
  cases asks with
  | ping target => rfl
  | save target => rfl
  | read target slot =>
      have sameBytes :
          (motor.logging slot.space.readInstruction).bytesOf slot =
            motor.bytesOf slot := by
        simp only [bytesOf]
        cases slot.space <;> rfl
      simp only [Task.instruction, execute_read, Act.run_bind, Act.run_modify,
        Outcome.andThen_ok, readRegister_run, sameBytes, reply]
      cases motor.bytesOf slot <;> rfl
  | write target writes =>
      simp only [Task.instruction, execute_write, Act.run_bind,
        Act.run_modify, Outcome.andThen_ok, writeParameters_run writes]
      rfl

/-! ## Answering -/

theorem parametersOf_encode (packet : Packet)
    (countable : (packet.parameters.length : Int) + 2 ≤ Packet.maximumLength) :
    parametersOf packet.encode (UInt8.ofNat (packet.parameters.length + 2)) =
      packet.parameters := by
  have small : packet.parameters.length + 2 < 256 := by
    simp only [Packet.maximumLength] at countable
    omega
  have stop :
      Packet.headerSize +
          (UInt8.ofNat (packet.parameters.length + 2)).toNat - 1 =
        packet.parameters.length + 5 := by
    rw [UInt8.toNat_ofNat', Nat.mod_eq_of_lt small, Packet.headerSize]
    omega
  rw [parametersOf, stop, Bytes.slice]
  simp [Packet.encode, Packet.body, Packet.parametersPosition]

/-- Whether a motor listens to an id: to its own, and to that of all
motors. -/
def listens (motor : Motor) (target : UInt8) : Bool :=
  (Value.integer target.toNat).same motor.id || Fleet.isEveryone target

theorem listens_iff {motor : Motor} {id : UInt8}
    (own : motor.id = .integer id.toNat) (target : UInt8) :
    motor.listens target = true ↔
      id = target ∨ Fleet.isEveryone target = true := by
  have heard : (Value.integer target.toNat).same motor.id =
      ((target.toNat : Int) == id.toNat) := by
    rw [own]
    exact Value.same_integer _ _
  rw [listens, heard, Bool.or_eq_true_iff, beq_iff_eq]
  refine or_congr_left ?_
  constructor
  · intro equal
    exact UInt8.toNat_inj.1 (Int.ofNat_inj.1 equal.symm)
  · rintro rfl
    rfl

/-- The bytes of an answer, given the parameters of the reply if there is
one. -/
def answerTo (motor : Motor) (target : UInt8) :
    Option Bytes → Except Fault Bytes
  | none => .ok []
  | some parameters =>
    if Fleet.isEveryone target then .ok []
    else Packet.status motor.id motor.error parameters

/-- What a motor answers if a task is asked for. -/
def say (motor : Motor) (target : UInt8) (task : Task) :
    Except Fault Bytes :=
  if motor.listens target then motor.reply task >>= motor.answerTo target
  else .ok []

/-- What becomes of a motor if a task is asked for. -/
def hear (motor : Motor) (target : UInt8) (task : Task) : Motor :=
  if motor.listens target then motor.fulfil task else motor

variable {packet : Packet} {task : Task}

theorem respond_unheard {motor : Motor}
    (unheard : motor.listens packet.motorId = false) :
    (respond packet.encode).run motor = ⟨.ok [], motor, []⟩ := by
  have idAt : packet.encode[Packet.idPosition]? = some packet.motorId := rfl
  obtain ⟨foreign, single⟩ := Bool.or_eq_false_iff.1 unheard
  have addressed : ((packet.motorId.toNat : Int) == broadcastId) = false :=
    single
  simp [respond, idAt, bne, foreign, addressed]

theorem respond_heard (asks : Asks packet task)
    (countable : (packet.parameters.length : Int) + 2 ≤ Packet.maximumLength)
    {motor : Motor} (heard : motor.listens packet.motorId = true) :
    (respond packet.encode).run motor =
      ⟨motor.reply task >>= motor.answerTo packet.motorId,
        motor.fulfil task, []⟩ := by
  obtain ⟨length, lengthAt, parametersEq⟩ :
      ∃ length, packet.encode[Packet.lengthPosition]? = some length ∧
        parametersOf packet.encode length = packet.parameters :=
    ⟨_, rfl, parametersOf_encode packet countable⟩
  have idAt : packet.encode[Packet.idPosition]? = some packet.motorId := rfl
  have codeAt : packet.encode[Packet.codePosition]? = some packet.code := rfl
  have passes :
      (!(Value.integer packet.motorId.toNat).same motor.id &&
        ((packet.motorId.toNat : Int) != broadcastId)) = false := by
    rcases Bool.or_eq_true_iff.1 heard with own | everyone
    · rw [own]
      rfl
    · have all : ((packet.motorId.toNat : Int) == broadcastId) = true :=
        everyone
      simp [bne, all]
  have run :
      (respond packet.encode).run motor =
        (execute task.instruction packet.parameters >>= fun reply =>
          match reply with
          | none => pure []
          | some reply => do
            if (packet.motorId.toNat : Int) == broadcastId then return []
            Act.ofExcept (Packet.status motor.id motor.error reply)).run
              motor := by
    rw [respond, Act.run_bind, Act.run_get, Outcome.andThen_ok]
    simp only [idAt, codeAt, lengthAt, asks.ofCode?_eq, parametersEq, passes,
      Bool.false_eq_true, if_false]
    rfl
  rw [run, Act.run_bind, execute_run asks]
  rcases motor.reply task with fault | _ | parameters
  · rfl
  · rfl
  · by_cases everyone : Fleet.isEveryone packet.motorId = true
    · have all : ((packet.motorId.toNat : Int) == broadcastId) = true :=
        everyone
      simp [answerTo, everyone, all]
    · have single :
          ((packet.motorId.toNat : Int) == broadcastId) = false := by
        simpa [Fleet.isEveryone] using everyone
      simp [answerTo, everyone, single]

/-- What an instruction packet comes to, for every motor. -/
theorem respond_run (asks : Asks packet task)
    (countable : (packet.parameters.length : Int) + 2 ≤ Packet.maximumLength)
    (motor : Motor) :
    (respond packet.encode).run motor =
      ⟨motor.say packet.motorId task, motor.hear packet.motorId task,
        []⟩ := by
  cases heard : motor.listens packet.motorId with
  | true => simp [respond_heard asks countable heard, say, hear, heard]
  | false => simp [respond_unheard heard, say, hear, heard]

end Motor

end ActuatorBus
