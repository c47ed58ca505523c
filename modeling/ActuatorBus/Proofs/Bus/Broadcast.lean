import ActuatorBus.Proofs.Bus.Transcript
import ActuatorBus.Proofs.Fleet.Hearing
import ActuatorBus.Proofs.Fleet.Plans
import Mathlib.Control.Monad.Basic

/-!
# Broadcasts

An instruction for all motors does what the same instruction does if it is sent
to each of them, in any order, but none of them answers. The bus knows this: it
does not wait for a reply, and it does not ask all motors for what is nothing
without one.
-/

namespace ActuatorBus

/-! ## Instructions for registers of the map -/

namespace Operation

/-- An operation on registers that every motor has. -/
inductive Mapped : Operation → Prop where
  | ping (motorId : Value) : Mapped (.ping motorId)
  | read (motorId : Value) (slot : Slot) :
    Mapped (.read motorId slot.register)
  | write (motorId : Value) (slot : Slot) (value : Value) :
    Mapped (.write motorId slot.register value)
  | multiWrite (motorId : Value) {entries : List WriteEntry}
    (slotted : ∀ entry ∈ entries, entry.Slotted) :
    Mapped (.multiWrite motorId entries)
  | saveConfig (motorId : Value) : Mapped (.saveConfig motorId)

/-- A write to a slot is one entry. -/
theorem Tells.write_slot {slot : Slot} {given motorId value : Value}
    {code : UInt8} {parameters : Bytes}
    (tells : (Operation.write given slot.register value).Tells motorId code
      parameters) :
    ∃ data, slot.register.encode value = .ok data ∧ data.length = 4 ∧
      code = slot.space.writeInstruction.code ∧
      parameters = slot.address :: data := by
  cases tells with
  | write writable placed located encoded whole =>
      cases slot.space_eq.symm.trans placed
      cases slot.needByte_address.symm.trans located
      exact ⟨_, encoded, whole.trans slot.width_eq, rfl, rfl⟩

/-- Every such operation asks a motor for a task. -/
theorem Mapped.asks {operation : Operation} {size : Nat} {packet : Packet}
    (mapped : operation.Mapped) (instructs : operation.Instructs size packet) :
    ∃ task, Asks packet task := by
  obtain ⟨motorId, tells, _⟩ := instructs.tells
  obtain ⟨target, code, parameters⟩ := packet
  cases mapped with
  | ping given =>
      cases tells
      exact ⟨_, .ping target⟩
  | read given slot =>
      cases tells with
      | read single placed located =>
          cases slot.space_eq.symm.trans placed
          cases slot.needByte_address.symm.trans located
          exact ⟨_, .read target slot⟩
  | write given slot value =>
      obtain ⟨data, _, four, rfl, rfl⟩ := tells.write_slot
      have writes := Entries.cons slot rfl four .nil
      rw [List.append_nil] at writes
      exact ⟨_, .write target writes⟩
  | multiWrite given slotted =>
      cases tells with
      | multiWrite several placed encoded =>
          rcases WriteEntry.conveys_entries slotted placed with
            ⟨fault, imageEq, _⟩ | ⟨bytes, numbers, imageEq, _, writes⟩
          · cases encoded.symm.trans imageEq
          · cases encoded.symm.trans imageEq
            exact ⟨_, .write target writes⟩
  | saveConfig given =>
      cases tells
      exact ⟨_, .save target⟩

end Operation

/-! ## The line -/

namespace Motor

/-- What a motor answers is nothing, or a packet with its id and its error
byte. -/
theorem Settled.answer_cases {id : UInt8} {motor : Motor} {task : Task}
    {answer : Bytes} (settled : Settled id motor)
    (single : Fleet.isEveryone id = false) (replies : motor.Replies task)
    (answered : motor.say id task = .ok answer) :
    answer = [] ∨ ∃ error : UInt8, ∃ parameters : Bytes,
      motor.error = .integer error.toNat ∧
        (parameters.length : Int) + 2 ≤ Packet.maximumLength ∧
          answer = (Packet.mk id error parameters).encode := by
  obtain ⟨reply, replyEq, fits⟩ := replies
  obtain ⟨error, errorEq⟩ := settled.error_eq
  cases (settled.say_own errorEq single replyEq fits).symm.trans answered
  cases reply with
  | none => exact Or.inl rfl
  | some parameters =>
      exact Or.inr ⟨error, parameters, errorEq, fits parameters rfl, rfl⟩

variable {ids : List UInt8} {motors : List Motor} {packet : Packet}

theorem Row.unheard (row : Row ids motors)
    (single : Fleet.isEveryone packet.motorId = false) {motor : Motor}
    (member : motor ∈ motors)
    (other : motor.id ≠ .integer packet.motorId.toNat) :
    (respond packet.encode).run motor = ⟨.ok [], motor, []⟩ := by
  obtain ⟨id, _, own⟩ := exists_settled row.settled member
  refine respond_unheard (unheard_of_ne own.id_eq ?_ single)
  rintro rfl
  exact other own.id_eq

/-- Of two motors one does not answer. -/
theorem Row.one_answers (row : Row ids motors)
    (single : Fleet.isEveryone packet.motorId = false) :
    motors.Pairwise fun first second =>
      ((respond packet.encode).run first).result = .ok [] ∨
        ((respond packet.encode).run second).result = .ok [] := by
  refine row.apart.imp_of_mem @fun first second firstMember secondMember
    apart => ?_
  by_cases own : first.id = .integer packet.motorId.toNat
  · have other : second.id ≠ .integer packet.motorId.toNat :=
      fun same => apart (own.trans same.symm)
    exact Or.inr (congrArg Outcome.result
      (row.unheard single secondMember other))
  · exact Or.inl (congrArg Outcome.result
      (row.unheard single firstMember own))

end Motor

/-! ## The bus -/

namespace Bus

variable {σ : Type} (link : Link σ)

/-- An operation that does not wait for a reply reads nothing. -/
theorem perform_without_reply (operation : Operation) {motorId : Value}
    {asked : Except Fault Request}
    (asks : operation.asked = some (motorId, asked))
    (silent : operation.awaitsReply = false)
    (read : (space : Nat) → (deadline : Double) → Act σ Bytes) :
    perform { link with read } operation = perform link operation := by
  have sends : writePacket { link with read } = writePacket link := rfl
  rw [perform_eq _ asks, perform_eq _ asks, sends]
  simp only [silent, Bool.false_eq_true, if_false]

theorem perform_unaddressable (operation : Operation) {motorId : Value}
    {made : Except Fault Request}
    (asks : operation.asked =
      some (motorId, Request.checkAddressable motorId >>= fun _ => made))
    (everyone : motorId.same (.integer broadcastId) = true) (bus : Bus σ) :
    (perform link operation).run bus = ⟨.error .broadcastReply, bus, []⟩ := by
  have refused :
      (Request.checkAddressable motorId >>= fun _ => made) =
        .error .broadcastReply := by
    rw [Request.checkAddressable, if_pos everyone]
    rfl
  rw [perform_eq link asks, refused]
  rfl

/-- Motors on a line hear an instruction for registers of the map. If it is for
all motors, each of them gets it once and does what it does if the same
instruction is sent to its own id, whatever the order, and the line is silent.
If it is for one motor, no other motor changes or answers, and the answer is
one packet of this motor at most. To all motors a bus only writes. -/
theorem broadcast_matches_each {ids : List UInt8} {motors : List Motor}
    (row : Motor.Row ids motors)
    (short : ∀ motor ∈ motors, motor.pingData.length ≤ 253)
    {operation : Operation} {size : Nat} {packet : Packet}
    (mapped : operation.Mapped)
    (instructs : operation.Instructs size packet) :
    let heard := (Motor.respondAll packet.encode).run motors
    let alone (motor : Motor) := (Motor.respond packet.encode).run motor
    (Fleet.isEveryone packet.motorId = true →
      heard.result = .ok [] ∧
        heard.state.map Motor.instructions = motors.map (fun motor =>
          motor.instructions ++ (Instruction.ofCode? packet.code).toList) ∧
        ∀ order : List UInt8, order.Perm ids →
          ∃ replies, (Motor.deliverEach packet order).run motors =
            ⟨.ok replies, heard.state, []⟩) ∧
    (Fleet.isEveryone packet.motorId = false →
      heard.state = motors.map (fun motor => (alone motor).state) ∧
      (∀ motor ∈ motors, motor.id ≠ .integer packet.motorId.toNat →
        alone motor = ⟨.ok [], motor, []⟩) ∧
      (motors.Pairwise fun first second =>
        (alone first).result = .ok [] ∨ (alone second).result = .ok []) ∧
      ∃ answer, heard.result = .ok answer ∧
        (answer = [] ∨ ∃ motor ∈ motors, ∃ error parameters,
          motor.id = .integer packet.motorId.toNat ∧
            motor.error = .integer error.toNat ∧
              (parameters.length : Int) + 2 ≤ Packet.maximumLength ∧
                answer =
                  (Packet.mk packet.motorId error parameters).encode)) ∧
    ∀ {σ : Type} (link : Link σ) (motorId : Value),
      motorId.same (.integer broadcastId) = true →
        (∀ read,
          let unread := { link with read }
          (∀ register value, write unread motorId register value =
            write link motorId register value) ∧
          (∀ entries, multiWrite unread motorId entries =
            multiWrite link motorId entries) ∧
          saveConfig unread motorId = saveConfig link motorId) ∧
        ∀ bus : Bus σ,
          let refused := ⟨.error .broadcastReply, bus, []⟩
          (ping link motorId).run bus = refused ∧
          (∀ register,
            (Bus.read link motorId register).run bus = refused) ∧
          ∀ code address length,
            (readRaw link motorId code address length).run bus =
              refused := by
  intro heard alone
  obtain ⟨task, asks⟩ := mapped.asks instructs
  have countable := instructs.countable
  have replies := row.replies short task
  have aloneEq : ∀ motor, alone motor =
      ⟨motor.say packet.motorId task, motor.hear packet.motorId task, []⟩ :=
    Motor.respond_run asks countable
  refine ⟨?_, ?_, ?_⟩
  · intro everyone
    have heardEq : heard = _ :=
      Motor.answers_everyone asks countable everyone replies
    rw [heardEq]
    refine ⟨rfl, ?_, fun order same => ?_⟩
    · rw [List.map_map, asks.ofCode?_eq]
      exact List.map_congr_left fun motor _ =>
        motor.instructions_everyone task everyone
    · exact Motor.deliverEach_everyone asks countable everyone row short same
  · intro single
    obtain ⟨answer, heardEq, absent, present⟩ :=
      Motor.answers_single asks countable single row.settled row.distinct
        replies
    have heardRun : heard = _ := heardEq
    refine ⟨?_, fun motor => row.unheard single, row.one_answers single,
      answer, ?_, ?_⟩
    · rw [heardRun]
      exact List.map_congr_left fun motor _ =>
        (congrArg Outcome.state (aloneEq motor)).symm
    · rw [heardRun]
    · by_cases among : packet.motorId ∈ ids
      · obtain ⟨motor, member, own, answered⟩ := present among
        rcases own.answer_cases single (replies motor member) answered with
          nothing | ⟨error, parameters, errorEq, fits, answerEq⟩
        · exact Or.inl nothing
        · exact Or.inr ⟨motor, member, error, parameters, own.id_eq, errorEq,
            fits, answerEq⟩
      · exact Or.inl (absent among)
  · intro σ link motorId everyone
    refine ⟨fun read => ⟨?_, ?_, ?_⟩, fun bus => ⟨?_, ?_, ?_⟩⟩
    · intro register value
      exact perform_without_reply link (.write motorId register value) rfl
        (by simp [Operation.awaitsReply, everyone]) read
    · intro entries
      exact perform_without_reply link (.multiWrite motorId entries) rfl
        (by simp [Operation.awaitsReply, everyone]) read
    · rfl
    · exact perform_unaddressable link (.ping motorId) rfl everyone bus
    · intro register
      exact perform_unaddressable link (.read motorId register) rfl everyone
        bus
    · intro code address length
      exact perform_unaddressable link (.readRaw motorId code address length)
        rfl everyone bus

/-- Setting the mode of two motors, of which the second one reports a
warning. -/
theorem broadcast_matches_each_pair :
    let motors : List Motor := [
      .create (.integer 1) (.integer 0) Motor.defaultPingData,
      .create (.integer 2) (.integer 0x80) []]
    let packet : Packet := ⟨0xFE, Instruction.writeConfig.code, [1, 3, 0, 0, 0]⟩
    let heard := (Motor.respondAll packet.encode).run motors
    heard.result = .ok [] ∧
      (∃ replies, (Motor.deliverEach packet [2, 1]).run motors =
        ⟨.ok replies, heard.state, []⟩) ∧
      heard.state.map (fun motor => motor.config.get? "mode") =
        [some (.integer 3), some (.integer 3)] := by
  intro motors packet heard
  have row : Motor.Row [1, 2] motors :=
    ⟨.cons (.create 0 _) (.cons (.create 0x80 _) .nil), by decide,
      by decide +kernel⟩
  have tells :
      (Operation.write (.integer 0xFE) Slot.mode.register
        (.integer 3)).Tells (.integer 0xFE)
          AddressSpace.config.writeInstruction.code (1 :: [3, 0, 0, 0]) :=
    .write rfl rfl rfl (by decide +kernel) rfl
  have instructs :
      (Operation.write (.integer 0xFE) Slot.mode.register
        (.integer 3)).Instructs 11 packet :=
    ⟨⟨_, tells, rfl⟩, by decide, by decide⟩
  have matched := broadcast_matches_each row (by decide)
    (.write (.integer 0xFE) Slot.mode (.integer 3)) instructs
  obtain ⟨silent, _, each⟩ := matched.1 (by decide)
  refine ⟨silent, each [2, 1] (by decide), ?_⟩
  decide +kernel

end Bus

end ActuatorBus
