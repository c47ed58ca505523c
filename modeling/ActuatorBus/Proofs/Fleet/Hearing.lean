import ActuatorBus.Proofs.Fleet.Reachable
import Mathlib.Data.List.Forall2

/-!
# Motors on one line

Motors with ids of their own hear all instruction packets of a line. An
instruction for one of them is carried out and answered by this one alone; an
instruction for all of them is carried out by each, and none answers.
-/

namespace ActuatorBus

namespace Motor

/-! ## One motor -/

/-- There is a reply to a task, and it fits into a packet. -/
def Replies (motor : Motor) (task : Task) : Prop :=
  ∃ reply, motor.reply task = .ok reply ∧
    ∀ parameters, reply = some parameters →
      (parameters.length : Int) + 2 ≤ Packet.maximumLength

variable {id target : UInt8} {motor : Motor} {task : Task}

theorem replies_write (motor : Motor) (space : AddressSpace)
    (entries : List (String × Number)) :
    motor.Replies (.write space entries) := by
  refine ⟨some [], rfl, ?_⟩
  rintro parameters ⟨⟩
  decide

theorem Settled.replies (settled : Settled id motor)
    (short : motor.pingData.length ≤ 253) (task : Task) :
    motor.Replies task := by
  cases task with
  | ping =>
      refine ⟨some motor.pingData, rfl, ?_⟩
      rintro parameters ⟨⟩
      simp only [Packet.maximumLength]
      omega
  | read slot =>
      obtain ⟨bytes, bytesEq, four⟩ := settled.stocked slot
      refine ⟨some bytes, by rw [reply, bytesEq]; rfl, ?_⟩
      rintro parameters ⟨⟩
      exact countable_of_short (Nat.le_of_eq four)
  | write space entries => exact motor.replies_write space entries
  | save =>
      refine ⟨none, rfl, ?_⟩
      rintro parameters ⟨⟩

theorem say_everyone (replies : motor.Replies task)
    (everyone : Fleet.isEveryone target = true) :
    motor.say target task = .ok [] := by
  obtain ⟨reply, replyEq, _⟩ := replies
  have heard : motor.listens target = true := by
    rw [listens, everyone, Bool.or_true]
  rw [say, if_pos heard, replyEq, ok_bind]
  cases reply with
  | none => rfl
  | some parameters => exact if_pos everyone

theorem hear_everyone (motor : Motor) (task : Task)
    (everyone : Fleet.isEveryone target = true) :
    motor.hear target task = motor.fulfil task := by
  rw [hear, listens, everyone, Bool.or_true, if_pos rfl]

theorem unheard_of_ne (own : motor.id = .integer id.toNat)
    (other : id ≠ target) (single : Fleet.isEveryone target = false) :
    motor.listens target = false := by
  rw [Bool.eq_false_iff, Ne, listens_iff own]
  simp [other, single]

/-- The packet with the parameters of a reply, if there is one. -/
def statusOf (id error : UInt8) : Option Bytes → Bytes
  | none => []
  | some parameters => (Packet.mk id error parameters).encode

/-- What a motor answers to its own id. -/
theorem Settled.say_own (settled : Settled id motor) {error : UInt8}
    (errorEq : motor.error = .integer error.toNat)
    (single : Fleet.isEveryone id = false) {reply : Option Bytes}
    (replyEq : motor.reply task = .ok reply)
    (countable : ∀ parameters, reply = some parameters →
      (parameters.length : Int) + 2 ≤ Packet.maximumLength) :
    motor.say id task = .ok (statusOf id error reply) := by
  have heard := (listens_iff settled.id_eq id).2 (Or.inl rfl)
  rw [say, if_pos heard, replyEq, ok_bind]
  cases reply with
  | none => rfl
  | some parameters =>
      rw [answerTo, single, if_neg Bool.false_ne_true, settled.id_eq, errorEq,
        Packet.status_eq id error (countable parameters rfl)]
      rfl

/-! ## All motors -/

variable {packet : Packet} {ids : List UInt8} {motors : List Motor}

theorem answers_everyone (asks : Asks packet task)
    (countable : (packet.parameters.length : Int) + 2 ≤ Packet.maximumLength)
    (everyone : Fleet.isEveryone packet.motorId = true)
    (replies : ∀ motor ∈ motors, motor.Replies task) :
    answers packet.encode motors =
      ⟨.ok [], motors.map fun motor => motor.hear packet.motorId task,
        []⟩ := by
  induction motors with
  | nil => rfl
  | cons motor rest answersOfRest =>
      have restEq := answersOfRest fun other member =>
        replies other (List.mem_cons_of_mem motor member)
      have quiet := say_everyone (replies motor List.mem_cons_self) everyone
      rw [answers, respond_run asks countable, quiet, restEq]
      rfl

theorem exists_settled (settled : List.Forall₂ Settled ids motors)
    (member : motor ∈ motors) : ∃ id ∈ ids, Settled id motor := by
  induction settled with
  | nil => exact nomatch member
  | @cons id first ids motors own others found =>
      rcases List.mem_cons.1 member with rfl | later
      · exact ⟨id, List.mem_cons_self, own⟩
      · obtain ⟨other, among, otherOwn⟩ := found later
        exact ⟨other, List.mem_cons_of_mem id among, otherOwn⟩

/-- Of motors with ids of their own only the one asked answers. -/
theorem answers_single (asks : Asks packet task)
    (countable : (packet.parameters.length : Int) + 2 ≤ Packet.maximumLength)
    (single : Fleet.isEveryone packet.motorId = false)
    (settled : List.Forall₂ Settled ids motors) (distinct : ids.Nodup)
    (replies : ∀ motor ∈ motors, motor.Replies task) :
    ∃ answer, answers packet.encode motors =
        ⟨.ok answer, motors.map fun motor => motor.hear packet.motorId task,
          []⟩ ∧
      (packet.motorId ∉ ids → answer = []) ∧
      (packet.motorId ∈ ids → ∃ motor ∈ motors,
        Settled packet.motorId motor ∧
          motor.say packet.motorId task = .ok answer) := by
  induction settled with
  | nil => exact ⟨[], rfl, fun _ => rfl, fun member => nomatch member⟩
  | @cons id motor ids motors own others answersOfRest =>
      obtain ⟨newId, distinctRest⟩ := List.nodup_cons.1 distinct
      obtain ⟨answer, restEq, absent, present⟩ := answersOfRest distinctRest
        fun other member => replies other (List.mem_cons_of_mem motor member)
      by_cases asked : id = packet.motorId
      · subst asked
        obtain ⟨reply, replyEq, fits⟩ := replies motor List.mem_cons_self
        obtain ⟨error, errorEq⟩ := own.error_eq
        have answered := own.say_own errorEq single replyEq fits
        refine ⟨statusOf packet.motorId error reply, ?_, ?_, ?_⟩
        · rw [answers, respond_run asks countable, answered, restEq,
            absent newId]
          simp [Except.map]
        · exact fun missing => absurd List.mem_cons_self missing
        · exact fun _ => ⟨motor, List.mem_cons_self, own, answered⟩
      · have unheard := unheard_of_ne own.id_eq asked single
        have quiet : motor.say packet.motorId task = .ok [] := by
          simp [say, unheard]
        refine ⟨answer, ?_, ?_, ?_⟩
        · rw [answers, respond_run asks countable, quiet, restEq]
          simp [Except.map]
        · intro missing
          exact absent fun member => missing (List.mem_cons_of_mem id member)
        · intro member
          have later : packet.motorId ∈ ids := by
            rcases List.mem_cons.1 member with equal | later
            · exact absurd equal.symm asked
            · exact later
          obtain ⟨found, ofRest, ownFound, answered⟩ := present later
          exact ⟨found, List.mem_cons_of_mem motor ofRest, ownFound, answered⟩

/-- Motors on a line, with ids of their own that are not the one of all. -/
structure Row (ids : List UInt8) (motors : List Motor) : Prop where
  reached : List.Forall₂ Reachable ids motors
  distinct : ids.Nodup
  single : ∀ id ∈ ids, Fleet.isEveryone id = false

theorem Row.settled (row : Row ids motors) :
    List.Forall₂ Settled ids motors :=
  row.reached.imp fun _ _ reached => reached.settled

theorem Row.replies (row : Row ids motors)
    (short : ∀ motor ∈ motors, motor.pingData.length ≤ 253) (task : Task) :
    ∀ motor ∈ motors, motor.Replies task := by
  intro motor member
  obtain ⟨id, _, own⟩ := exists_settled row.settled member
  exact own.replies (short motor member) task

/-- No two motors have the same id. -/
theorem Row.apart (row : Row ids motors) :
    motors.Pairwise fun first second => first.id ≠ second.id := by
  have idsEq : motors.map Motor.id =
      ids.map fun id => Value.integer id.toNat := by
    have settled := row.settled
    clear row
    induction settled with
    | nil => rfl
    | cons own others restEq =>
        rw [List.map_cons, List.map_cons, own.id_eq, restEq]
  have valuesApart :
      (ids.map fun id => Value.integer id.toNat).Pairwise (· ≠ ·) := by
    refine List.pairwise_map.2 (row.distinct.imp fun different same => ?_)
    simp only [Value.number.injEq, Number.integer.injEq, Int.natCast_inj,
      UInt8.toNat_inj] at same
    exact different same
  rw [← idsEq] at valuesApart
  exact List.pairwise_map.1 valuesApart

/-! ## One after the other -/

theorem fulfil_eq (motor : Motor) (task : Task) :
    ∃ config status saved, motor.fulfil task =
      { motor.logging task.instruction with config, status, saved } :=
  carryOut_eq _ task

theorem instructions_everyone (motor : Motor) (task : Task)
    (everyone : Fleet.isEveryone target = true) :
    (motor.hear target task).instructions =
      motor.instructions ++ [task.instruction] := by
  obtain ⟨_, _, _, fulfilEq⟩ := motor.fulfil_eq task
  rw [hear_everyone motor task everyone, fulfilEq]
  rfl

/-- Of the ids that are called out a motor hears its own, once. -/
theorem foldl_hear (task : Task) {order : List UInt8} (distinct : order.Nodup)
    (single : ∀ other ∈ order, Fleet.isEveryone other = false) :
    ∀ {motor : Motor}, motor.id = .integer id.toNat →
      order.foldl (fun motor other => motor.hear other task) motor =
        if id ∈ order then motor.fulfil task else motor := by
  induction order with
  | nil => exact fun _ => rfl
  | cons first rest foldlRest =>
      intro motor own
      obtain ⟨newId, distinctRest⟩ := List.nodup_cons.1 distinct
      have restEq := @foldlRest distinctRest fun other member =>
        single other (List.mem_cons_of_mem first member)
      rw [List.foldl_cons]
      by_cases called : id = first
      · subst called
        have heard := (listens_iff own id).2 (Or.inl rfl)
        obtain ⟨config, status, saved, fulfilEq⟩ := motor.fulfil_eq task
        have ownLater : (motor.fulfil task).id = .integer id.toNat := by
          rw [fulfilEq]
          exact own
        rw [hear, if_pos heard, restEq ownLater, if_neg newId,
          if_pos List.mem_cons_self]
      · have unheard := unheard_of_ne own called
          (single first List.mem_cons_self)
        rw [hear, unheard, if_neg Bool.false_ne_true, restEq own]
        simp [called]

/-- Whatever is heard, the motors stay beside each other. -/
theorem Row.hear (row : Row ids motors) (asks : Asks packet task)
    (countable :
      (packet.parameters.length : Int) + 2 ≤ Packet.maximumLength) :
    Row ids (motors.map fun motor => motor.hear packet.motorId task) := by
  refine { row with reached := List.forall₂_map_right_iff.2 ?_ }
  refine row.reached.imp fun id motor reached => ?_
  have later := reached.respond packet.encode
  rw [respond_run asks countable] at later
  exact later

/-- Hearing a task changes what registers hold and the log. -/
theorem hear_eq (motor : Motor) (target : UInt8) (task : Task) :
    ∃ config status saved instructions,
      motor.hear target task =
        { motor with config, status, saved, instructions } := by
  obtain ⟨config, status, saved, fulfilEq⟩ := motor.fulfil_eq task
  by_cases heard : motor.listens target = true
  · refine ⟨config, status, saved,
      motor.instructions ++ [task.instruction], ?_⟩
    rw [Motor.hear, if_pos heard, fulfilEq]
    rfl
  · refine ⟨motor.config, motor.status, motor.saved, motor.instructions, ?_⟩
    rw [Motor.hear, if_neg heard]

/-- Delivers an instruction once to each of several ids. -/
def deliverEach (packet : Packet) (order : List UInt8) :
    Act (List Motor) (List Bytes) :=
  order.mapM fun id =>
    respondAll { packet with motorId := id }.encode

theorem deliverEach_run (asks : Asks packet task)
    (countable : (packet.parameters.length : Int) + 2 ≤ Packet.maximumLength)
    {order : List UInt8}
    (single : ∀ other ∈ order, Fleet.isEveryone other = false) :
    ∀ {motors : List Motor}, Row ids motors →
      (∀ motor ∈ motors, motor.pingData.length ≤ 253) →
      ∃ replies, (deliverEach packet order).run motors =
        ⟨.ok replies, motors.map fun motor =>
          order.foldl (fun motor other => motor.hear other task) motor,
          []⟩ := by
  induction order with
  | nil =>
      intro motors _ _
      exact ⟨[], by simp [deliverEach]⟩
  | cons first rest deliverRest =>
      intro motors row short
      obtain ⟨answer, delivered, _, _⟩ :=
        answers_single (asks.readdress first) countable
          (single first List.mem_cons_self) row.settled row.distinct
          (row.replies short task)
      have rowLater := row.hear (asks.readdress first) countable
      have shortLater : ∀ motor ∈ motors.map fun motor =>
          motor.hear first task, motor.pingData.length ≤ 253 := by
        intro later member
        obtain ⟨motor, before, rfl⟩ := List.mem_map.1 member
        obtain ⟨_, _, _, _, heardEq⟩ := motor.hear_eq first task
        rw [heardEq]
        exact short motor before
      obtain ⟨answers, restEq⟩ :=
        deliverRest (fun other member =>
          single other (List.mem_cons_of_mem first member))
          rowLater shortLater
      refine ⟨answer :: answers, ?_⟩
      have firstEq :
          (respondAll { packet with motorId := first }.encode).run motors =
            _ := delivered
      rw [deliverEach] at restEq ⊢
      simp [firstEq, restEq, Function.comp_def]

/-- An instruction that is delivered once to each motor, in any order, does
what it does if all motors hear it. -/
theorem deliverEach_everyone (asks : Asks packet task)
    (countable : (packet.parameters.length : Int) + 2 ≤ Packet.maximumLength)
    (everyone : Fleet.isEveryone packet.motorId = true)
    (row : Row ids motors)
    (short : ∀ motor ∈ motors, motor.pingData.length ≤ 253)
    {order : List UInt8} (same : order.Perm ids) :
    ∃ replies, (deliverEach packet order).run motors =
      ⟨.ok replies, motors.map fun motor =>
        motor.hear packet.motorId task, []⟩ := by
  have distinct := same.nodup_iff.2 row.distinct
  have single : ∀ other ∈ order, Fleet.isEveryone other = false :=
    fun other member => row.single other (same.mem_iff.1 member)
  obtain ⟨replies, run⟩ :=
    deliverEach_run asks countable single row short
  refine ⟨replies, ?_⟩
  rw [run]
  congr 1
  apply List.map_congr_left
  intro motor member
  obtain ⟨id, among, own⟩ := exists_settled row.settled member
  rw [foldl_hear task distinct single own.id_eq,
    if_pos (same.mem_iff.2 among), hear_everyone motor task everyone]

end Motor

end ActuatorBus
