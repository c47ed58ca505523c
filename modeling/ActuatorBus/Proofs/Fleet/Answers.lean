import ActuatorBus.Proofs.Bus.Exchanging
import ActuatorBus.Proofs.Fleet.Motors

/-!
# The answers of a fleet

An instruction packet reaches all motors of a line. At most one of them replies
to it, and its reply is what is received.
-/

namespace ActuatorBus

namespace Fleet

/-- The simulated motors of a fleet. -/
inductive Shown : Fleet → List Motor → Prop where
  | nil : Shown [] []
  | cons (station : Station) (log : List Instruction) {fleet : Fleet}
    {motors : List Motor} (shown : Shown fleet motors) :
    Shown (station :: fleet) (station.motor log :: motors)

/-- A fleet that a bus can serve: no two motors have the same id, no motor
reports an error, and every register holds what it could be given. -/
structure Sound (fleet : Fleet) : Prop where
  distinct : (fleet.map Station.id).Nodup
  harmless : ∀ station ∈ fleet,
    station.error.toNat &&& ErrorFlags.errorMask = 0
  keeps : ∀ station ∈ fleet, ∀ slot : Slot,
    slot.register.Keeps (station.values slot.space slot.register.label)

/-- What a motor answers to an instruction packet for a task. -/
def answerOf (target : UInt8) (task : Task) (station : Station) : Bytes :=
  if station.id = target ∨ isEveryone target then
    match station.reply task with
    | .ok reply => Motor.replyBytes station target reply
    | .error _ => []
  else []

/-- What the motors of a fleet answer. -/
def answer (fleet : Fleet) (target : UInt8) (task : Task) : Bytes :=
  fleet.flatMap (answerOf target task)

variable {fleet : Fleet} {motors : List Motor} {packet : Packet} {task : Task}

theorem Sound.replies (sound : fleet.Sound) (task : Task) {station : Station}
    (member : station ∈ fleet) : ∃ reply, station.reply task = .ok reply := by
  cases task with
  | ping => exact ⟨_, rfl⟩
  | write space entries => exact ⟨_, rfl⟩
  | save => exact ⟨_, rfl⟩
  | read slot =>
      obtain ⟨again, stored, _⟩ := sound.keeps station member slot
      obtain ⟨bytes, image, _⟩ := bind_eq_ok_iff.1 stored
      rw [Register.image_number] at image
      exact ⟨some bytes, by rw [Station.reply, image]; rfl⟩

theorem Shown.answers_run (shown : Shown fleet motors)
    (asks : Asks packet task)
    (countable : (packet.parameters.length : Int) + 2 ≤ Packet.maximumLength)
    (replies : ∀ station ∈ fleet, ∃ reply, station.reply task = .ok reply) :
    ∃ later, Motor.answers packet.encode motors =
        ⟨.ok (fleet.answer packet.motorId task), later, []⟩ ∧
      Shown (fleet.carryOut packet.motorId task) later := by
  induction shown with
  | nil => exact ⟨[], rfl, .nil⟩
  | @cons station log fleet motors shown answersOfRest =>
      obtain ⟨later, answered, shownLater⟩ :=
        answersOfRest fun other member =>
          replies other (List.mem_cons_of_mem station member)
      obtain ⟨reply, replyEq⟩ := replies station List.mem_cons_self
      by_cases addressed :
          station.id = packet.motorId ∨ isEveryone packet.motorId = true
      · obtain ⟨logLater, run⟩ :=
          Motor.respond_addressed station log asks countable replyEq addressed
        refine ⟨(station.carryOut task).motor logLater :: later, ?_, ?_⟩
        · simp [Motor.answers, run, answered, answer, answerOf, addressed,
            replyEq, Except.map]
        · rw [carryOut, List.map_cons, if_pos addressed]
          exact .cons _ logLater shownLater
      · have single : isEveryone packet.motorId = false := by
          simpa using fun everyone => addressed (Or.inr everyone)
        have run := Motor.respond_other station log
          (fun own => addressed (Or.inl own)) single
        refine ⟨station.motor log :: later, ?_, ?_⟩
        · simp [Motor.answers, run, answered, answer, answerOf, addressed,
            Except.map]
        · rw [carryOut, List.map_cons, if_neg addressed]
          exact .cons station log shownLater

theorem answer_absent {target : UInt8} (single : isEveryone target = false)
    (task : Task) (absent : ∀ station ∈ fleet, station.id ≠ target) :
    fleet.answer target task = [] := by
  apply List.flatMap_eq_nil_iff.2
  intro station member
  have other := absent station member
  simp [answerOf, single, other]

/-- Only the motor with the id asked for answers. -/
theorem answer_single {target : UInt8} (single : isEveryone target = false)
    (task : Task) (distinct : (fleet.map Station.id).Nodup) :
    fleet.answer target task =
      match fleet.find? fun station => station.id == target with
      | some station => answerOf target task station
      | none => [] := by
  induction fleet with
  | nil => rfl
  | cons station rest answerOfRest =>
      rw [List.map_cons, List.nodup_cons] at distinct
      obtain ⟨newId, distinctRest⟩ := distinct
      rw [answer, List.flatMap_cons]
      by_cases own : station.id = target
      · have absent : ∀ other ∈ rest, other.id ≠ target := by
          intro other member equal
          exact newId (List.mem_map.2 ⟨other, member, equal.trans own.symm⟩)
        have silent := answer_absent single task absent
        rw [answer] at silent
        simp [own, silent]
      · have answered := answerOfRest distinctRest
        rw [answer] at answered
        rw [answered]
        simp [own, answerOf, single]

/-! ## What tasks keep -/

theorem keeps_entries {space : AddressSpace} {parameters : Bytes}
    {entries : List (String × Number)}
    (writes : Entries space parameters entries) :
    ∀ station : Station,
      (∀ slot : Slot, slot.register.Keeps
        (station.values slot.space slot.register.label)) →
      ∀ slot : Slot, slot.register.Keeps
        ((station.carryOut (.write space entries)).values slot.space
          slot.register.label) := by
  induction writes with
  | nil => exact fun _ keeps => keeps
  | @cons written ofSpace data rest entries four more keepsMore =>
      intro station keeps
      apply keepsMore
      intro slot
      by_cases same :
          slot.space = space ∧ slot.register.label = written.register.label
      · have registerEq : slot.register = written.register :=
          Slot.register_eq_of_label (same.1.trans ofSpace.symm) same.2
        have counted : data.length = slot.register.width := by
          rw [four, slot.width_eq]
        simp only [Station.put, same, if_true, and_self]
        rw [← registerEq]
        exact Register.keeps_value counted
      · simp only [Station.put, if_neg same]
        exact keeps slot

theorem keeps_carryOut (asks : Asks packet task) {station : Station}
    (keeps : ∀ slot : Slot, slot.register.Keeps
      (station.values slot.space slot.register.label)) (slot : Slot) :
    slot.register.Keeps
      ((station.carryOut task).values slot.space slot.register.label) := by
  cases asks with
  | write target writes => exact keeps_entries writes station keeps slot
  | _ => exact keeps slot

theorem carryOut_same (task : Task) (station : Station) :
    (station.carryOut task).id = station.id ∧
      (station.carryOut task).error = station.error := by
  cases task with
  | write space entries =>
      induction entries generalizing station with
      | nil => exact ⟨rfl, rfl⟩
      | cons entry rest same => exact same (station.put space entry.1 entry.2)
  | _ => exact ⟨rfl, rfl⟩

/-- Every task leaves a fleet that a bus can serve. -/
theorem Sound.carryOut (sound : fleet.Sound) (asks : Asks packet task) :
    (fleet.carryOut packet.motorId task).Sound := by
  constructor
  · have ids :
        (fleet.carryOut packet.motorId task).map Station.id =
          fleet.map Station.id := by
      rw [Fleet.carryOut, List.map_map]
      apply List.map_congr_left
      intro station _
      by_cases addressed :
          station.id = packet.motorId ∨ isEveryone packet.motorId = true
      · simp [addressed, (carryOut_same task station).1]
      · simp [addressed]
    rw [ids]
    exact sound.distinct
  · intro after member
    obtain ⟨station, before, rfl⟩ := List.mem_map.1 member
    have harmless := sound.harmless station before
    split
    · rw [(carryOut_same task station).2]
      exact harmless
    · exact harmless
  · intro after member slot
    obtain ⟨station, before, rfl⟩ := List.mem_map.1 member
    have keeps := sound.keeps station before
    split
    · exact keeps_carryOut asks keeps slot
    · exact keeps slot

end Fleet

end ActuatorBus
