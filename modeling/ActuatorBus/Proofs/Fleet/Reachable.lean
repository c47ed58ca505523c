import ActuatorBus.Proofs.Bus.Transcript
import ActuatorBus.Proofs.Fleet.Fresh

/-!
# Reachable motors

What can become of a simulated motor: it gets packets, whatever they hold, and
its registers and its error byte are set. Whatever becomes of it, it has its
id, and every register holds a value that can be read from it.
-/

namespace ActuatorBus

theorem RegisterValues.get?_put (values : RegisterValues)
    (name label : String) (value : Value) :
    (values.put name value).get? label =
      if label = name then (values.get? label).map fun _ => value
      else values.get? label := by
  induction values with
  | nil => simp [put, get?]
  | cons entry rest restEq =>
      obtain ⟨entryName, held⟩ := entry
      simp only [put, get?, List.map_cons] at restEq ⊢
      by_cases renamed : entryName = name
      · subst renamed
        by_cases found : label = entryName
        · simp [found]
        · simpa [List.lookup_cons, beq_false_of_ne found, found] using restEq
      · have kept : (entryName == name) = false := beq_false_of_ne renamed
        by_cases found : label = entryName
        · subst found
          simp [kept, renamed]
        · simpa [List.lookup_cons, kept, beq_false_of_ne found] using restEq

/-- A register that is found at an address is that of a slot. -/
theorem Slot.of_withAddress {space : AddressSpace} {address : Int}
    {register : Register}
    (found : RegisterMap.withAddress space address = .ok register) :
    ∃ slot : Slot, slot.space = space ∧ slot.register = register := by
  unfold RegisterMap.withAddress at found
  split at found
  · rename_i located
    cases found
    exact ⟨⟨space, register, List.mem_of_find?_eq_some located⟩, rfl, rfl⟩
  · cases found

namespace Motor

/-! ## What packets can do -/

section

variable {property : Motor → Prop}
  (logs : ∀ motor instruction, property motor →
    property (motor.logging instruction))
  (writes : ∀ (motor : Motor) (slot : Slot) (data : Bytes),
    data.length = slot.register.width → property motor →
      property (motor.withValue slot.space slot.register.label
        (.number (slot.register.format.value data))))
  (saves : ∀ motor : Motor, property motor →
    property { motor with saved := motor.config })

include writes in
theorem writeEntries_keeps (space : AddressSpace)
    (entries : List (UInt8 × Bytes)) :
    Act.Keeps property (writeEntries space entries) := by
  induction entries with
  | nil => exact Act.keeps_pure ()
  | cons entry rest keepsRest =>
      obtain ⟨address, data⟩ := entry
      intro motor holds
      unfold writeEntries
      cases found : RegisterMap.withAddress space address.toNat with
      | error fault => exact holds
      | ok register =>
          obtain ⟨slot, rfl, rfl⟩ := Slot.of_withAddress found
          by_cases counted : data.length = slot.register.width
          · simp only [Register.decode_of_counted counted, Act.ofExcept_ok,
              pure_bind]
            exact Act.run_bind_keeps (writes motor slot data counted holds)
              fun _ => keepsRest
          · simp only [Register.decode_of_miscounted counted, Act.ofExcept_ok,
              pure_bind]
            exact holds

include writes in
theorem writeParameters_keeps (space : AddressSpace) (parameters : Bytes) :
    Act.Keeps property (writeParameters space parameters) := by
  cases parameters with
  | nil => exact Act.keeps_pure ()
  | cons address data =>
      refine (Act.keeps_ofExcept _).bind fun first => ?_
      split
      · exact writeEntries_keeps writes space _
      · exact writeEntries_keeps writes space _

theorem readRegister_keeps (space : AddressSpace) (address : UInt8) :
    Act.Keeps property (readRegister space address) := by
  refine (Act.keeps_ofExcept _).bind fun register => ?_
  refine Act.keeps_get.bind fun motor => ?_
  split
  · exact Act.keeps_ofExcept _
  · exact fun _ holds => holds

include logs writes saves in
/-- Whatever an instruction and its parameters are, a motor logs it, writes
data to registers of their width, or saves. -/
theorem execute_keeps (instruction : Instruction) (parameters : Bytes) :
    Act.Keeps property (execute instruction parameters) := by
  intro motor holds
  apply Act.run_bind_keeps (logs motor instruction holds)
  intro _
  have refuses : Act.Keeps property
      (Act.fail .indexOutOfRange : Act Motor (Option Bytes)) :=
    fun _ holds => holds
  have reads (space : AddressSpace) (address : UInt8) :
      Act.Keeps property (do
        return some (← readRegister space address) :
          Act Motor (Option Bytes)) :=
    (readRegister_keeps space address).bind fun _ => Act.keeps_pure _
  have written (space : AddressSpace) : Act.Keeps property (do
      writeParameters space parameters
      return some [] : Act Motor (Option Bytes)) :=
    (writeParameters_keeps writes space parameters).bind fun _ =>
      Act.keeps_pure _
  cases instruction with
  | ping => exact Act.keeps_get.bind fun _ => Act.keeps_pure _
  | readStatus =>
      cases parameters with
      | nil => exact refuses
      | cons address _ => exact reads .status address
  | readConfig =>
      cases parameters with
      | nil => exact refuses
      | cons address _ => exact reads .config address
  | writeStatus => exact written .status
  | writeConfig => exact written .config
  | saveConfig =>
      exact Act.Keeps.bind (fun motor holds => saves motor holds) fun _ =>
        Act.keeps_pure none
  | bulkComm => exact Act.keeps_pure none

include logs writes saves in
theorem respond_keeps (packet : Bytes) :
    Act.Keeps property (respond packet) := by
  refine Act.keeps_get.bind fun motor => ?_
  have refuses (fault : Fault) :
      Act.Keeps property (Act.fail fault : Act Motor Bytes) :=
    fun _ holds => holds
  rcases packet[Packet.idPosition]? with _ | packetId
  · exact refuses _
  by_cases unheard :
      (!(Value.integer packetId.toNat).same motor.id &&
        (packetId.toNat : Int) != broadcastId) = true
  · simp only [unheard, if_true]
    exact Act.keeps_pure []
  simp only [unheard, if_false, Bool.false_eq_true]
  rcases packet[Packet.codePosition]? with _ | code
  · exact refuses _
  rcases packet[Packet.lengthPosition]? with _ | length
  · exact refuses _
  simp only
  rcases Instruction.ofCode? code with _ | instruction
  · exact refuses _
  refine (execute_keeps logs writes saves _ _).bind fun reply => ?_
  rcases reply with _ | parameters
  · exact Act.keeps_pure []
  simp only
  split
  · exact Act.keeps_pure []
  · exact Act.keeps_ofExcept _

end

/-! ## Registers -/

/-- Every register holds a value that can be read from it. -/
def Stocked (motor : Motor) : Prop :=
  ∀ slot : Slot, ∃ bytes, motor.bytesOf slot = .ok bytes ∧ bytes.length = 4

theorem values_withValue (motor : Motor) (space other : AddressSpace)
    (name : String) (value : Value) :
    (motor.withValue space name value).values other =
      if other = space then (motor.values other).put name value
      else motor.values other := by
  cases space <;> cases other <;> rfl

theorem Stocked.withValue {motor : Motor} (stocked : motor.Stocked)
    (slot : Slot) {value : Value} {data : Bytes}
    (storable : slot.register.image value = .ok data) :
    (motor.withValue slot.space slot.register.label value).Stocked := by
  intro other
  obtain ⟨bytes, bytesEq, four⟩ := stocked other
  by_cases same :
      other.space = slot.space ∧ other.register.label = slot.register.label
  · have registerEq : other.register = slot.register :=
      Slot.register_eq_of_label same.1 same.2
    have encoded : slot.register.encode value = .ok data :=
      (Operation.image_eq_ok_iff.1 storable).1
    have counted := Register.length_image storable
    refine ⟨data, ?_, counted.trans slot.width_eq⟩
    unfold bytesOf at bytesEq ⊢
    rw [values_withValue, if_pos same.1, RegisterValues.get?_put,
      if_pos same.2]
    cases held : (motor.values other.space).get? other.register.label with
    | none =>
        rw [held] at bytesEq
        cases bytesEq
    | some before =>
        rw [registerEq]
        exact encoded
  · refine ⟨bytes, ?_, four⟩
    rw [← bytesEq]
    unfold bytesOf
    rw [values_withValue]
    by_cases sameSpace : other.space = slot.space
    · have different : other.register.label ≠ slot.register.label :=
        fun equal => same ⟨sameSpace, equal⟩
      rw [if_pos sameSpace, RegisterValues.get?_put, if_neg different]
    · rw [if_neg sameSpace]

theorem stocked_motor (station : Station) (log : List Instruction)
    (keeps : ∀ slot : Slot, slot.register.Keeps
      (station.values slot.space slot.register.label)) :
    (station.motor log).Stocked := by
  intro slot
  obtain ⟨again, stored, _⟩ := keeps slot
  obtain ⟨bytes, image, _⟩ := bind_eq_ok_iff.1 stored
  refine ⟨bytes, ?_, (Register.length_image image).trans slot.width_eq⟩
  rw [bytesOf, station.motor_values, RegisterValues.get?_of]
  exact (Operation.image_eq_ok_iff.1 image).1

/-! ## What becomes of a motor -/

/-- What there can be of a simulated motor with an id. -/
inductive Reachable (id : UInt8) : Motor → Prop where
  | create (error : UInt8) (pingData : Bytes) :
    Reachable id
      (create (.integer id.toNat) (.integer error.toNat) pingData)
  | report {motor : Motor} (error : UInt8) (reached : Reachable id motor) :
    Reachable id (motor.reporting error)
  | set {motor : Motor} (slot : Slot) {value : Value} {data : Bytes}
    (storable : slot.register.image value = .ok data)
    (reached : Reachable id motor) :
    Reachable id (motor.withValue slot.space slot.register.label value)
  | respond {motor : Motor} (packet : Bytes) (reached : Reachable id motor) :
    Reachable id ((respond packet).run motor).state

/-- The motor has the id, reports an error byte, and its registers can be
read. -/
structure Settled (id : UInt8) (motor : Motor) : Prop where
  id_eq : motor.id = .integer id.toNat
  error_eq : ∃ error : UInt8, motor.error = .integer error.toNat
  stocked : motor.Stocked

variable {id : UInt8} {motor : Motor}

theorem Settled.withValue (settled : Settled id motor) (slot : Slot)
    {value : Value} {data : Bytes}
    (storable : slot.register.image value = .ok data) :
    Settled id
      (motor.withValue slot.space slot.register.label value) := by
  have same : (motor.withValue slot.space slot.register.label value).id =
        motor.id ∧
      (motor.withValue slot.space slot.register.label value).error =
        motor.error := by
    cases slot.space <;> exact ⟨rfl, rfl⟩
  constructor
  · rw [same.1]
    exact settled.id_eq
  · rw [same.2]
    exact settled.error_eq
  · exact settled.stocked.withValue slot storable

/-- What is decoded can be encoded again. -/
theorem respond_keeps_settled (id : UInt8) (packet : Bytes) :
    Act.Keeps (Settled id) (Motor.respond packet) := by
  apply respond_keeps
  · exact fun motor instruction settled =>
      ⟨settled.id_eq, settled.error_eq, settled.stocked⟩
  · intro motor slot data counted settled
    obtain ⟨again, stored, _⟩ := Register.keeps_value counted
    obtain ⟨bytes, storable, _⟩ := bind_eq_ok_iff.1 stored
    exact settled.withValue slot storable
  · exact fun motor settled =>
      ⟨settled.id_eq, settled.error_eq, settled.stocked⟩

theorem Reachable.settled (reached : Reachable id motor) :
    Settled id motor := by
  induction reached with
  | create error pingData =>
      exact ⟨rfl, ⟨error, rfl⟩,
        stocked_motor (.fresh id error) []
          (Fleet.keeps_fresh id error)⟩
  | report error reached settled =>
      exact ⟨settled.id_eq, ⟨error, rfl⟩, settled.stocked⟩
  | set slot storable reached settled =>
      exact settled.withValue slot storable
  | respond packet reached settled =>
      exact respond_keeps_settled id packet _ settled

end Motor

end ActuatorBus
