import ActuatorBus.Proofs.Bus.Sending
import ActuatorBus.Proofs.Fleet.Service

/-!
# Plans

What an operation asks of a fleet is settled before anything is sent. Either
its instruction packet asks a motor for a task, or there is a fault.
-/

namespace ActuatorBus

/-- An operation comes to a motor and a task for it, or to a fault, in a buffer
with the room that a fleet has for instructions. -/
inductive Operation.Plans (operation : Operation) :
    Except Fault (UInt8 × Task) → Prop where
  | refused {motorId : Value} {fault : Fault}
    (asks : operation.asked = some (motorId, .error fault)) :
    Plans operation (.error fault)
  | unmade {motorId : Value} {request : Request} {image : Except Fault Bytes}
    {fault : Fault} (asks : operation.asked = some (motorId, .ok request))
    (fills : request.Fills image)
    (unmade : request.packet Fleet.room motorId image = .error fault) :
    Plans operation (.error fault)
  | made {motorId : Value} {request : Request} {image : Except Fault Bytes}
    {packet : Packet} {task : Task}
    (asks : operation.asked = some (motorId, .ok request))
    (fills : request.Fills image)
    (made : request.packet Fleet.room motorId image = .ok packet)
    (means : operation.Means motorId task) (asksFor : Asks packet task) :
    Plans operation (.ok (packet.motorId, task))

/-- The parameters of an operation for an instruction come to a task for every
motor, or both have the same fault. -/
inductive Operation.Conveys (operation : Operation) (motorId : Value)
    (instruction : Instruction) :
    Except Fault Bytes → Except Fault Task → Prop where
  | ok {parameters : Bytes} {task : Task}
    (means : operation.Means motorId task)
    (asks : ∀ target, Asks ⟨target, instruction.code, parameters⟩ task) :
    Conveys operation motorId instruction (.ok parameters) (.ok task)
  | error (fault : Fault) :
    Conveys operation motorId instruction (.error fault) (.error fault)

/-! ## Packets -/

theorem Request.packet_eq {request : Request} {instruction : Instruction}
    {count : Nat} (code : request.code = .integer instruction.code.toNat)
    (counted : request.parameterCount = count) (motorId : Value)
    (image : Except Fault Bytes) :
    request.packet Fleet.room motorId image = (do
      checkBufferSize (Packet.size count) Fleet.room
      let target ← motorId.needByte
      return ⟨target, instruction.code, ← image⟩) := by
  have whole :
      (Value.integer instruction.code.toNat).wholeNumber =
        .ok instruction.code.toNat := rfl
  rw [Request.packet, code, counted, Int.toNat_natCast, Packet.assemble,
    checkBufferSize]
  by_cases enough : Packet.size count ≤ Fleet.room
  · have countable : ¬Packet.maximumLength < (count : Int) + 2 := by
      simp only [Packet.size, Packet.minimumSize, Fleet.room] at enough
      simp only [Packet.maximumLength]
      omega
    simp [enough, countable, Packet.ofParts, whole]
  · simp [enough]

/-! ## Images -/

namespace Slot

/-- Writing to a slot that can be written makes a request. -/
theorem exists_write (slot : Slot) (value : Value)
    (checked : slot.register.checkWritable = .ok ()) :
    ∃ request, Request.write slot.register value = .ok request ∧
      request.code = .integer slot.space.writeInstruction.code.toNat ∧
      request.parameterCount = (5 : Nat) := by
  have writable := Register.writable_of_check checked
  have made :
      Request.write slot.register value =
        .ok
          { code := .integer slot.space.writeInstruction.code.toNat
            parameterCount := slot.register.width + 1
            expected := .integer 0
            fill := some (Filler.register slot.register value) } := by
    rw [Request.write, checked, ok_bind, Register.writeInstruction, writable,
      slot.space_eq]
    rfl
  refine ⟨_, made, rfl, ?_⟩
  rw [slot.width_eq]
  rfl

end Slot

namespace WriteEntry

/-- An entry for a slot. -/
def Slotted (entry : WriteEntry) : Prop :=
  ∃ slot : Slot, slot.register = entry.register

/-- What an entry for a slot is on the line, and what is held of it. -/
theorem conveys_entry {entry : WriteEntry} (slotted : entry.Slotted) :
    (∃ fault, entry.image = .error fault ∧ entry.held = .error fault) ∨
      ∃ slot : Slot, slot.register = entry.register ∧ ∃ data : Bytes,
        data.length = 4 ∧ entry.image = .ok (slot.address :: data) ∧
          entry.held =
            .ok (slot.register.label, slot.register.format.value data) := by
  obtain ⟨slot, registerEq⟩ := slotted
  have addressed : entry.address.needByte = .ok slot.address := by
    rw [address, ← registerEq]
    exact slot.needByte_address
  rw [image, addressed, ok_bind, held, ← registerEq]
  cases fitted : Filler.fitting 4 entry.data with
  | error fault => exact Or.inl ⟨fault, rfl, rfl⟩
  | ok data =>
      have four := Filler.length_fitting fitted
      refine Or.inr ⟨slot, rfl, data, four, rfl, ?_⟩
      rw [ok_bind, Register.decode_of_counted (four.trans slot.width_eq.symm)]
      rfl

theorem conveys_entries {space : AddressSpace} {entries : List WriteEntry}
    (slotted : ∀ entry ∈ entries, entry.Slotted)
    (common : ∀ entry ∈ entries, entry.register.space = some space) :
    (∃ fault, images entries = .error fault ∧
        entries.mapM held = .error fault) ∨
      ∃ parameters numbers, images entries = .ok parameters ∧
        entries.mapM held = .ok numbers ∧ Entries space parameters numbers := by
  induction entries with
  | nil => exact Or.inr ⟨[], [], rfl, rfl, .nil⟩
  | cons entry rest conveysRest =>
      rw [images, List.mapM_cons]
      rcases conveys_entry (slotted entry List.mem_cons_self) with
        ⟨fault, imageEq, heldEq⟩ |
          ⟨slot, registerEq, data, four, imageEq, heldEq⟩
      · rw [imageEq, heldEq]
        exact Or.inl ⟨fault, rfl, rfl⟩
      · rw [imageEq, heldEq]
        have ofSpace : slot.space = space := by
          have ownSpace := common entry List.mem_cons_self
          rw [← registerEq, slot.space_eq] at ownSpace
          exact Option.some.inj ownSpace
        rcases conveysRest
            (fun other member => slotted other (List.mem_cons_of_mem _ member))
            (fun other member => common other (List.mem_cons_of_mem _ member))
          with ⟨fault, restEq, restHeld⟩ | ⟨bytes, numbers, restEq, restHeld,
            more⟩
        · rw [restEq, restHeld]
          exact Or.inl ⟨fault, rfl, rfl⟩
        · rw [restEq, restHeld]
          exact Or.inr ⟨_, _, rfl, rfl, .cons slot ofSpace four more⟩

/-- A request for several registers is made if they have a common space. -/
theorem writeAll_eq (entries : List WriteEntry) :
    Request.writeAll entries =
      (commonSpace entries).map fun space =>
        { code := .integer space.writeInstruction.code.toNat
          parameterCount := entries.length * width
          expected := .integer 0
          fill := some (Filler.entries entries) } := by
  cases entries with
  | nil => rfl
  | cons first rest =>
      simp only [Request.writeAll, commonSpace]
      by_cases mixed :
          (rest.any fun entry =>
            entry.register.space != first.register.space) = true
      · rw [if_pos mixed, if_pos mixed]
        rfl
      · rw [if_neg mixed, if_neg mixed]
        cases first.register.space <;> rfl

theorem commonSpace_eq {space : AddressSpace} {entries : List WriteEntry}
    (found : commonSpace entries = .ok space) :
    ∀ entry ∈ entries, entry.register.space = some space := by
  have made := writeAll_eq entries
  rw [found] at made
  obtain ⟨other, _, common, requestEq⟩ := Request.writeAll_eq made
  have sameSpace : space = other := by
    have codes := congrArg Request.code requestEq
    revert codes
    cases space <;> cases other <;>
      simp [AddressSpace.writeInstruction, Instruction.code]
  rw [sameSpace]
  exact common

end WriteEntry

namespace Operation

variable {operation : Operation} {motorId : Value}

/-- An operation whose request has a certain instruction and image. -/
theorem plans_of {request : Request} {instruction : Instruction} {count : Nat}
    {image : Except Fault Bytes} {given : Except Fault Task}
    (asks : operation.asked = some (motorId, .ok request))
    (fills : request.Fills image)
    (code : request.code = .integer instruction.code.toNat)
    (counted : request.parameterCount = count)
    (conveys : operation.Conveys motorId instruction image given) :
    operation.Plans (do
      checkBufferSize (Packet.size count) Fleet.room
      let target ← motorId.needByte
      return (target, ← given)) := by
  have packetEq := Request.packet_eq code counted motorId image
  cases checked : checkBufferSize (Packet.size count) Fleet.room with
  | error fault =>
      rw [checked] at packetEq
      exact .unmade asks fills packetEq
  | ok _ =>
      cases isByte : motorId.needByte with
      | error fault =>
          rw [checked, isByte] at packetEq
          exact .unmade asks fills packetEq
      | ok target =>
          rw [checked, isByte] at packetEq
          cases conveys with
          | error fault => exact .unmade asks fills packetEq
          | ok means asksFor =>
              exact .made asks fills packetEq means (asksFor target)

/-- A request that is short enough is not refused for its size. -/
theorem plans_of_short {request : Request} {instruction : Instruction}
    {count : Nat} {image : Except Fault Bytes} {given : Except Fault Task}
    (asks : operation.asked = some (motorId, .ok request))
    (fills : request.Fills image)
    (code : request.code = .integer instruction.code.toNat)
    (counted : request.parameterCount = count) (short : count ≤ 5)
    (conveys : operation.Conveys motorId instruction image given) :
    operation.Plans (do
      let target ← motorId.needByte
      return (target, ← given)) := by
  have enough : Packet.size count ≤ Fleet.room := by
    simp only [Packet.size, Packet.minimumSize, Fleet.room]
    omega
  have plans := plans_of asks fills code counted conveys
  rw [checkBufferSize, if_pos enough, ok_bind] at plans
  exact plans

/-- What goes before a request is the first thing that can be refused. -/
theorem plans_after {check : Except Fault Unit} {made : Except Fault Request}
    {plan : Except Fault (UInt8 × Task)}
    (asks : operation.asked = some (motorId, check >>= fun _ => made))
    (plans : operation.asked = some (motorId, made) → operation.Plans plan) :
    operation.Plans (check >>= fun _ => plan) := by
  cases check with
  | error fault => exact .refused asks
  | ok _ => exact plans asks

theorem plans_ping (motorId : Value) :
    (Operation.ping motorId).Plans (do
      Request.checkAddressable motorId
      return (← motorId.needByte, .ping)) := by
  have asks :
      (Operation.ping motorId).asked =
        some (motorId, do
          Request.checkAddressable motorId
          return .bare .ping Request.pingParameters) := rfl
  apply plans_after asks
  intro asks
  exact plans_of_short asks (Request.bare_fills _ _) rfl rfl (Nat.zero_le 5)
    (.ok .ping fun target => .ping target)

theorem plans_read (motorId : Value) (slot : Slot) :
    (Operation.read motorId slot.register).Plans (do
      Request.checkAddressable motorId
      return (← motorId.needByte, .read slot)) := by
  have asks :
      (Operation.read motorId slot.register).asked =
        some (motorId, do
          Request.checkAddressable motorId
          Request.read slot.register) := rfl
  apply plans_after asks
  intro asks
  have made :
      Request.read slot.register =
        .ok
          { code := .integer slot.space.readInstruction.code.toNat
            parameterCount := 1
            expected := .integer slot.register.width
            fill := some (Filler.address slot.register.address) } := by
    rw [Request.read, Register.readInstruction, slot.space_eq]
    rfl
  have fills := Request.read_fills made
  rw [slot.needByte_address] at fills
  rw [made] at asks
  exact plans_of_short asks fills rfl rfl (by decide)
    (.ok (.read slot) fun target => .read target slot)

theorem plans_save (motorId : Value) :
    (Operation.saveConfig motorId).Plans (do
      return (← motorId.needByte, .save)) := by
  have asks :
      (Operation.saveConfig motorId).asked =
        some (motorId, .ok (.bare .saveConfig (.integer 0))) := rfl
  exact plans_of_short asks (Request.bare_fills _ _) rfl rfl (Nat.zero_le 5)
    (.ok .saveConfig fun target => .save target)

/-! ## Writes -/

theorem conveys_write (motorId : Value) (slot : Slot) (value : Value) :
    (Operation.write motorId slot.register value).Conveys motorId
      slot.space.writeInstruction
      ((slot.register.image value).map (slot.address :: ·)) (do
        let held ← slot.register.stored value
        return .write slot.space [(slot.register.label, held)]) := by
  cases made : slot.register.image value with
  | error fault =>
      rw [Register.stored, made]
      exact .error fault
  | ok bytes =>
      have four := (Register.length_image made).trans slot.width_eq
      have writes := Entries.cons slot rfl four .nil
      rw [List.append_nil] at writes
      rw [Register.stored_of_image made]
      exact .ok (.write slot.register value) fun target =>
        .write target writes

theorem plans_write (motorId : Value) (slot : Slot) (value : Value) :
    (Operation.write motorId slot.register value).Plans (do
      slot.register.checkWritable
      let target ← motorId.needByte
      let held ← slot.register.stored value
      return (target, .write slot.space [(slot.register.label, held)])) := by
  cases checked : slot.register.checkWritable with
  | error fault =>
      exact .refused (by rw [asked, Request.write, checked]; rfl)
  | ok _ =>
      obtain ⟨request, made, code, counted⟩ := slot.exists_write value checked
      have asks :
          (Operation.write motorId slot.register value).asked =
            some (motorId, .ok request) := by
        rw [asked, made]
      have fills := Request.write_fills made
      rw [slot.needByte_address, ok_bind] at fills
      have plans := plans_of_short asks fills code counted (Nat.le_refl 5)
        (conveys_write motorId slot value)
      simpa only [ok_bind, bind_assoc, pure_bind] using plans

theorem conveys_multiWrite (motorId : Value) {space : AddressSpace}
    {entries : List WriteEntry}
    (slotted : ∀ entry ∈ entries, entry.Slotted)
    (common : ∀ entry ∈ entries, entry.register.space = some space) :
    (Operation.multiWrite motorId entries).Conveys motorId
      space.writeInstruction (WriteEntry.images entries) (do
        let held ← entries.mapM WriteEntry.held
        return .write space held) := by
  rcases WriteEntry.conveys_entries slotted common with
    ⟨fault, imageEq, heldEq⟩ | ⟨parameters, numbers, imageEq, heldEq, writes⟩
  · rw [imageEq, heldEq]
    exact .error fault
  · rw [imageEq, heldEq]
    exact .ok (.multiWrite entries) fun target => .write target writes

theorem plans_multiWrite (motorId : Value) {entries : List WriteEntry}
    (slotted : ∀ entry ∈ entries, entry.Slotted) :
    (Operation.multiWrite motorId entries).Plans (do
      let space ← WriteEntry.commonSpace entries
      checkBufferSize (Packet.size (entries.length * WriteEntry.width))
        Fleet.room
      let target ← motorId.needByte
      let held ← entries.mapM WriteEntry.held
      return (target, .write space held)) := by
  have asks :
      (Operation.multiWrite motorId entries).asked =
        some (motorId, Request.writeAll entries) := rfl
  rw [WriteEntry.writeAll_eq] at asks
  cases found : WriteEntry.commonSpace entries with
  | error fault =>
      rw [found] at asks
      exact .refused asks
  | ok space =>
      have made := WriteEntry.writeAll_eq entries
      rw [found] at asks made
      have plans := plans_of asks (Request.writeAll_fills made) rfl rfl
        (conveys_multiWrite motorId slotted (WriteEntry.commonSpace_eq found))
      simpa only [ok_bind, bind_assoc, pure_bind, Int.natCast_mul] using plans

end Operation

end ActuatorBus
