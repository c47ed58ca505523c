import ActuatorBus.Proofs.Bus.Transcript
import ActuatorBus.Proofs.Register.Lookups
import ActuatorBus.Proofs.Register.Misfits

/-!
# Writing what does not fit

A number that an integer register refuses is refused before the line is
touched, whatever the line is.
-/

namespace ActuatorBus

/-- Parameters that cannot be made are all that a packet can fail for if it has
room, and a motor and a code. -/
theorem Packet.assemble_error {room count : Nat} {motorId code : Value}
    {id codeByte : UInt8} {fault : Fault} (fits : size count ≤ room)
    (countable : (count : Int) + 2 ≤ maximumLength)
    (isByte : motorId.needByte = .ok id)
    (coded : code.wholeNumber >>= Bytes.needByte = .ok codeByte) :
    assemble room motorId code count (.error fault) = .error fault := by
  obtain ⟨number, numberEq, byteEq⟩ := bind_eq_ok_iff.1 coded
  rw [assemble, checkBufferSize, if_pos fits, if_neg (by omega)]
  simp [ofParts, isByte, numberEq, byteEq]

namespace Bus

variable {σ : Type} (link : Link σ) {bus : Bus σ} {motorId : Value}
  {id address : UInt8} {register : Register} {space : AddressSpace}

/-- A value that a register cannot encode is all that writing it can fail for
before the line is touched, if there is room for the instruction. -/
theorem write_unencodable {value : Value} {fault : Fault}
    (isByte : motorId.needByte = .ok id)
    (writable : register.writable = true)
    (placed : register.space = some space)
    (located : register.address.needByte = .ok address)
    (room : Packet.size (register.width + 1) ≤ bus.writeBuffer.length)
    (unencodable : register.encode value = .error fault) :
    ∃ left : Bytes, left.length = bus.writeBuffer.length ∧
      (Bus.write link motorId register value).run bus =
        ⟨.error fault, { bus with writeBuffer := left }, []⟩ := by
  have asks :
      (Operation.write motorId register value).asked =
        some (motorId, Request.write register value) := rfl
  rw [Request.write_ok writable placed] at asks
  have fills := Operation.asked_fills_image asks
  have imageEq :
      (Operation.write motorId register value).image = .error fault := by
    rw [Operation.image, located, Register.image, unencodable]
    rfl
  rw [imageEq] at fills
  have countable :
      ((register.width + 1 : Nat) : Int) + 2 ≤ Packet.maximumLength := by
    have narrow := register.width_le
    simp only [Packet.maximumLength]
    omega
  have refused :
      Packet.assemble bus.writeBuffer.length motorId
        (.integer space.writeInstruction.code.toNat) (register.width + 1)
        (.error fault) = .error fault :=
    Packet.assemble_error room countable isByte (Operation.needByte_code _)
  obtain ⟨left, lengthEq, run⟩ := writePacket_error link fills refused
  refine ⟨left, lengthEq, ?_⟩
  show (perform link (.write motorId register value)).run bus = _
  rw [perform_eq link asks, Act.ofExcept_ok, pure_bind, Act.run_bind, run]
  rfl

/-- A number that does not fit into an integer register of a table is refused,
and only the write buffer can have changed. -/
theorem write_misfit {registry : Registry} {places : List Nat}
    {registers : List Register} {table : RegisterTable}
    (distinct : places.Nodup)
    (shown : List.Forall₂ registry.Holds places registers)
    (plain : ∀ register ∈ registers, register.Plain)
    (built : ((Registry.buildTable (some space) places).run registry).result =
      .ok table)
    (member : register ∈ table.registers
      ((Registry.buildTable (some space) places).run registry).state)
    {range : Int × Int} (integers : register.format.range? = some range)
    {value : Number} (misfits : value.Misfits range) :
    register.encode (.number value) =
        .error (register.refusal range value) ∧
      ∀ {bus : Bus σ} {motorId : Value} {id : UInt8},
        motorId.needByte = .ok id → register.writable = true →
        Packet.size (register.width + 1) ≤ bus.writeBuffer.length →
        ∃ left : Bytes, left.length = bus.writeBuffer.length ∧
          (Bus.write link motorId register (.number value)).run bus =
            ⟨.error (register.refusal range value),
              { bus with writeBuffer := left }, []⟩ := by
  have unencodable := Register.encode_misfit integers misfits
  refine ⟨unencodable, ?_⟩
  intro bus motorId id isByte writable room
  obtain ⟨consistent, _, accessible⟩ :=
    Registry.accessible_of_built distinct shown plain built
  rw [accessible.listed] at member
  have placed := accessible.spaced register member
  obtain ⟨given, among, rfl⟩ := List.mem_map.1 member
  obtain ⟨address, located⟩ :=
    Value.exists_needByte_iff.2 (consistent.isByte plain among)
  exact write_unencodable link isByte writable placed located room unencodable

/-- A bus with room for sixteen bytes. -/
def roomy : Bus MemoryLine :=
  { narrow with writeBuffer := List.replicate 16 0 }

theorem write_misfit_two_bytes :
    let registry : Registry := ⟨[Registry.unplaced "gain" none]⟩
    let table : RegisterTable := ⟨some .config, [0]⟩
    let built := (Registry.buildTable (some .config) [0]).run registry
    let gain : Register :=
      { Registry.unplaced "gain" (some .config) with address := .integer 0 }
    built.result = .ok table ∧ table.registers built.state = [gain] ∧
      ∃ left : Bytes, left.length = 16 ∧
        (Bus.write (MemoryLine.link .blocking) (.integer 1) gain
          (.integer 65536)).run roomy =
            ⟨.error (.outOfRange "gain" 65536 0 65535),
              { roomy with writeBuffer := left }, []⟩ := by
  intro registry table built gain
  have tableBuilt : built.result = .ok table := by decide
  have listed : table.registers built.state = [gain] := by decide
  have misfits : (Number.integer 65536).Misfits (0, 65535) := by
    rintro n ⟨⟩
    decide
  have plain : ∀ register ∈ [Registry.unplaced "gain" none],
      register.Plain := by
    intro register member
    cases List.mem_singleton.1 member
    exact ⟨⟨"gain", rfl⟩, Or.inl rfl⟩
  have shown : List.Forall₂ registry.Holds [0]
      [Registry.unplaced "gain" none] :=
    .cons rfl .nil
  obtain ⟨_, refused⟩ := write_misfit (MemoryLine.link .blocking)
    (List.nodup_singleton 0) shown plain tableBuilt
    (listed.symm ▸ List.mem_singleton_self gain) rfl misfits
  have refusalEq : gain.refusal (0, 65535) (.integer 65536) =
      .outOfRange "gain" 65536 0 65535 := by
    decide +kernel
  rw [refusalEq] at refused
  have isByte : (Value.integer 1).needByte = .ok 1 := rfl
  have room : Packet.size (gain.width + 1) ≤ roomy.writeBuffer.length := by
    decide
  exact ⟨tableBuilt, listed, refused isByte rfl room⟩

/-- An integer that no double is next to is out of the range of every integer
register, but is not refused for that. -/
theorem write_too_large :
    ∃ register, RegisterMap.named? .config "id" = some register ∧
      register.format.range? = some (0, 4294967295) ∧
      ∃ left : Bytes, left.length = 16 ∧
        (Bus.write (MemoryLine.link .blocking) (.integer 1) register
          (.integer (Nat.pow 2 1024 : Nat))).run roomy =
            ⟨.error .overflow, { roomy with writeBuffer := left }, []⟩ := by
  have isByte : (Value.integer 1).needByte = .ok 1 := rfl
  have sized : roomy.writeBuffer.length = 16 := rfl
  refine ⟨_, rfl, rfl, ?_⟩
  rw [← sized]
  apply write_unencodable (MemoryLine.link .blocking) isByte rfl rfl rfl
  · decide
  · decide +kernel

end Bus

end ActuatorBus
