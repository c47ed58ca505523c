import ActuatorBus.Proofs.Packet.Writing
import ActuatorBus.Register.Map

/-!
# Registers of the map

A slot is a register that every motor has. Its name and its address lead back
to it, and it holds an integer or a fraction of four bytes.
-/

namespace ActuatorBus

/-- A register of the map. -/
structure Slot where
  space : AddressSpace
  register : Register
  mapped : register ∈ RegisterMap.registers space

namespace Slot

theorem space_eq (slot : Slot) : slot.register.space = some slot.space := by
  obtain ⟨space, register, mapped⟩ := slot
  have all : ∀ space, ∀ register ∈ RegisterMap.registers space,
      register.space = some space := by
    intro space
    cases space <;> decide
  exact all space register mapped

theorem format_eq (slot : Slot) :
    slot.register.format = .unsigned .four ∨
      slot.register.format = .real .single := by
  obtain ⟨space, register, mapped⟩ := slot
  have all : ∀ space, ∀ register ∈ RegisterMap.registers space,
      register.format = .unsigned .four ∨
        register.format = .real .single := by
    intro space
    cases space <;> decide
  exact all space register mapped

theorem width_eq (slot : Slot) : slot.register.width = 4 := by
  rcases slot.format_eq with integer | fraction
  · rw [Register.width, integer]
    rfl
  · rw [Register.width, fraction]
    rfl

/-- The address of a slot is a byte. -/
theorem exists_address (slot : Slot) :
    ∃ address : UInt8, slot.register.address = .integer address.toNat := by
  obtain ⟨space, register, mapped⟩ := slot
  have all : ∀ space, ∀ register ∈ RegisterMap.registers space,
      ∃ n : Fin 256, register.address = .integer n := by
    intro space
    cases space <;> decide +kernel
  obtain ⟨n, addressEq⟩ := all space register mapped
  refine ⟨UInt8.ofNat n, ?_⟩
  have bound := n.isLt
  rw [addressEq, UInt8.toNat_ofNat', Nat.mod_eq_of_lt bound]

/-- The address byte of a slot. -/
def address (slot : Slot) : UInt8 :=
  match slot.register.address.needByte with
  | .ok address => address
  | .error _ => 0

theorem needByte_address (slot : Slot) :
    slot.register.address.needByte = .ok slot.address := by
  obtain ⟨address, addressEq⟩ := slot.exists_address
  simp [Slot.address, addressEq]

theorem address_eq (slot : Slot) :
    slot.register.address = .integer slot.address.toNat := by
  obtain ⟨address, addressEq⟩ := slot.exists_address
  have same := slot.needByte_address
  rw [addressEq, Value.needByte_integer, Bytes.needByte_toNat] at same
  rw [addressEq, ← Except.ok.inj same]

theorem withAddress_eq (slot : Slot) :
    RegisterMap.withAddress slot.space slot.address.toNat =
      .ok slot.register := by
  have found := slot.address_eq
  obtain ⟨space, register, mapped⟩ := slot
  have all : ∀ space, ∀ register ∈ RegisterMap.registers space,
      (RegisterMap.registers space).find? (fun other =>
        other.address == register.address) = some register := by
    intro space
    cases space <;> decide +kernel
  have first := all space register mapped
  rw [found] at first
  rw [RegisterMap.withAddress, first]

/-- The name of a slot tells it from the others of its space. -/
theorem register_eq_of_label {first second : Slot}
    (space : first.space = second.space)
    (label : first.register.label = second.register.label) :
    first.register = second.register := by
  obtain ⟨firstSpace, firstRegister, firstMapped⟩ := first
  obtain ⟨secondSpace, secondRegister, secondMapped⟩ := second
  simp only at space label
  subst space
  have all : ∀ space, ∀ register ∈ RegisterMap.registers space,
      RegisterMap.named? space register.label = some register := by
    intro space
    cases space <;> decide +kernel
  have found := all firstSpace firstRegister firstMapped
  rw [label, all firstSpace secondRegister secondMapped] at found
  exact (Option.some.inj found).symm

/-- The register with the mode of a motor. -/
def mode : Slot := ⟨.config, RegisterMap.config[1], by decide⟩

/-! ## Lists of slots -/

/-- The slots of a space, in address order. -/
def all (space : AddressSpace) : List Slot :=
  (RegisterMap.registers space).attach.map fun entry =>
    ⟨space, entry.val, entry.property⟩

theorem map_register_all (space : AddressSpace) :
    (all space).map register = RegisterMap.registers space := by
  rw [all, List.map_map]
  exact List.attach_map_subtype_val _

/-- The slot of a space with the given name. -/
def named? (space : AddressSpace) (name : String) : Option Slot :=
  (all space).find? fun slot => slot.register.name == .words name

/-- The slot with the given name, in either space. -/
def named (name : String) : Except Fault Slot :=
  match (named? .config name).or (named? .status name) with
  | some slot => .ok slot
  | none => .error (.unknownRegister name)

theorem named?_register (space : AddressSpace) (name : String) :
    (named? space name).map register = RegisterMap.named? space name := by
  rw [RegisterMap.named?, ← map_register_all, List.find?_map]
  rfl

theorem named_register (name : String) :
    (named name).map register = RegisterMap.lookup name := by
  rw [named, RegisterMap.lookup, ← named?_register, ← named?_register]
  cases named? .config name with
  | some slot => rfl
  | none => cases named? .status name <;> rfl

end Slot

end ActuatorBus
