import ActuatorBus.Proofs.Packet.Writing
import ActuatorBus.Proofs.Register.Building
import Mathlib.Data.List.Nodup

/-!
# Consistent tables

Which registers a table takes, told without building one: their names and
their addresses tell them apart, the addresses are bytes, and none of them
belongs to another space. All ways to a register of such a table lead to the
same place, and what is no register of the table is found in none of them.
-/

namespace ActuatorBus

namespace Value

theorem same_words (first second : String) :
    (words first).same (words second) = (first == second) := by
  rw [same]

theorem number?_of_whole {value : Value} {n : Whole}
    (whole : value.whole? = some n) :
    value.number? = some (.integer n.toInt) := by
  cases value with
  | number value =>
      cases value with
      | integer m =>
          cases whole
          rfl
      | real x => cases whole
  | flag value =>
      cases whole
      cases value <;> rfl
  | words text => cases whole
  | failure error => cases whole
  | nothing => cases whole
  | several items => cases whole
  | record keys items => cases whole

theorem same_of_whole {first second : Value} {m n : Whole}
    (whole : first.whole? = some m) (other : second.whole? = some n) :
    first.same second = (m.toInt == n.toInt) := by
  have counts := number?_of_whole other
  cases first with
  | number value =>
      cases value with
      | integer k =>
          cases whole
          simp [same, counts, Number.same, Whole.toInt]
      | real x => cases whole
  | flag value =>
      cases whole
      cases value <;> simp [same, counts, Number.same, Whole.toInt]
  | words text => cases whole
  | failure error => cases whole
  | nothing => cases whole
  | several items => cases whole
  | record keys items => cases whole

end Value

namespace Register

/-- The address of a register as an integer, if it is one. -/
def offset? (register : Register) : Option Int :=
  register.address.whole?.map Value.Whole.toInt

/-- A register as it is declared: its name is a text, and its address is an
integer if it has one. -/
structure Plain (register : Register) : Prop where
  named : ∃ name, register.name = .words name
  located : register.address = .nothing ∨ register.offset?.isSome

variable {register other : Register} {n m : Int}

theorem whole_of_offset (located : register.offset? = some n) :
    ∃ whole, register.address.whole? = some whole ∧ whole.toInt = n := by
  rw [offset?, Option.map_eq_some_iff] at located
  exact located

theorem needNumber_of_offset (located : register.offset? = some n) :
    register.address.needNumber = .ok (.integer n) := by
  obtain ⟨whole, isWhole, rfl⟩ := whole_of_offset located
  rw [Value.needNumber, Value.number?_of_whole isWhole]

theorem same_address (located : register.offset? = some n)
    (otherLocated : other.offset? = some m) :
    register.address.same other.address = (n == m) := by
  obtain ⟨whole, isWhole, rfl⟩ := whole_of_offset located
  obtain ⟨second, isSecond, rfl⟩ := whole_of_offset otherLocated
  exact Value.same_of_whole isWhole isSecond

end Register

namespace Registry

/-- The addresses of registers in a table: their own ones, or the numbers from
zero on if there are none. -/
def offsets (registers : List Register) : List Int :=
  if ∀ register ∈ registers, register.address = .nothing then
    (List.range registers.length).map Int.ofNat
  else registers.filterMap Register.offset?

/-- Registers that make up a table of a space. -/
structure Consistent (space : AddressSpace) (registers : List Register) :
    Prop where
  nonempty : registers ≠ []
  uniform : (∀ register ∈ registers, register.address = .nothing) ∨
    ∀ register ∈ registers, register.address ≠ .nothing
  placeable : ∀ register ∈ registers,
    register.space = none ∨ register.space = some space
  names : (registers.map Register.name).Nodup
  offsets : (offsets registers).Nodup
  bytes : ∀ n ∈ Registry.offsets registers, 0 ≤ n ∧ n ≤ 255

/-! ## The registers with their addresses -/

theorem map_offset_numberedFrom (registers : List Register) :
    ∀ next, (numberedFrom next registers).map Register.offset? =
      (List.range' next registers.length).map fun n : Nat =>
        some (n : Int) := by
  induction registers with
  | nil => exact fun _ => rfl
  | cons register rest restNumbered =>
      intro next
      rw [numberedFrom, List.map_cons, restNumbered, List.length_cons,
        List.range'_succ, List.map_cons]
      rfl

theorem map_numberedFrom {α : Type} (part : Register → α)
    (unaddressed : ∀ (register : Register) address,
      part { register with address := address } = part register)
    (registers : List Register) :
    ∀ next, (numberedFrom next registers).map part = registers.map part := by
  induction registers with
  | nil => exact fun _ => rfl
  | cons register rest restNumbered =>
      intro next
      rw [numberedFrom, List.map_cons, List.map_cons, unaddressed,
        restNumbered]

theorem map_addressed {α : Type} (part : Register → α)
    (unaddressed : ∀ (register : Register) address,
      part { register with address := address } = part register)
    (registers : List Register) :
    (addressed registers).map part = registers.map part := by
  unfold addressed
  split
  · exact map_numberedFrom part unaddressed registers 0
  · rfl

theorem map_filterMap_offset {registers : List Register}
    (plain : ∀ register ∈ registers, register.Plain)
    (all : ∀ register ∈ registers, register.address ≠ .nothing) :
    (registers.filterMap Register.offset?).map some =
      registers.map Register.offset? := by
  induction registers with
  | nil => rfl
  | cons register rest restEq =>
      obtain ⟨plainFirst, plainRest⟩ := List.forall_mem_cons.1 plain
      obtain ⟨hasAddress, allRest⟩ := List.forall_mem_cons.1 all
      have located := plainFirst.located.resolve_left hasAddress
      obtain ⟨n, offsetEq⟩ := Option.isSome_iff_exists.1 located
      rw [List.filterMap_cons_some offsetEq, List.map_cons, List.map_cons,
        offsetEq, restEq plainRest allRest]

theorem map_offset_addressed {registers : List Register}
    (plain : ∀ register ∈ registers, register.Plain)
    (uniform : (∀ register ∈ registers, register.address = .nothing) ∨
      ∀ register ∈ registers, register.address ≠ .nothing) :
    (addressed registers).map Register.offset? =
      (offsets registers).map some := by
  unfold addressed offsets
  split
  next none =>
    rw [map_offset_numberedFrom, List.range_eq_range', List.map_map]
    rfl
  next some =>
    rw [map_filterMap_offset plain (uniform.resolve_left some)]

/-! ## Consistent registers -/

theorem apart_iff {earlier later : Register}
    (named : ∃ name, earlier.name = .words name)
    (laterNamed : ∃ name, later.name = .words name)
    (located : earlier.offset?.isSome) (laterLocated : later.offset?.isSome) :
    Apart earlier later ↔
      earlier.name ≠ later.name ∧ earlier.offset? ≠ later.offset? := by
  obtain ⟨name, nameEq⟩ := named
  obtain ⟨laterName, laterNameEq⟩ := laterNamed
  obtain ⟨n, offsetEq⟩ := Option.isSome_iff_exists.1 located
  obtain ⟨m, laterOffsetEq⟩ := Option.isSome_iff_exists.1 laterLocated
  have sameName :
      earlier.name.same later.name = (name == laterName) := by
    rw [nameEq, laterNameEq, Value.same_words]
  have sameAddress := Register.same_address offsetEq laterOffsetEq
  constructor
  · rintro ⟨names, addresses⟩
    rw [sameName, beq_eq_false_iff_ne] at names
    rw [sameAddress, beq_eq_false_iff_ne] at addresses
    rw [nameEq, laterNameEq, offsetEq, laterOffsetEq]
    simp [names, addresses]
  · rintro ⟨names, addresses⟩
    rw [nameEq, laterNameEq] at names
    rw [offsetEq, laterOffsetEq] at addresses
    constructor
    · rw [sameName, beq_eq_false_iff_ne]
      exact fun equal => names (congrArg Value.words equal)
    · rw [sameAddress, beq_eq_false_iff_ne]
      exact fun equal => addresses (congrArg some equal)

/-- Registers with addresses can be taken into an empty table if they are of
no other space, have names and addresses of their own, and the addresses are
bytes. -/
theorem enrollable_iff {space : Option AddressSpace}
    {registers : List Register} {numbers : List Int}
    (named : ∀ register ∈ registers, ∃ name, register.name = .words name)
    (located : registers.map Register.offset? = numbers.map some) :
    Enrollable space [] registers ↔
      (∀ register ∈ registers, Placeable space register) ∧
        (registers.map Register.name).Nodup ∧ numbers.Nodup ∧
        ∀ n ∈ numbers, 0 ≤ n ∧ n ≤ 255 := by
  have offsetOf : ∀ register ∈ registers, ∃ n ∈ numbers,
      register.offset? = some n := by
    intro register member
    have listed := List.mem_map_of_mem (f := Register.offset?) member
    rw [located, List.mem_map] at listed
    obtain ⟨n, among, equal⟩ := listed
    exact ⟨n, among, equal.symm⟩
  have registerOf : ∀ n ∈ numbers, ∃ register ∈ registers,
      register.offset? = some n := by
    intro n among
    have listed := List.mem_map_of_mem (f := some) among
    rw [← located, List.mem_map] at listed
    exact listed
  have hasOffset : ∀ register ∈ registers, register.offset?.isSome := by
    intro register member
    obtain ⟨n, _, offsetEq⟩ := offsetOf register member
    exact Option.isSome_of_eq_some offsetEq
  -- `Apart` compares names and addresses of pairs, `Nodup` those of the lists.
  have pairwise : registers.Pairwise Apart ↔
      (registers.map Register.name).Nodup ∧ numbers.Nodup := by
    have numbersNodup : numbers.Nodup ↔
        (registers.map Register.offset?).Nodup := by
      rw [located, List.nodup_map_iff fun _ _ => Option.some.inj]
    rw [numbersNodup, List.Nodup, List.Nodup, List.pairwise_map,
      List.pairwise_map, ← List.pairwise_and_iff]
    apply List.Pairwise.iff_of_mem
    intro earlier later member laterMember
    exact apart_iff (named _ member) (named _ laterMember)
      (hasOffset _ member) (hasOffset _ laterMember)
  constructor
  · rintro ⟨placeable, fits, _, _, apart⟩
    obtain ⟨names, distinct⟩ := pairwise.1 apart
    refine ⟨placeable, names, distinct, ?_⟩
    intro n among
    obtain ⟨register, member, offsetEq⟩ := registerOf n among
    obtain ⟨value, isNumber, within⟩ := fits register member
    rw [Register.needNumber_of_offset offsetEq] at isNumber
    cases isNumber
    simpa [Number.isWithin] using within
  · rintro ⟨placeable, names, distinct, bytes⟩
    constructor
    · exact placeable
    · intro register member
      obtain ⟨n, among, offsetEq⟩ := offsetOf register member
      refine ⟨_, Register.needNumber_of_offset offsetEq, ?_⟩
      simpa [Number.isWithin] using bytes n among
    · intro register member
      obtain ⟨name, nameEq⟩ := named register member
      rw [nameEq]
      rfl
    · intro earlier none
      cases none
    · exact pairwise.2 ⟨names, distinct⟩

variable {space : AddressSpace} {registers : List Register}

theorem forall_addressed {α : Type} (part : Register → α)
    (unaddressed : ∀ (register : Register) address,
      part { register with address := address } = part register)
    (property : α → Prop) (registers : List Register) :
    (∀ register ∈ addressed registers, property (part register)) ↔
      ∀ register ∈ registers, property (part register) := by
  have viaParts : ∀ registers : List Register,
      (∀ register ∈ registers, property (part register)) ↔
        ∀ value ∈ registers.map part, property value := by
    intro registers
    rw [List.forall_mem_map]
  rw [viaParts, viaParts, map_addressed part unaddressed]

theorem buildable_iff_consistent
    (plain : ∀ register ∈ registers, register.Plain) :
    Buildable (some space) registers ↔ Consistent space registers := by
  have named : ∀ register ∈ addressed registers,
      ∃ name, register.name = .words name := by
    rw [forall_addressed Register.name (fun _ _ => rfl)
      (fun value => ∃ name, value = .words name)]
    exact fun register member => (plain register member).named
  have spaces : (∀ register ∈ addressed registers,
        Placeable (some space) register) ↔
      ∀ register ∈ registers,
        register.space = none ∨ register.space = some space :=
    forall_addressed Register.space (fun _ _ => rfl)
      (fun own => own = none ∨ own = some space) registers
  have names := map_addressed Register.name (fun _ _ => rfl) registers
  constructor
  · rintro ⟨nonempty, uniform, enrollable⟩
    have located := map_offset_addressed plain uniform
    rw [enrollable_iff named located, spaces, names] at enrollable
    obtain ⟨placeable, distinctNames, distinct, bytes⟩ := enrollable
    exact ⟨nonempty, uniform, placeable, distinctNames, distinct, bytes⟩
  · rintro ⟨nonempty, uniform, placeable, distinctNames, distinct, bytes⟩
    have located := map_offset_addressed plain uniform
    refine ⟨nonempty, uniform, ?_⟩
    rw [enrollable_iff named located, spaces, names]
    exact ⟨placeable, distinctNames, distinct, bytes⟩

theorem Consistent.isByte (plain : ∀ register ∈ registers, register.Plain)
    (consistent : Consistent space registers) {register : Register}
    (among : register ∈ addressed registers) : register.address.IsByte := by
  have listed := List.mem_map_of_mem (f := Register.offset?) among
  rw [map_offset_addressed plain consistent.uniform, List.mem_map] at listed
  obtain ⟨n, amongOffsets, offsetEq⟩ := listed
  obtain ⟨whole, isWhole, rfl⟩ := Register.whole_of_offset offsetEq.symm
  exact ⟨whole, isWhole, consistent.bytes _ amongOffsets⟩

end Registry

end ActuatorBus
