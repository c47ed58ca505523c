import ActuatorBus.Proofs.Register.Tables

/-!
# Ways to the registers of a table

A register of a table is reached by its index, from either end, by its name
and by its address; a table also tells whether a name or a register is one of
its own. All these ways agree where names and addresses tell the registers
apart, which they do in every table that was built.
-/

namespace ActuatorBus

namespace Registry

variable {registry : Registry} {places : List Nat}
  {registers : List Register}

/-- Registers at places that differ have different parts if the parts of all
registers do. -/
theorem place_unique {α : Type} {part : Register → α}
    (shown : List.Forall₂ registry.Holds places registers)
    (distinct : (registers.map part).Nodup) {one two : Nat}
    {first second : Register} (oneMember : one ∈ places)
    (twoMember : two ∈ places) (oneHolds : registry.Holds one first)
    (twoHolds : registry.Holds two second) (equal : part first = part second) :
    one = two := by
  -- Two such places would make a part occur twice in the list of the parts.
  have mapped :
      (places.map fun place => (registry.registers[place]?).map part) =
        (registers.map part).map some := by
    clear oneMember twoMember distinct
    induction shown with
    | nil => rfl
    | cons holds _ restMapped =>
        rw [Holds] at holds
        rw [List.map_cons, holds, restMapped]
        rfl
  have nodup := distinct.map fun _ _ => Option.some.inj
  rw [← mapped] at nodup
  apply List.inj_on_of_nodup_map nodup oneMember twoMember
  rw [oneHolds, twoHolds, Option.map_some, Option.map_some, equal]

end Registry

namespace RegisterTable

open Registry

variable {table : RegisterTable} {registry : Registry} {place : Nat}
  {register : Register} {registers : List Register}

/-! ## Finding -/

theorem findPlace?_eq_some {property : Register → Bool}
    (member : place ∈ table.members) (holds : registry.Holds place register)
    (fits : property register = true)
    (only : ∀ other ∈ table.members, ∀ second, registry.Holds other second →
      property second = true → other = place) :
    table.findPlace? registry property = some place := by
  have fitsThere : (registry.registers[place]?).any property = true := by
    rw [holds]
    exact fits
  cases found : table.findPlace? registry property with
  | none =>
      rw [findPlace?, List.find?_eq_none] at found
      exact absurd fitsThere (found place member)
  | some other =>
      have otherFits := List.find?_some found
      have otherMember := List.mem_of_find?_eq_some found
      rw [Option.any_eq_true_iff_get] at otherFits
      obtain ⟨isSome, fitsOther⟩ := otherFits
      rw [only other otherMember _ (Option.some_get isSome).symm fitsOther]

theorem findPlace?_eq_none {property : Register → Bool}
    (none : ∀ other ∈ table.members, ∀ second, registry.Holds other second →
      property second = false) :
    table.findPlace? registry property = .none := by
  rw [findPlace?, List.find?_eq_none]
  intro other member fits
  rw [Option.any_eq_true_iff_get] at fits
  obtain ⟨isSome, fitsOther⟩ := fits
  rw [none other member _ (Option.some_get isSome).symm] at fitsOther
  cases fitsOther

theorem findPlace?_mem {property : Register → Bool}
    (found : table.findPlace? registry property = some place) :
    place ∈ table.members :=
  List.mem_of_find?_eq_some found

/-! ## Indices -/

theorem itemAt_front {α : Type} {items : List α} {index : Nat} {item : α}
    (found : items[index]? = some item) :
    itemAt items index = .ok item := by
  have isFront : ¬ (index : Int) < 0 := by omega
  simp only [itemAt, if_neg isFront, Int.toNat_natCast, found]

theorem itemAt_back {α : Type} {items : List α} {index : Nat} {item : α}
    (found : items[index]? = some item) :
    itemAt items (index - items.length) = .ok item := by
  have inside : index < items.length := (List.getElem?_eq_some_iff.1 found).1
  have isBack : (index : Int) - items.length < 0 := by omega
  have position : (index : Int) - items.length + items.length = index := by
    omega
  have isFront : ¬ (index : Int) < 0 := by omega
  simp only [itemAt, if_pos isBack, position, if_neg isFront,
    Int.toNat_natCast, found]

theorem itemAt_outside {α : Type} {items : List α} {index : Int}
    (outside : index < -items.length ∨ items.length ≤ index) :
    itemAt items index = .error .indexOutOfRange := by
  unfold itemAt
  rcases outside with before | behind
  · have isBack : index < 0 := by omega
    have isBefore : index + items.length < 0 := by omega
    simp only [if_pos isBack, if_pos isBefore]
  · have isFront : ¬ index < 0 := by omega
    have notThere : items[index.toNat]? = none :=
      List.getElem?_eq_none (by omega)
    simp only [if_neg isFront, notThere]

/-! ## All ways -/

/-- Everything that leads to the register at an index. -/
structure Reaches (table : RegisterTable) (registry : Registry)
    (index place : Nat) (register : Register) : Prop where
  holds : registry.Holds place register
  byIndex : table.lookup registry (.index index) = .ok place
  fromEnd :
    table.lookup registry (.index (index - table.members.length)) = .ok place
  byName : table.lookup registry (.ofValue register.name) = .ok place
  byAddress : table.withAddress registry register.address = .ok place
  hasName : table.hasKey registry (.ofValue register.name) = true
  hasRegister : table.hasPlace registry place = .ok true
  named : (table.names registry)[index]? = some register.name

/-- What is no register of a table is found in no way. -/
structure Excludes (table : RegisterTable) (registry : Registry) :
    Prop where
  names : ∀ name, .words name ∉ table.names registry →
    table.lookup registry (.name name) = .error .missingKey ∧
      table.hasKey registry (.name name) = false
  addresses : ∀ (value : Value) (n : Value.Whole), value.whole? = some n →
    (∀ register ∈ table.registers registry,
      register.offset? ≠ some n.toInt) →
    table.withAddress registry value = .error (.unknownAddress value)
  indices : ∀ index : Int,
    index < -table.members.length ∨ table.members.length ≤ index →
    table.lookup registry (.index index) = .error .indexOutOfRange
  places : ∀ place ∉ table.members, ∀ register,
    registry.Holds place register → register.name.checkKey = .ok () →
    table.hasPlace registry place = .ok false

/-- The registers of a table are where it says, and have names and addresses
that tell them apart. -/
structure Distinct (table : RegisterTable) (registry : Registry)
    (registers : List Register) : Prop where
  shown : List.Forall₂ registry.Holds table.members registers
  named : ∀ register ∈ registers, ∃ name, register.name = .words name
  located : ∀ register ∈ registers, register.offset?.isSome
  names : (registers.map Register.name).Nodup
  offsets : (registers.map Register.offset?).Nodup

theorem registers_eq
    (shown : List.Forall₂ registry.Holds table.members registers) :
    table.registers registry = registers := by
  unfold RegisterTable.registers
  generalize table.members = places at shown
  induction shown with
  | nil => rfl
  | cons holds _ restEq => rw [List.filterMap_cons_some holds, restEq]

theorem withName?_eq (distinct : table.Distinct registry registers)
    (member : place ∈ table.members) (holds : registry.Holds place register)
    (among : register ∈ registers) :
    table.withName? registry register.name = some place := by
  obtain ⟨name, nameEq⟩ := distinct.named register among
  apply findPlace?_eq_some member holds
  · rw [nameEq, Value.same_words, beq_self_eq_true]
  · intro other otherMember second otherHolds sameName
    obtain ⟨held, heldAmong, heldThere⟩ :=
      exists_holds distinct.shown otherMember
    rw [heldThere.unique otherHolds] at heldAmong
    obtain ⟨otherName, otherNameEq⟩ := distinct.named second heldAmong
    rw [nameEq, otherNameEq, Value.same_words, beq_iff_eq] at sameName
    apply place_unique distinct.shown distinct.names otherMember member
      otherHolds holds
    rw [nameEq, otherNameEq, sameName]

theorem withAddress_eq (distinct : table.Distinct registry registers)
    (member : place ∈ table.members) (holds : registry.Holds place register)
    (among : register ∈ registers) :
    table.withAddress registry register.address = .ok place := by
  obtain ⟨n, offsetEq⟩ :=
    Option.isSome_iff_exists.1 (distinct.located register among)
  have found : (table.findPlace? registry fun other =>
      other.address.same register.address) = some place := by
    apply findPlace?_eq_some member holds
    · rw [Register.same_address offsetEq offsetEq, beq_self_eq_true]
    · intro other otherMember second otherHolds sameAddress
      obtain ⟨held, heldAmong, heldThere⟩ :=
        exists_holds distinct.shown otherMember
      rw [heldThere.unique otherHolds] at heldAmong
      obtain ⟨m, otherOffsetEq⟩ :=
        Option.isSome_iff_exists.1 (distinct.located second heldAmong)
      rw [Register.same_address otherOffsetEq offsetEq, beq_iff_eq]
        at sameAddress
      apply place_unique distinct.shown distinct.offsets otherMember member
        otherHolds holds
      rw [offsetEq, otherOffsetEq, sameAddress]
  rw [withAddress, found]

theorem Distinct.reaches (distinct : table.Distinct registry registers)
    {index : Nat}
    (isAt : table.members[index]? = some place)
    (listed : registers[index]? = some register) :
    table.Reaches registry index place register := by
  have member : place ∈ table.members := List.mem_of_getElem? isAt
  have among : register ∈ registers := List.mem_of_getElem? listed
  have holds : registry.Holds place register := by
    obtain ⟨inside, placeEq⟩ := List.getElem?_eq_some_iff.1 isAt
    obtain ⟨insideToo, registerEq⟩ := List.getElem?_eq_some_iff.1 listed
    rw [← placeEq, ← registerEq]
    exact distinct.shown.get inside insideToo
  have withName := withName?_eq distinct member holds among
  obtain ⟨name, nameEq⟩ := distinct.named register among
  have withWords : table.withName? registry (.words name) = some place := by
    rw [← nameEq, withName]
  constructor
  · exact holds
  · exact itemAt_front isAt
  · exact itemAt_back isAt
  · rw [nameEq, Key.ofValue, lookup, withWords]
  · exact withAddress_eq distinct member holds among
  · rw [nameEq, Key.ofValue, hasKey, withWords, Option.isSome_some]
  · have keyed : register.name.checkKey = .ok () := by
      rw [nameEq]
      rfl
    rw [hasPlace, holds]
    simp [keyed, withName]
  · rw [RegisterTable.names, registers_eq distinct.shown,
      List.getElem?_map, listed, Option.map_some]

theorem Distinct.excludes (distinct : table.Distinct registry registers) :
    table.Excludes registry := by
  have listed := registers_eq distinct.shown
  have amongOf : ∀ other ∈ table.members, ∀ second,
      registry.Holds other second → second ∈ registers := by
    intro other member second holds
    obtain ⟨held, among, heldThere⟩ := exists_holds distinct.shown member
    rwa [heldThere.unique holds] at among
  constructor
  · intro name absent
    have notFound : table.withName? registry (.words name) = none := by
      apply findPlace?_eq_none
      intro other member second holds
      have among := amongOf other member second holds
      obtain ⟨otherName, nameEq⟩ := distinct.named second among
      rw [nameEq, Value.same_words, beq_eq_false_iff_ne]
      rintro rfl
      apply absent
      rw [RegisterTable.names, listed, ← nameEq]
      exact List.mem_map_of_mem among
    rw [lookup, hasKey, notFound]
    exact ⟨rfl, rfl⟩
  · intro value n whole absent
    have notFound : (table.findPlace? registry fun register =>
        register.address.same value) = none := by
      apply findPlace?_eq_none
      intro other member second holds
      have among := amongOf other member second holds
      obtain ⟨m, offsetEq⟩ :=
        Option.isSome_iff_exists.1 (distinct.located second among)
      obtain ⟨own, isOwn, rfl⟩ := Register.whole_of_offset offsetEq
      rw [Value.same_of_whole isOwn whole, beq_eq_false_iff_ne]
      intro equal
      rw [listed] at absent
      exact absent second among (equal ▸ offsetEq)
    rw [withAddress, notFound]
  · intro index outside
    exact itemAt_outside outside
  · intro place notMember register holds keyed
    rw [hasPlace, holds]
    have elsewhere : table.withName? registry register.name ≠ some place :=
      fun found => notMember (findPlace?_mem found)
    simp [keyed, elsewhere]

end RegisterTable

namespace Registry

variable {registry : Registry} {places : List Nat}
  {registers : List Register} {space : AddressSpace}

/-- A table of a space and its registers, each of which is in the space and is
reached in every way. -/
structure Accessible (after : Registry) (table : RegisterTable)
    (space : AddressSpace) (registers : List Register) : Prop where
  listed : table.registers after = registers
  spaced : ∀ register ∈ registers, register.space = some space
  reached : ∀ index place register, table.members[index]? = some place →
    registers[index]? = some register →
    table.Reaches after index place register
  excluded : table.Excludes after

theorem accessible_of_consistent {after : Registry}
    (plain : ∀ register ∈ registers, register.Plain)
    (consistent : Consistent space registers)
    (shown : List.Forall₂ after.Holds places
      ((addressed registers).map (inSpace (some space)))) :
    Accessible after ⟨some space, places⟩ space
      ((addressed registers).map (inSpace (some space))) := by
  have namesEq : ((addressed registers).map (inSpace (some space))).map
      Register.name = registers.map Register.name := by
    rw [List.map_map]
    exact map_addressed Register.name (fun _ _ => rfl) registers
  have offsetsEq : ((addressed registers).map (inSpace (some space))).map
      Register.offset? = (offsets registers).map some := by
    rw [List.map_map, ← map_offset_addressed plain consistent.uniform]
    rfl
  have distinct : RegisterTable.Distinct ⟨some space, places⟩ after
      ((addressed registers).map (inSpace (some space))) := by
    constructor
    · exact shown
    · intro register among
      have nameAmong := List.mem_map_of_mem (f := Register.name) among
      rw [namesEq, List.mem_map] at nameAmong
      obtain ⟨given, givenAmong, nameEq⟩ := nameAmong
      rw [← nameEq]
      exact (plain given givenAmong).named
    · intro register among
      have offsetAmong := List.mem_map_of_mem (f := Register.offset?) among
      rw [offsetsEq, List.mem_map] at offsetAmong
      obtain ⟨n, _, offsetEq⟩ := offsetAmong
      rw [← offsetEq]
      rfl
    · rw [namesEq]
      exact consistent.names
    · rw [offsetsEq]
      exact consistent.offsets.map fun _ _ => Option.some.inj
  constructor
  · exact RegisterTable.registers_eq shown
  · intro register among
    obtain ⟨given, _, rfl⟩ := List.mem_map.1 among
    rfl
  · intro index place register isAt listed
    exact distinct.reaches isAt listed
  · exact distinct.excludes

theorem accessible_of_built (distinct : places.Nodup)
    (shown : List.Forall₂ registry.Holds places registers)
    (plain : ∀ register ∈ registers, register.Plain) {table : RegisterTable}
    (built : ((buildTable (some space) places).run registry).result =
      .ok table) :
    Consistent space registers ∧ table = ⟨some space, places⟩ ∧
      Accessible ((buildTable (some space) places).run registry).state table
        space ((addressed registers).map (inSpace (some space))) := by
  by_cases buildable : Buildable (some space) registers
  · have consistent := (buildable_iff_consistent plain).1 buildable
    obtain ⟨final, run, rewritten⟩ :=
      buildTable_of_buildable distinct shown buildable
    rw [run] at built ⊢
    cases built
    exact ⟨consistent, rfl,
      accessible_of_consistent plain consistent rewritten.holds⟩
  · obtain ⟨fault, left, run⟩ :=
      buildTable_of_not_buildable distinct shown buildable
    rw [run] at built
    cases built

/-- A table is built exactly of consistent registers, and then all ways to its
registers agree. -/
theorem buildTable_iff_consistent (distinct : places.Nodup)
    (shown : List.Forall₂ registry.Holds places registers)
    (plain : ∀ register ∈ registers, register.Plain) :
    let outcome := (buildTable (some space) places).run registry
    ((∃ table, outcome.result = .ok table) ↔ Consistent space registers) ∧
      ∀ table, outcome.result = .ok table →
        table = ⟨some space, places⟩ ∧
          Accessible outcome.state table space
            ((addressed registers).map (inSpace (some space))) := by
  intro outcome
  constructor
  · constructor
    · rintro ⟨table, built⟩
      exact (accessible_of_built distinct shown plain built).1
    · intro consistent
      obtain ⟨final, run, _⟩ := buildTable_of_buildable distinct shown
        ((buildable_iff_consistent plain).2 consistent)
      exact ⟨_, congrArg Outcome.result run⟩
  · intro table built
    exact (accessible_of_built distinct shown plain built).2

theorem buildTable_two_unplaced :
    let gain := unplaced "gain" none
    let limit := unplaced "limit" (some .config)
    let registry : Registry := ⟨[gain, limit]⟩
    let outcome := (buildTable (some .config) [1, 0]).run registry
    outcome.result = .ok ⟨some .config, [1, 0]⟩ ∧
      Consistent .config [limit, gain] ∧
      Accessible outcome.state ⟨some .config, [1, 0]⟩ .config
        ((addressed [limit, gain]).map (inSpace (some .config))) := by
  intro gain limit registry outcome
  have plain : ∀ register ∈ [limit, gain], register.Plain := by
    intro register member
    have isUnplaced : ∃ name space, register = unplaced name space := by
      rcases List.mem_pair.1 member with rfl | rfl
      · exact ⟨_, _, rfl⟩
      · exact ⟨_, _, rfl⟩
    obtain ⟨name, space, rfl⟩ := isUnplaced
    exact ⟨⟨name, rfl⟩, Or.inl rfl⟩
  have shown : List.Forall₂ registry.Holds [1, 0] [limit, gain] :=
    .cons rfl (.cons rfl .nil)
  have built : outcome.result = .ok ⟨some .config, [1, 0]⟩ := by
    decide
  have distinct : [1, 0].Nodup := by decide
  obtain ⟨consistent, accessible⟩ :=
    buildTable_iff_consistent distinct shown plain
  exact ⟨built, consistent.1 ⟨_, built⟩, (accessible _ built).2⟩

end Registry

end ActuatorBus
