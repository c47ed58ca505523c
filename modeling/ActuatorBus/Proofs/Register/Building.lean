import ActuatorBus.Proofs.Runs
import ActuatorBus.Register.Table

/-!
# Building tables

What building a table does to the registers that it is given. Taking one
register either goes on with the register in the space of the table, or stops;
`enroll_taken` says everything that can come of it, and the rest follows from
that by induction on the places.
-/

namespace ActuatorBus

namespace Registry

def Holds (registry : Registry) (place : Nat) (register : Register) : Prop :=
  registry.registers[place]? = some register

def changed (registry : Registry) (place : Nat)
    (change : Register → Register) : Registry :=
  ⟨registry.registers.modify place change⟩

variable {registry : Registry} {place other : Nat}
  {register : Register} {change : Register → Register}

theorem Holds.changed (holds : registry.Holds place register) :
    (registry.changed place change).Holds place (change register) := by
  rw [Holds] at holds
  simp [Holds, Registry.changed, List.getElem?_modify_eq, holds]

theorem getElem?_changed (apart : place ≠ other) :
    (registry.changed place change).registers[other]? =
      registry.registers[other]? :=
  List.getElem?_modify_ne change registry.registers apart

theorem Holds.unique {second : Register}
    (holds : registry.Holds place register)
    (again : registry.Holds place second) : register = second :=
  Option.some.inj (holds.symm.trans again)

theorem holds_changed (apart : place ≠ other) :
    (registry.changed place change).Holds other register ↔
      registry.Holds other register := by
  rw [Holds, Holds, getElem?_changed apart]

/-- Changing a register that is not among the places leaves those as they
are. -/
theorem forall₂_changed {places : List Nat} {registers : List Register}
    (elsewhere : place ∉ places)
    (shown : List.Forall₂ registry.Holds places registers) :
    List.Forall₂ (registry.changed place change).Holds places registers := by
  induction shown with
  | nil => exact .nil
  | cons holds _ restShown =>
      have apart := List.ne_of_not_mem_cons elsewhere
      have notInRest := List.not_mem_of_not_mem_cons elsewhere
      exact .cons ((holds_changed apart).2 holds) (restShown notInRest)

theorem exists_holds {places : List Nat} {registers : List Register}
    (shown : List.Forall₂ registry.Holds places registers)
    (member : place ∈ places) :
    ∃ register ∈ registers, registry.Holds place register := by
  induction shown with
  | nil => cases member
  | cons holds _ restHolds =>
      rcases List.mem_cons.1 member with rfl | inRest
      · exact ⟨_, List.mem_cons_self, holds⟩
      · obtain ⟨register, among, heldThere⟩ := restHolds inRest
        exact ⟨register, List.mem_cons_of_mem _ among, heldThere⟩

/-! ## Fetching -/

theorem fetch_run (holds : registry.Holds place register) :
    (fetch place).run registry = ⟨.ok register, registry, []⟩ := by
  rw [Holds] at holds
  simp [fetch, holds]

theorem fetch_run_none (missing : registry.registers[place]? = none) :
    (fetch place).run registry = ⟨.error .indexOutOfRange, registry, []⟩ := by
  simp [fetch, missing]

theorem mapM_fetch_run {places : List Nat} {registers : List Register}
    (shown : List.Forall₂ registry.Holds places registers) :
    (places.mapM fetch).run registry = ⟨.ok registers, registry, []⟩ := by
  induction shown with
  | nil => rfl
  | cons holds _ restRuns =>
      rw [List.mapM_cons]
      simp [fetch_run holds, restRuns]

theorem mapM_fetch_cases (registry : Registry) (places : List Nat) :
    (∃ registers, List.Forall₂ registry.Holds places registers) ∨
      ∃ fault, (places.mapM fetch).run registry =
        ⟨.error fault, registry, []⟩ := by
  induction places with
  | nil => exact Or.inl ⟨[], .nil⟩
  | cons place rest restFetched =>
      cases found : registry.registers[place]? with
      | none =>
          right
          refine ⟨.indexOutOfRange, ?_⟩
          rw [List.mapM_cons, Act.run_bind, fetch_run_none found]
          rfl
      | some register =>
          rcases restFetched with ⟨registers, shown⟩ | ⟨fault, run⟩
          · exact Or.inl ⟨register :: registers, .cons found shown⟩
          · right
            refine ⟨fault, ?_⟩
            rw [List.mapM_cons, Act.run_bind, fetch_run found,
              Outcome.andThen_ok, Act.run_bind, run]
            rfl

/-! ## Places whose registers were changed -/

/-- Places whose registers are `registers` now, while all others are as they
were. -/
structure Rewritten (before after : Registry) (places : List Nat)
    (registers : List Register) : Prop where
  holds : List.Forall₂ after.Holds places registers
  elsewhere : ∀ other ∉ places,
    after.registers[other]? = before.registers[other]?

/-- Places are rewritten one after the other. The others are rewritten later
than the first, but do not include it. -/
theorem Rewritten.cons {rest : List Nat} {others : List Register}
    {final : Registry} (holds : registry.Holds place register)
    (elsewhere : place ∉ rest)
    (rewritten : Rewritten (registry.changed place change) final rest
      others) :
    Rewritten registry final (place :: rest) (change register :: others) := by
  constructor
  · refine .cons ?_ rewritten.holds
    rw [Holds, rewritten.elsewhere place elsewhere]
    exact Holds.changed holds
  · intro other notAmong
    have apart := List.ne_of_not_mem_cons notAmong
    have notInRest := List.not_mem_of_not_mem_cons notAmong
    rw [rewritten.elsewhere other notInRest,
      getElem?_changed (Ne.symm apart)]

/-! ## Numbering -/

def numberedFrom : (next : Nat) → List Register → List Register
  | _, [] => []
  | next, register :: rest =>
    { register with address := .integer next } :: numberedFrom (next + 1) rest

theorem number_run {places : List Nat} (distinct : places.Nodup) :
    ∀ (next : Nat) {registry : Registry} {registers : List Register},
      List.Forall₂ registry.Holds places registers →
      ∃ final, (number next places).run registry = ⟨.ok (), final, []⟩ ∧
        Rewritten registry final places (numberedFrom next registers) := by
  induction places with
  | nil =>
      intro next registry registers shown
      cases shown
      exact ⟨registry, rfl, .nil, fun _ _ => rfl⟩
  | cons place rest restRuns =>
      intro next registry registers shown
      obtain ⟨elsewhere, distinct⟩ := List.nodup_cons.1 distinct
      cases shown with
      | cons holds shown =>
          let change := fun register : Register =>
            { register with address := .integer next }
          have moved :
              List.Forall₂ (registry.changed place change).Holds rest _ :=
            forall₂_changed elsewhere shown
          obtain ⟨final, run, rewritten⟩ := restRuns distinct (next + 1) moved
          refine ⟨final, ?_, rewritten.cons holds elsewhere⟩
          rw [number, Act.run_bind]
          exact run

/-! ## Taking registers into a table -/

/-- A register can be put into a space: it has none yet, or this one. -/
def Placeable (space : Option AddressSpace) (register : Register) : Prop :=
  register.space = none ∨ register.space = space

/-- Two registers that one table can have, in this order. -/
structure Apart (earlier later : Register) : Prop where
  names : earlier.name.same later.name = false
  addresses : earlier.address.same later.address = false

/-- A register that can follow those that were taken already. -/
structure Admissible (taken : List Register) (register : Register) :
    Prop where
  located : ∃ n, register.address.needNumber = .ok n ∧
    n.isWithin 0 255 = true
  keyed : register.name.checkKey = .ok ()
  apart : ∀ other ∈ taken, Apart other register

def inSpace (space : Option AddressSpace) (register : Register) : Register :=
  { register with space := space }

/-- The checks of a register that is in the space of the table, and what
follows them. -/
def accept (space : Option AddressSpace) (taken : List Register)
    (register : Register) (rest : List Nat) : Act Registry Unit := do
  Act.require ((← Act.ofExcept register.address.needNumber).isWithin 0 255)
    (.addressTooLarge register.label register.address)
  Act.ofExcept register.name.checkKey
  Act.require (taken.all fun other => !other.name.same register.name)
    (.duplicateName register.label)
  Act.require (taken.all fun other => !other.address.same register.address)
    (.duplicateAddress register.address)
  enroll space (register :: taken) rest

theorem accept_of_admissible {space : Option AddressSpace}
    {taken : List Register} (admissible : Admissible taken register)
    (rest : List Nat) :
    (accept space taken register rest).run registry =
      (enroll space (register :: taken) rest).run registry := by
  obtain ⟨⟨n, isNumber, within⟩, keyed, apart⟩ := admissible
  have named :
      (taken.all fun other => !other.name.same register.name) = true := by
    rw [List.all_eq_true]
    intro other member
    rw [(apart other member).names, Bool.not_false]
  have addressed :
      (taken.all fun other =>
        !other.address.same register.address) = true := by
    rw [List.all_eq_true]
    intro other member
    rw [(apart other member).addresses, Bool.not_false]
  rw [accept, isNumber, keyed, named, addressed]
  simp [within]

theorem accept_of_not_admissible {space : Option AddressSpace}
    {taken : List Register} (inadmissible : ¬ Admissible taken register)
    (rest : List Nat) :
    ∃ fault, (accept space taken register rest).run registry =
      ⟨.error fault, registry, []⟩ := by
  unfold accept
  -- The first check that does not hold stops it; if all hold, it is admissible.
  cases isNumber : register.address.needNumber with
  | error fault => exact ⟨fault, rfl⟩
  | ok n =>
      cases within : n.isWithin 0 255 with
      | false =>
          exact ⟨.addressTooLarge register.label register.address,
            by simp [within]⟩
      | true =>
          cases keyed : register.name.checkKey with
          | error fault => exact ⟨fault, by simp [within]⟩
          | ok _ =>
              cases named : taken.all fun other =>
                  !other.name.same register.name with
              | false =>
                  exact ⟨.duplicateName register.label, by simp [within]⟩
              | true =>
                  cases addressed : taken.all fun other =>
                      !other.address.same register.address with
                  | false =>
                      exact ⟨.duplicateAddress register.address,
                        by simp [within]⟩
                  | true =>
                      refine absurd ⟨⟨n, isNumber, within⟩, keyed, ?_⟩
                        inadmissible
                      intro other member
                      rw [List.all_eq_true] at named addressed
                      exact ⟨by simpa using named other member,
                        by simpa using addressed other member⟩

/-- What can come of taking the register at a place, and then those at the
places behind it. -/
inductive Taken (space : Option AddressSpace) (taken : List Register)
    (register : Register) (registry : Registry) (place : Nat)
    (rest : List Nat) : Outcome Registry Unit → Prop where
  | taken (placeable : Placeable space register)
    (admissible : Admissible taken register) :
    Taken space taken register registry place rest
      ((enroll space (register :: taken) rest).run
        (registry.changed place (inSpace space)))
  | foreign (fault : Fault) (foreign : ¬ Placeable space register) :
    Taken space taken register registry place rest
      ⟨.error fault, registry, []⟩
  | refused (fault : Fault) (placeable : Placeable space register)
    (inadmissible : ¬ Admissible taken register) :
    Taken space taken register registry place rest
      ⟨.error fault, registry.changed place (inSpace space), []⟩

theorem enroll_taken (space : Option AddressSpace) (taken : List Register)
    (rest : List Nat) (holds : registry.Holds place register) :
    Taken space taken register registry place rest
      ((enroll space taken (place :: rest)).run registry) := by
  -- The register is in the space already when the checks begin.
  have moved (placeable : Placeable space register)
      (go : (enroll space taken (place :: rest)).run registry =
        (accept space taken register rest).run
          (registry.changed place (inSpace space))) :
      Taken space taken register registry place rest
        ((enroll space taken (place :: rest)).run registry) := by
    rw [go]
    by_cases admissible : Admissible taken register
    · rw [accept_of_admissible admissible]
      exact .taken placeable admissible
    · obtain ⟨fault, stops⟩ := accept_of_not_admissible admissible rest
      rw [stops]
      exact .refused fault placeable admissible
  cases own : register.space with
  | none =>
      apply moved (Or.inl own)
      rw [enroll, Act.run_bind, fetch_run holds, Outcome.andThen_ok]
      simp only [own]
      rfl
  | some own' =>
      by_cases same : some own' = space
      · subst same
        apply moved (Or.inr own)
        rw [enroll, Act.run_bind, fetch_run holds, Outcome.andThen_ok]
        simp only [own, beq_self_eq_true, Act.require_true]
        rfl
      · have differ : (some own' == space) = false := by simpa using same
        rw [enroll, Act.run_bind, fetch_run holds, Outcome.andThen_ok]
        simp only [own, differ, Act.require_false, Act.run_bind, Act.run_fail,
          Outcome.andThen_error]
        apply Taken.foreign
        rintro (none | equal)
        · rw [own] at none
          cases none
        · exact same (own.symm.trans equal)

/-- Registers that can all be taken into a table, behind those that were taken
already. -/
structure Enrollable (space : Option AddressSpace)
    (taken registers : List Register) : Prop where
  placeable : ∀ register ∈ registers, Placeable space register
  located : ∀ register ∈ registers, ∃ n,
    register.address.needNumber = .ok n ∧ n.isWithin 0 255 = true
  keyed : ∀ register ∈ registers, register.name.checkKey = .ok ()
  behind : ∀ earlier ∈ taken, ∀ later ∈ registers, Apart earlier later
  apart : registers.Pairwise Apart

theorem enrollable_nil (space : Option AddressSpace) (taken : List Register) :
    Enrollable space taken [] := by
  constructor <;> simp

theorem enrollable_cons {space : Option AddressSpace}
    {taken rest : List Register} :
    Enrollable space taken (register :: rest) ↔
      Placeable space register ∧ Admissible taken register ∧
        Enrollable space (register :: taken) rest := by
  constructor
  · rintro ⟨placeable, located, keyed, behind, apart⟩
    have first : register ∈ register :: rest := List.mem_cons_self
    obtain ⟨apartFirst, apartRest⟩ := List.pairwise_cons.1 apart
    refine ⟨placeable _ first, ⟨located _ first, keyed _ first, ?_⟩, ?_⟩
    · exact fun other member => behind other member _ first
    · constructor
      · exact fun other member =>
          placeable other (List.mem_cons_of_mem _ member)
      · exact fun other member => located other (List.mem_cons_of_mem _ member)
      · exact fun other member => keyed other (List.mem_cons_of_mem _ member)
      · intro earlier before later member
        rcases List.mem_cons.1 before with rfl | before
        · exact apartFirst later member
        · exact behind earlier before later (List.mem_cons_of_mem _ member)
      · exact apartRest
  · rintro ⟨placeableFirst, ⟨locatedFirst, keyedFirst, apartFirst⟩,
      placeable, located, keyed, behind, apart⟩
    constructor
    · exact List.forall_mem_cons.2 ⟨placeableFirst, placeable⟩
    · exact List.forall_mem_cons.2 ⟨locatedFirst, located⟩
    · exact List.forall_mem_cons.2 ⟨keyedFirst, keyed⟩
    · intro earlier before
      exact List.forall_mem_cons.2 ⟨apartFirst earlier before,
        behind earlier (List.mem_cons_of_mem _ before)⟩
    · exact List.pairwise_cons.2
        ⟨behind register List.mem_cons_self, apart⟩

theorem enroll_of_enrollable {space : Option AddressSpace}
    {places : List Nat} (distinct : places.Nodup) :
    ∀ {taken registers : List Register} {registry : Registry},
      List.Forall₂ registry.Holds places registers →
      Enrollable space taken registers →
      ∃ final, (enroll space taken places).run registry =
          ⟨.ok (), final, []⟩ ∧
        Rewritten registry final places (registers.map (inSpace space)) := by
  induction places with
  | nil =>
      intro taken registers registry shown _
      cases shown
      exact ⟨registry, rfl, .nil, fun _ _ => rfl⟩
  | cons place rest restRuns =>
      intro taken registers registry shown enrollable
      obtain ⟨elsewhere, distinct⟩ := List.nodup_cons.1 distinct
      cases shown with
      | @cons _ register _ others holds shown =>
          obtain ⟨placeable, admissible, enrollable⟩ :=
            enrollable_cons.1 enrollable
          have steps := enroll_taken space taken rest holds
          generalize (enroll space taken (place :: rest)).run registry =
            outcome at steps ⊢
          cases steps with
          | foreign fault foreign => exact absurd placeable foreign
          | refused fault _ inadmissible =>
              exact absurd admissible inadmissible
          | taken _ _ =>
              obtain ⟨final, run, rewritten⟩ :=
                restRuns distinct (forall₂_changed elsewhere shown) enrollable
              exact ⟨final, run, rewritten.cons holds elsewhere⟩

theorem enroll_of_not_enrollable {space : Option AddressSpace}
    {places : List Nat} (distinct : places.Nodup) :
    ∀ {taken registers : List Register} {registry : Registry},
      List.Forall₂ registry.Holds places registers →
      ¬ Enrollable space taken registers →
      ∃ fault left, (enroll space taken places).run registry =
        ⟨.error fault, left, []⟩ := by
  induction places with
  | nil =>
      intro taken registers registry shown unfit
      cases shown
      exact absurd (enrollable_nil space taken) unfit
  | cons place rest restRuns =>
      intro taken registers registry shown unfit
      obtain ⟨elsewhere, distinct⟩ := List.nodup_cons.1 distinct
      cases shown with
      | @cons _ register _ others holds shown =>
          have steps := enroll_taken space taken rest holds
          generalize (enroll space taken (place :: rest)).run registry =
            outcome at steps ⊢
          cases steps with
          | foreign fault _ => exact ⟨fault, _, rfl⟩
          | refused fault _ _ => exact ⟨fault, _, rfl⟩
          | taken placeable admissible =>
              apply restRuns distinct (forall₂_changed elsewhere shown)
              intro enrollable
              exact unfit
                (enrollable_cons.2 ⟨placeable, admissible, enrollable⟩)

/-! ## Building -/

/-- Registers with the addresses that they have in a table: their own, or
numbers if none has one. -/
def addressed (registers : List Register) : List Register :=
  if ∀ register ∈ registers, register.address = .nothing then
    numberedFrom 0 registers
  else registers

structure Buildable (space : Option AddressSpace)
    (registers : List Register) : Prop where
  nonempty : registers ≠ []
  uniform : (∀ register ∈ registers, register.address = .nothing) ∨
    ∀ register ∈ registers, register.address ≠ .nothing
  enrollable : Enrollable space [] (addressed registers)

def assign (registers : List Register) (places : List Nat) :
    Act Registry Unit :=
  if registers.all fun register : Register => register.address = .nothing then
    number 0 places
  else
    Act.require
      (registers.all fun register : Register => register.address ≠ .nothing)
      .someAddressesMissing

theorem buildTable_fetched {space : Option AddressSpace} {places : List Nat}
    {registers : List Register}
    (shown : List.Forall₂ registry.Holds places registers) :
    (buildTable space places).run registry =
      (do
        Act.require (!registers.isEmpty) .noRegisters
        assign registers places
        enroll space [] places
        return (⟨space, places⟩ : RegisterTable)).run registry := by
  rw [buildTable, Act.run_bind, mapM_fetch_run shown, Outcome.andThen_ok]
  unfold assign
  split <;> rfl

theorem all_unaddressed {registers : List Register} :
    (registers.all fun register => register.address = .nothing) = true ↔
      ∀ register ∈ registers, register.address = .nothing := by
  simp

theorem all_addressed {registers : List Register} :
    (registers.all fun register => register.address ≠ .nothing) = true ↔
      ∀ register ∈ registers, register.address ≠ .nothing := by
  simp

theorem assign_run {places : List Nat} {registers : List Register}
    (distinct : places.Nodup)
    (shown : List.Forall₂ registry.Holds places registers)
    (uniform : (∀ register ∈ registers, register.address = .nothing) ∨
      ∀ register ∈ registers, register.address ≠ .nothing) :
    ∃ numbered, (assign registers places).run registry =
        ⟨.ok (), numbered, []⟩ ∧
      Rewritten registry numbered places (addressed registers) := by
  unfold assign addressed
  by_cases none : ∀ register ∈ registers, register.address = .nothing
  · rw [if_pos (all_unaddressed.2 none), if_pos none]
    exact number_run distinct 0 shown
  · have all := uniform.resolve_left none
    rw [if_neg (fun every => none (all_unaddressed.1 every)), if_neg none,
      all_addressed.2 all]
    exact ⟨registry, rfl, shown, fun _ _ => rfl⟩

theorem buildTable_of_buildable {space : Option AddressSpace}
    {places : List Nat} {registers : List Register}
    (distinct : places.Nodup)
    (shown : List.Forall₂ registry.Holds places registers)
    (buildable : Buildable space registers) :
    ∃ final, (buildTable space places).run registry =
        ⟨.ok ⟨space, places⟩, final, []⟩ ∧
      Rewritten registry final places
        ((addressed registers).map (inSpace space)) := by
  obtain ⟨nonempty, uniform, enrollable⟩ := buildable
  obtain ⟨numbered, assigned, holds, elsewhere⟩ :=
    assign_run distinct shown uniform
  obtain ⟨final, enrolled, rewritten⟩ :=
    enroll_of_enrollable distinct holds enrollable
  refine ⟨final, ?_, rewritten.holds, ?_⟩
  · have some : registers.isEmpty = false := by simpa using nonempty
    rw [buildTable_fetched shown, some]
    simp [assigned, enrolled]
  · intro other notAmong
    rw [rewritten.elsewhere other notAmong, elsewhere other notAmong]

theorem buildTable_of_not_buildable {space : Option AddressSpace}
    {places : List Nat} {registers : List Register}
    (distinct : places.Nodup)
    (shown : List.Forall₂ registry.Holds places registers)
    (unfit : ¬ Buildable space registers) :
    ∃ fault left, (buildTable space places).run registry =
      ⟨.error fault, left, []⟩ := by
  rw [buildTable_fetched shown]
  cases empty : registers.isEmpty with
  | true => exact ⟨.noRegisters, registry, rfl⟩
  | false =>
      have nonempty : registers ≠ [] := by
        simpa using empty
      by_cases uniform :
          (∀ register ∈ registers, register.address = .nothing) ∨
            ∀ register ∈ registers, register.address ≠ .nothing
      · obtain ⟨numbered, assigned, holds, _⟩ :=
          assign_run distinct shown uniform
        have refused : ¬ Enrollable space [] (addressed registers) :=
          fun enrollable => unfit ⟨nonempty, uniform, enrollable⟩
        obtain ⟨fault, left, stops⟩ :=
          enroll_of_not_enrollable distinct holds refused
        exact ⟨fault, left, by simp [assigned, stops]⟩
      · obtain ⟨notNone, notAll⟩ := not_or.1 uniform
        refine ⟨.someAddressesMissing, registry, ?_⟩
        have some :
            (registers.all fun register => register.address ≠ .nothing) =
              false := by
          rw [← Bool.not_eq_true, all_addressed]
          exact notAll
        rw [assign, if_neg (fun every => notNone (all_unaddressed.1 every)),
          some]
        rfl

/-- A register that no table has yet. -/
def unplaced (name : String) (space : Option AddressSpace) : Register where
  name := .words name
  spelling := "<u2"
  format := .unsigned .two
  access := .flag true
  space := space
  address := .nothing

end Registry

end ActuatorBus
