import ActuatorBus.Proofs.Register.Building

/-!
# Sessions that build tables

Registers are made and tables are built of them in any order; a register may
be offered to any number of tables, and what a table changed before it was
refused stays changed. All that can ever happen to a register is that it gets
an address or a space that it did not have. The registers of a table have
both, so they stay what they are.
-/

namespace ActuatorBus

/-- What can become of a register: it gets an address or a space. -/
structure Register.Follows (before now : Register) : Prop where
  name : now.name = before.name
  spelling : now.spelling = before.spelling
  format : now.format = before.format
  access : now.access = before.access
  address : before.address ≠ .nothing → now.address = before.address
  space : ∀ space, before.space = some space → now.space = some space

namespace Register.Follows

variable {before now later : Register}

theorem refl (register : Register) : register.Follows register :=
  ⟨rfl, rfl, rfl, rfl, fun _ => rfl, fun _ own => own⟩

theorem trans (first : before.Follows now) (second : now.Follows later) :
    before.Follows later := by
  constructor
  · exact second.name.trans first.name
  · exact second.spelling.trans first.spelling
  · exact second.format.trans first.format
  · exact second.access.trans first.access
  · intro addressed
    have kept := first.address addressed
    have stillAddressed : now.address ≠ .nothing := kept ▸ addressed
    rw [second.address stillAddressed, kept]
  · exact fun space own => second.space space (first.space space own)

theorem eq_of_settled {space : AddressSpace} (follows : before.Follows now)
    (addressed : before.address ≠ .nothing)
    (spaced : before.space = some space) : now = before := by
  obtain ⟨name, spelling, format, access, address, own⟩ := follows
  have addressEq := address addressed
  have spaceEq := (own space spaced).trans spaced.symm
  rcases now with ⟨_, _, _, _, _, _⟩
  rcases before with ⟨_, _, _, _, _, _⟩
  simp only at name spelling format access addressEq spaceEq
  rw [name, spelling, format, access, addressEq, spaceEq]

end Register.Follows

namespace Registry

def Grows (before after : Registry) : Prop :=
  ∀ place register, before.Holds place register →
    ∃ now, after.Holds place now ∧ register.Follows now

variable {before middle after registry : Registry} {place : Nat}
  {register : Register} {space : Option AddressSpace}

theorem Grows.refl (registry : Registry) : registry.Grows registry :=
  fun _ register holds => ⟨register, holds, .refl register⟩

theorem Grows.trans (first : before.Grows middle)
    (second : middle.Grows after) : before.Grows after := by
  intro place register holds
  obtain ⟨now, holdsNow, follows⟩ := first place register holds
  obtain ⟨later, holdsLater, followsLater⟩ := second place now holdsNow
  exact ⟨later, holdsLater, follows.trans followsLater⟩

theorem Grows.changed {change : Register → Register}
    (grown : before.Grows registry)
    (allowed : ∀ register now, before.Holds place register →
      registry.Holds place now → register.Follows now →
      register.Follows (change now)) :
    before.Grows (registry.changed place change) := by
  intro other register holds
  obtain ⟨now, holdsNow, follows⟩ := grown other register holds
  by_cases same : place = other
  · subst same
    exact ⟨change now, holdsNow.changed,
      allowed register now holds holdsNow follows⟩
  · exact ⟨now, (holds_changed same).2 holdsNow, follows⟩

/-! ## Steps -/

theorem add_grows (registry : Registry) (register : Register) :
    registry.Grows ((add register).run registry).state := by
  intro place held holds
  refine ⟨held, ?_, .refl held⟩
  have inside := (List.getElem?_eq_some_iff.1 holds).1
  show (registry.registers ++ [register])[place]? = some held
  rw [List.getElem?_append_left inside]
  exact holds

theorem number_grows (places : List Nat) :
    ∀ (next : Nat) (registry : Registry), before.Grows registry →
      (∀ place ∈ places, ∀ register, before.Holds place register →
        register.address = .nothing) →
      before.Grows ((number next places).run registry).state := by
  -- A register that occurs twice gets a second address in the place of the
  -- first, so that the steps are told from the registers at the start.
  induction places with
  | nil => exact fun _ _ grown _ => grown
  | cons place rest restGrow =>
      intro next registry grown unaddressed
      apply restGrow (next + 1) (registry.changed place fun register =>
        { register with address := .integer next })
      · apply grown.changed
        intro register now holds _ follows
        have missing := unaddressed place List.mem_cons_self register holds
        exact { follows with address := absurd missing }
      · exact fun other member => unaddressed other
          (List.mem_cons_of_mem place member)

theorem Grows.inSpace (placeable : Placeable space register)
    (holds : registry.Holds place register) :
    registry.Grows (registry.changed place (inSpace space)) := by
  apply (Grows.refl registry).changed
  intro first now holdsFirst holdsNow _
  obtain rfl := holdsFirst.unique holds
  obtain rfl := holdsNow.unique holds
  refine ⟨rfl, rfl, rfl, rfl, fun _ => rfl, ?_⟩
  intro own ownEq
  rcases placeable with none | same
  · rw [none] at ownEq
    cases ownEq
  · exact same.symm.trans ownEq

theorem enroll_grows (space : Option AddressSpace) (places : List Nat) :
    ∀ (taken : List Register) (registry : Registry),
      registry.Grows ((enroll space taken places).run registry).state := by
  induction places with
  | nil => exact fun _ registry => .refl registry
  | cons place rest restGrows =>
      intro taken registry
      cases found : registry.registers[place]? with
      | none =>
          rw [enroll, Act.run_bind, fetch_run_none found]
          exact .refl registry
      | some register =>
          have steps := enroll_taken space taken rest found
          generalize (enroll space taken (place :: rest)).run registry =
            outcome at steps ⊢
          cases steps with
          | taken placeable _ =>
              exact (Grows.inSpace placeable found).trans (restGrows _ _)
          | foreign _ _ => exact .refl registry
          | refused _ placeable _ => exact Grows.inSpace placeable found

theorem assign_grows {places : List Nat} {registers : List Register}
    (shown : List.Forall₂ registry.Holds places registers) :
    registry.Grows ((assign registers places).run registry).state := by
  unfold assign
  by_cases none : ∀ register ∈ registers, register.address = .nothing
  · rw [if_pos (all_unaddressed.2 none)]
    apply number_grows places 0 registry (.refl registry)
    intro place member register holds
    obtain ⟨held, among, heldThere⟩ := exists_holds shown member
    obtain rfl := heldThere.unique holds
    exact none held among
  · rw [if_neg (fun every => none (all_unaddressed.1 every))]
    cases registers.all fun register => register.address ≠ .nothing with
    | true => exact .refl registry
    | false => exact .refl registry

theorem buildTable_grows (space : Option AddressSpace) (places : List Nat)
    (registry : Registry) :
    registry.Grows ((buildTable space places).run registry).state := by
  have enrollKeeps : Act.Keeps registry.Grows (enroll space [] places) :=
    fun middle grown => grown.trans (enroll_grows space places [] middle)
  rcases mapM_fetch_cases registry places with
    ⟨registers, shown⟩ | ⟨fault, run⟩
  · rw [buildTable_fetched shown]
    cases registers.isEmpty with
    | true => exact .refl registry
    | false =>
        rw [Bool.not_false, Act.require_true, pure_bind]
        apply Act.run_bind_keeps (assign_grows shown)
        exact fun _ => enrollKeeps.bind fun _ => Act.keeps_pure _
  · rw [buildTable, Act.run_bind, run]
    exact .refl registry

theorem require_keeps (property : Registry → Prop) (condition : Bool)
    (fault : Fault) : Act.Keeps property (Act.require condition fault) := by
  cases condition with
  | true => exact fun _ holds => holds
  | false => exact fun _ holds => holds

theorem buildTableOf_grows (space : Option AddressSpace)
    (places : List (Option Nat)) (registry : Registry) :
    registry.Grows ((buildTableOf space places).run registry).state := by
  unfold buildTableOf
  generalize (places.takeWhile Option.isSome).filterMap id = present
  simp only
  split
  · exact buildTable_grows space present registry
  · rcases mapM_fetch_cases registry present with
      ⟨registers, shown⟩ | ⟨fault, run⟩
    · apply Act.run_bind_keeps
      · rw [mapM_fetch_run shown]
        exact .refl registry
      · intro fetched
        exact (require_keeps _ _ _).bind fun _ _ grown => grown
    · rw [Act.run_bind, run]
      exact .refl registry

/-! ## Sessions -/

/-- What is made in a session. -/
inductive Construction where
  | register (name format access : Value) (space : Option AddressSpace)
    (address : Value)
  /-- A table of the registers at the places; some could not be made. -/
  | table (space : Option AddressSpace) (places : List (Option Nat))

def Construction.perform : Construction → Act Registry Unit
  | .register name format access space address => do
    let made ← Act.ofExcept
      (Register.ofFormat name format access space address)
    let _ ← add made
  | .table space places => do
    let _ ← buildTableOf space places

/-- The registers after constructions, each of which is tried whether those
before it failed or not. -/
def afterAll (constructions : List Construction) (registry : Registry) :
    Registry :=
  constructions.foldl
    (fun reached construction => (construction.perform.run reached).state)
    registry

theorem perform_grows (construction : Construction) (registry : Registry) :
    registry.Grows (construction.perform.run registry).state := by
  cases construction with
  | register name format access space address =>
      rw [Construction.perform]
      cases Register.ofFormat name format access space address with
      | error fault => exact .refl registry
      | ok made => exact add_grows registry made
  | table space places =>
      apply Act.run_bind_keeps (buildTableOf_grows space places registry)
      exact fun _ => Act.keeps_pure _

theorem afterAll_grows (constructions : List Construction) :
    ∀ registry : Registry,
      registry.Grows (afterAll constructions registry) := by
  induction constructions with
  | nil => exact .refl
  | cons construction rest restGrows =>
      intro registry
      exact (perform_grows construction registry).trans (restGrows _)

/-! ## Tables that were built -/

/-- A register that has all that a table gives to it. -/
structure Settled (space : AddressSpace) (register : Register) : Prop where
  addressed : register.address ≠ .nothing
  spaced : register.space = some space

theorem Settled.follows {space : AddressSpace} {before now : Register}
    (settled : Settled space before) (follows : before.Follows now) :
    now = before :=
  follows.eq_of_settled settled.addressed settled.spaced

theorem enroll_settles {space : AddressSpace} (places : List Nat) :
    ∀ (taken : List Register) (registry : Registry),
      ((enroll (some space) taken places).run registry).result = .ok () →
      ∀ place ∈ places, ∃ register, Settled space register ∧
        ((enroll (some space) taken places).run registry).state.Holds place
          register := by
  induction places with
  | nil => exact fun _ _ _ place none => absurd none List.not_mem_nil
  | cons place rest restSettle =>
      intro taken registry gives
      cases found : registry.registers[place]? with
      | none =>
          rw [enroll, Act.run_bind, fetch_run_none found] at gives
          cases gives
      | some register =>
          have steps := enroll_taken (some space) taken rest found
          generalize (enroll (some space) taken (place :: rest)).run registry =
            outcome at steps gives ⊢
          cases steps with
          | foreign _ _ => cases gives
          | refused _ _ _ => cases gives
          | taken _ admissible =>
              have settled : Settled space (inSpace (some space) register) := by
                refine ⟨?_, rfl⟩
                intro missing
                obtain ⟨n, isNumber, _⟩ := admissible.located
                rw [show register.address = .nothing from missing] at isNumber
                cases isNumber
              intro other member
              -- What comes later cannot change the first register any more.
              rcases List.mem_cons.1 member with rfl | inRest
              · obtain ⟨now, holdsNow, follows⟩ :=
                  enroll_grows (some space) rest (register :: taken) _ other _
                    (Holds.changed found)
                exact ⟨now, (settled.follows follows).symm ▸ settled, holdsNow⟩
              · exact restSettle _ _ gives other inRest

/-- A table that was built, and its registers in the space that it was built
for. -/
structure Built (table : RegisterTable) (space : AddressSpace)
    (registry : Registry) : Prop where
  space_eq : table.space = some space
  settled : ∀ place ∈ table.members, ∃ register, Settled space register ∧
    registry.Holds place register

theorem buildTable_settles {space : AddressSpace} {places : List Nat}
    {table : RegisterTable}
    (built : ((buildTable (some space) places).run registry).result =
      .ok table) :
    Built table space
      ((buildTable (some space) places).run registry).state := by
  rcases mapM_fetch_cases registry places with
    ⟨registers, shown⟩ | ⟨fault, run⟩
  · rw [buildTable_fetched shown] at built ⊢
    obtain ⟨_, _, built, stateEq⟩ := Act.run_bind_eq_ok built
    rw [stateEq]
    obtain ⟨_, _, built, stateEq⟩ := Act.run_bind_eq_ok built
    rw [stateEq]
    obtain ⟨_, enrolled, built, stateEq⟩ := Act.run_bind_eq_ok built
    rw [stateEq]
    cases built
    exact ⟨rfl, enroll_settles places _ _ enrolled⟩
  · rw [buildTable, Act.run_bind, run] at built
    cases built

theorem buildTableOf_settles {space : AddressSpace}
    {places : List (Option Nat)} {table : RegisterTable}
    (built : ((buildTableOf (some space) places).run registry).result =
      .ok table) :
    Built table space
      ((buildTableOf (some space) places).run registry).state := by
  unfold buildTableOf at built ⊢
  generalize (places.takeWhile Option.isSome).filterMap id = present
    at built ⊢
  simp only at built ⊢
  split at built
  next complete =>
    rw [if_pos complete]
    exact buildTable_settles built
  next incomplete =>
    obtain ⟨_, _, built, _⟩ := Act.run_bind_eq_ok built
    obtain ⟨_, _, built, _⟩ := Act.run_bind_eq_ok built
    cases built

/-- Nothing that can be learnt from a table differs between two states of the
registers. -/
structure Frozen (table : RegisterTable) (before after : Registry) :
    Prop where
  held : ∀ place ∈ table.members, ∃ register,
    before.Holds place register ∧ after.Holds place register
  registers : table.registers after = table.registers before
  lookup : ∀ key, table.lookup after key = table.lookup before key
  withAddress : ∀ address,
    table.withAddress after address = table.withAddress before address
  hasKey : ∀ key, table.hasKey after key = table.hasKey before key
  hasPlace : ∀ place register, before.Holds place register →
    table.hasPlace after place = table.hasPlace before place
  instructions :
    (table.registers after).map Register.readInstruction =
        (table.registers before).map Register.readInstruction ∧
      (table.registers after).map Register.writeInstruction =
        (table.registers before).map Register.writeInstruction

variable {table : RegisterTable} {own : AddressSpace}

theorem Built.getElem?_eq (built : Built table own before)
    (grown : before.Grows after) {place : Nat}
    (member : place ∈ table.members) :
    after.registers[place]? = before.registers[place]? := by
  obtain ⟨register, settled, holds⟩ := built.settled place member
  obtain ⟨now, holdsNow, follows⟩ := grown place register holds
  rw [settled.follows follows] at holdsNow
  exact holdsNow.trans holds.symm

theorem Built.frozen (built : Built table own before)
    (grown : before.Grows after) : Frozen table before after := by
  have sameRegisters : table.registers after = table.registers before :=
    List.filterMap_congr fun place member =>
      built.getElem?_eq grown member
  have sameFound : ∀ property : Register → Bool,
      table.findPlace? after property = table.findPlace? before property := by
    intro property
    rw [RegisterTable.findPlace?, RegisterTable.findPlace?,
      ← List.head?_filter, ← List.head?_filter]
    apply congrArg List.head?
    apply List.filter_congr
    intro place member
    rw [built.getElem?_eq grown member]
  have sameNamed : ∀ name,
      table.withName? after name = table.withName? before name :=
    fun name => sameFound _
  constructor
  · intro place member
    obtain ⟨register, _, holds⟩ := built.settled place member
    exact ⟨register, holds, (built.getElem?_eq grown member).trans holds⟩
  · exact sameRegisters
  · intro key
    cases key with
    | name name => rw [RegisterTable.lookup, sameNamed, RegisterTable.lookup]
    | index index => rfl
    | other text => rfl
  · intro address
    rw [RegisterTable.withAddress, sameFound, RegisterTable.withAddress]
  · intro key
    cases key with
    | name name => rw [RegisterTable.hasKey, sameNamed, RegisterTable.hasKey]
    | index index => rfl
    | other text => rfl
  · intro place register holds
    -- A register that is no member may get an address, but no other name.
    obtain ⟨now, holdsNow, follows⟩ := grown place register holds
    rw [RegisterTable.hasPlace, RegisterTable.hasPlace, holds, holdsNow]
    simp only [follows.name, sameNamed]
  · rw [sameRegisters]
    exact ⟨rfl, rfl⟩

/-- Whatever is constructed later on, a table that was built for a space stays
what it is, and so do its registers. The registers of a table without a space
can still be taken into one that has one. -/
theorem built_table_frozen {places : List (Option Nat)}
    (built : ((buildTableOf (some own) places).run registry).result =
      .ok table)
    (later : List Construction) :
    let before := ((buildTableOf (some own) places).run registry).state
    Frozen table before (afterAll later before) :=
  (buildTableOf_settles built).frozen (afterAll_grows later _)

/-- The register of a table is offered again: to a table of the other space, as
one of two that have no address, and twice to one table. -/
theorem unplaced_frozen :
    let registry : Registry := ⟨[unplaced "gain" none, unplaced "limit" none]⟩
    let outcome := (buildTableOf (some .config) [some 0]).run registry
    outcome.result = .ok ⟨some .config, [0]⟩ ∧
      Frozen ⟨some .config, [0]⟩ outcome.state
        (afterAll
          [.table (some .status) [some 0],
            .table (some .config) [some 1, some 0],
            .register (.words "gain") (.words "<u4") (.flag true) none .nothing,
            .table none [some 2], .table (some .config) [some 0, some 0]]
          outcome.state) := by
  intro registry outcome
  have built : outcome.result = .ok ⟨some .config, [0]⟩ := by decide
  exact ⟨built, built_table_frozen built _⟩

end Registry

end ActuatorBus
