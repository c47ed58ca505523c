import ActuatorBus.Proofs.Fleet.Answers

/-!
# New fleets

The motors that a connection starts with. They are told apart by their ids, and
the number that each register starts with is one that it can hold.
-/

namespace ActuatorBus

namespace Motor

theorem distinct_concat (motors : List Motor) (motor : Motor) :
    distinct (motors ++ [motor]) = (do
      let found ← distinct motors
      motor.key.checkKey
      if found.any fun other => other.key.same motor.key then
        return found.map fun other =>
          if other.key.same motor.key then { motor with key := other.key }
          else other
      else return found ++ [motor]) := by
  simp only [distinct, List.foldlM_append, List.foldlM_cons, List.foldlM_nil,
    bind_pure]

/-- One more motor with an id of its own is kept. -/
theorem distinct_keep {motors : List Motor} {motor : Motor}
    (kept : distinct motors = .ok motors)
    (keyed : motor.key.checkKey = .ok ())
    (apart : ∀ other ∈ motors, other.key.same motor.key = false) :
    distinct (motors ++ [motor]) = .ok (motors ++ [motor]) := by
  have newKey :
      (motors.any fun other => other.key.same motor.key) = false := by
    rw [List.any_eq_false]
    intro other member
    simp [apart other member]
  rw [distinct_concat, kept, ok_bind, keyed, ok_bind, newKey]
  rfl

/-- Motors with ids of their own are all kept. -/
theorem distinct_eq {motors : List Motor}
    (keyed : ∀ motor ∈ motors, motor.key.checkKey = .ok ())
    (apart : motors.Pairwise fun first later =>
      first.key.same later.key = false) :
    distinct motors = .ok motors := by
  -- The motors that were looked at come first.
  have keepsAll (rest : List Motor) :
      ∀ found, distinct found = .ok found →
        (∀ motor ∈ rest, motor.key.checkKey = .ok ()) →
        ((found ++ rest).Pairwise fun first later =>
          first.key.same later.key = false) →
        distinct (found ++ rest) = .ok (found ++ rest) := by
    induction rest with
    | nil =>
        intro found kept _ _
        rw [List.append_nil]
        exact kept
    | cons motor rest keepsRest =>
        intro found kept keyed apart
        have apartMotor : ∀ other ∈ found,
            other.key.same motor.key = false := by
          intro other member
          exact (List.pairwise_append.1 apart).2.2 other member motor
            List.mem_cons_self
        have keptMotor :=
          distinct_keep kept (keyed motor List.mem_cons_self) apartMotor
        rw [List.append_cons] at apart ⊢
        apply keepsRest _ keptMotor _ apart
        exact fun other member => keyed other (List.mem_cons_of_mem _ member)
  exact keepsAll motors [] rfl keyed apart

/-- The motor with an error byte. -/
def reporting (error : UInt8) (motor : Motor) : Motor :=
  { motor with error := .integer error.toNat }

/-- A new motor, as a connection makes it. -/
def simulated (id : UInt8) : Motor :=
  create (.integer id.toNat) (.integer 0) defaultPingData

theorem reporting_simulated (id error : UInt8) :
    (simulated id).reporting error = (Station.fresh id error).motor [] := by
  rfl

theorem distinct_simulated {ids : List UInt8} (apart : ids.Nodup) :
    distinct (ids.map simulated) = .ok (ids.map simulated) := by
  apply distinct_eq
  · intro motor member
    obtain ⟨id, _, rfl⟩ := List.mem_map.1 member
    rfl
  · rw [List.pairwise_map]
    apply apart.imp
    intro first later different
    have keys :
        (simulated first).key.same (simulated later).key =
          ((first.toNat : Int) == later.toNat) :=
      Value.same_integer _ _
    rw [keys]
    apply beq_false_of_ne
    intro equal
    exact different (UInt8.toNat_inj.1 (Int.ofNat_inj.1 equal))

end Motor

namespace Fleet

/-- A fleet that was not written to yet. -/
def fresh (ids : List UInt8) (errors : UInt8 → UInt8) : Fleet :=
  ids.map fun id => Station.fresh id (errors id)

theorem shown_fresh (ids : List UInt8) (errors : UInt8 → UInt8) :
    Shown (fresh ids errors)
      (ids.map fun id => (Motor.simulated id).reporting (errors id)) := by
  induction ids with
  | nil => exact .nil
  | cons id rest shownRest =>
      have shown := Shown.cons (Station.fresh id (errors id)) [] shownRest
      rw [← Motor.reporting_simulated] at shown
      exact shown

/-- The register with the id of a motor has room for it. -/
theorem format_id (slot : Slot) (ofConfig : slot.space = .config)
    (named : slot.register.label = "id") :
    slot.register.format = .unsigned .four := by
  obtain ⟨space, register, mapped⟩ := slot
  simp only at ofConfig named
  subst ofConfig
  have all : ∀ register ∈ RegisterMap.registers .config,
      register.label = "id" → register.format = .unsigned .four := by
    decide +kernel
  exact all register mapped named

theorem keeps_fresh (id error : UInt8) (slot : Slot) :
    slot.register.Keeps ((Station.fresh id error).values slot.space
      slot.register.label) := by
  cases space : slot.space with
  | status => exact slot.register.keeps_zero
  | config =>
      by_cases named : slot.register.label = "id"
      · simp only [Station.fresh, Station.freshConfig, named, if_true]
        exact Register.keeps_byte (format_id slot space named) id
      · simp only [Station.fresh, Station.freshConfig, named, if_false]
        exact slot.register.keeps_zero

theorem sound_fresh {ids : List UInt8} {errors : UInt8 → UInt8}
    (distinct : ids.Nodup)
    (harmless : ∀ id ∈ ids,
      (errors id).toNat &&& ErrorFlags.errorMask = 0) :
    (fresh ids errors).Sound := by
  constructor
  · have own : (fresh ids errors).map Station.id = ids := by
      rw [fresh, List.map_map]
      exact List.map_id ids
    rw [own]
    exact distinct
  · intro station member
    obtain ⟨id, ofIds, rfl⟩ := List.mem_map.1 member
    exact harmless id ofIds
  · intro station member slot
    obtain ⟨id, _, rfl⟩ := List.mem_map.1 member
    exact keeps_fresh id (errors id) slot

end Fleet

end ActuatorBus
