import ActuatorBus.Fault

/-!
# Results

How results that are a value or a fault follow each other.
-/

namespace ActuatorBus

variable {α β : Type}

@[simp] theorem ok_bind (value : α) (next : α → Except Fault β) :
    (Except.ok value >>= next) = next value := rfl

@[simp] theorem error_bind (fault : Fault) (next : α → Except Fault β) :
    ((Except.error fault : Except Fault α) >>= next) = .error fault := rfl

@[simp] theorem pure_eq_ok (value : α) :
    (pure value : Except Fault α) = .ok value := rfl

@[simp] theorem throw_eq_error (fault : Fault) :
    (throw fault : Except Fault α) = .error fault := rfl

@[simp] theorem mapError_ok (change : Fault → Fault) (value : α) :
    (Except.ok value : Except Fault α).mapError change = .ok value := rfl

@[simp] theorem mapError_error (change : Fault → Fault) (fault : Fault) :
    (Except.error fault : Except Fault α).mapError change =
      .error (change fault) := rfl

theorem bind_eq_ok_iff {first : Except Fault α}
    {next : α → Except Fault β} {value : β} :
    (first >>= next) = .ok value ↔
      ∃ given, first = .ok given ∧ next given = .ok value := by
  cases first with
  | error fault => simp
  | ok given => simp

theorem map_eq_ok_iff {change : α → β} {result : Except Fault α}
    {value : β} :
    result.map change = .ok value ↔
      ∃ given, result = .ok given ∧ change given = value := by
  cases result <;> simp [Except.map]

theorem eq_ok_of_join_eq_some {result : Except Fault (Option α)} {value : α}
    (given : result.toOption.join = some value) :
    result = .ok (some value) := by
  cases result with
  | error fault => cases given
  | ok found => exact congrArg Except.ok given

/-- What is collected was given for an item each. -/
theorem exists_of_mem_mapM {next : α → Except Fault β} {items : List α}
    {values : List β} (collected : items.mapM next = .ok values) {value : β}
    (member : value ∈ values) : ∃ item ∈ items, next item = .ok value := by
  induction items generalizing values with
  | nil =>
      cases collected
      cases member
  | cons item rest existsInRest =>
      rw [List.mapM_cons] at collected
      obtain ⟨first, given, collected⟩ := bind_eq_ok_iff.1 collected
      obtain ⟨others, collectedRest, returned⟩ := bind_eq_ok_iff.1 collected
      cases returned
      rcases List.mem_cons.1 member with rfl | later
      · exact ⟨item, List.mem_cons_self, given⟩
      · obtain ⟨other, memberOfRest, given⟩ := existsInRest collectedRest later
        exact ⟨other, List.mem_cons_of_mem item memberOfRest, given⟩

theorem map_some_injective {α : Type} {first second : Except Fault α}
    (same : first.map some = second.map some) : first = second := by
  cases first with
  | error fault =>
      cases second with
      | error other => exact congrArg Except.error (Except.error.inj same)
      | ok value => cases same
  | ok value =>
      cases second with
      | error fault => cases same
      | ok other =>
          have values : some value = some other := Except.ok.inj same
          exact congrArg Except.ok (Option.some.inj values)

end ActuatorBus
