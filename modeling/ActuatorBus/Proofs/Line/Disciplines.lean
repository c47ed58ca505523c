import ActuatorBus.Proofs.Binary.Addition
import ActuatorBus.Proofs.Line.Memory

/-!
# Lines in step

A suspending bus gives way to others for no time at all before it uses its
line, a blocking bus does not. Two lines are in step if they are the same but
for their clocks, and the clocks show the same time in some sense. Every
operation of a line keeps lines in step if that sense is `Synchronous`.
-/

namespace ActuatorBus

/-- A sense in which two clocks show the same time, that is not lost when only
one of them gives way, when the same time passes on both, and when both wait
until the same time. -/
structure Synchronous (same : Double → Double → Prop) : Prop where
  yields {x y : Double} (times : same x y) : same x (y.add .zero)
  passes {x y : Double} (times : same x y) (seconds : Double) :
    same (x.add seconds) (y.add seconds)
  waits {x y deadline deadline' : Double} (times : same x y)
    (deadlines : same deadline deadline') :
    Double.zero.lt (deadline.sub x) = Double.zero.lt (deadline'.sub y) ∧
      same (x.add (deadline.sub x)) (y.add (deadline'.sub y))

theorem synchronous_concurs : Synchronous Double.Concurs where
  yields times := times.trans (Double.concurs_add_zero _)
  passes times seconds := times.add_right seconds
  waits := by
    intro x y deadline deadline' times deadlines
    have delays : (deadline.sub x).Concurs (deadline'.sub y) :=
      (deadlines.add_right x.neg).trans (times.neg.add_left deadline')
    refine ⟨delays.lt_eq .zero, ?_⟩
    exact (times.add_right _).trans (delays.add_left y)

theorem synchronous_settled :
    Synchronous fun x y => x = y ∧ x.Settled where
  yields := by
    rintro x y ⟨rfl, settled⟩
    exact ⟨settled.symm, settled⟩
  passes := by
    rintro x y ⟨rfl, settled⟩ seconds
    exact ⟨rfl, settled.add seconds⟩
  waits := by
    rintro x y deadline deadline' ⟨rfl, settled⟩ ⟨rfl, _⟩
    exact ⟨rfl, rfl, settled.add _⟩

namespace MemoryLine

/-- Two lines that differ in nothing but clocks that show the same time. -/
structure InStep (same : Double → Double → Prop) (line line' : MemoryLine) :
    Prop where
  times : same line.clock line'.clock
  rest_eq : line' = { line with clock := line'.clock }

variable {same : Double → Double → Prop} {line line' : MemoryLine}

theorem InStep.eq_at (inStep : InStep same line line') :
    ∃ clock, same line.clock clock ∧ line' = { line with clock } :=
  ⟨line'.clock, inStep.times, inStep.rest_eq⟩

theorem InStep.resumed (inStep : InStep same line line')
    (synchronous : Synchronous same) :
    same (line.resumed .blocking) (line'.resumed .suspending) :=
  synchronous.yields inStep.times

theorem InStep.discardInput (inStep : InStep same line line') :
    Outcome.Agree (InStep same) (discardInput.run line)
      (discardInput.run line') := by
  obtain ⟨clock, times, rfl⟩ := inStep.eq_at
  rw [discardInput_run, discardInput_run]
  cases line.failures.discard with
  | some error => exact ⟨rfl, times, rfl⟩
  | none => exact ⟨rfl, times, rfl⟩

theorem InStep.writeAll (inStep : InStep same line line')
    (synchronous : Synchronous same) (bytes : Bytes) :
    Outcome.Agree (InStep same) ((writeAll .blocking bytes).run line)
      ((writeAll .suspending bytes).run line') := by
  have times := inStep.resumed synchronous
  obtain ⟨clock, _, rfl⟩ := inStep.eq_at
  rw [writeAll_run, writeAll_run]
  cases line.failures.write with
  | some error => exact ⟨rfl, times, rfl⟩
  | none => exact ⟨rfl, times, rfl⟩

theorem InStep.read (inStep : InStep same line line')
    (synchronous : Synchronous same) {deadline deadline' : Double}
    (deadlines : same deadline deadline') (space : Nat) :
    Outcome.Agree (InStep same) ((read .blocking space deadline).run line)
      ((read .suspending space deadline').run line') := by
  have resumes := inStep.resumed synchronous
  obtain ⟨waitsEq, waits⟩ := synchronous.waits inStep.times deadlines
  obtain ⟨clock, times, rfl⟩ := inStep.eq_at
  rw [read_run, read_run]
  cases failure : line.failures.read with
  | some error =>
      simp only [reading, failure]
      exact ⟨rfl, times, rfl⟩
  | none =>
      by_cases empty : line.input.isEmpty = true
      · simp only [reading, failure, empty, if_true]
        refine ⟨rfl, ?_, rfl⟩
        by_cases late : Double.zero.lt (deadline.sub line.clock) = true
        · rw [if_pos late, if_pos (waitsEq ▸ late)]
          exact waits
        · rw [if_neg late, if_neg (waitsEq ▸ late)]
          exact times
      · simp only [reading, failure, empty]
        cases readCount line.chunkSize (min line.input.length space) with
        | error fault => exact ⟨rfl, resumes, rfl⟩
        | ok count => exact ⟨rfl, resumes, rfl⟩

end MemoryLine

end ActuatorBus
