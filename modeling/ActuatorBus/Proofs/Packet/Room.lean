import ActuatorBus.Proofs.Packet.Writing
import ActuatorBus.Proofs.Runs

/-!
# Room

No filler changes the size of the buffer it runs on, whether it is done or
stops half way. So whatever instructions were written, there is as much room
for the next one.
-/

namespace ActuatorBus

namespace Filler

/-- An action that keeps the size of its buffer. -/
def Steady {α : Type} (fill : Act Bytes α) : Prop :=
  ∀ size, Act.Keeps (fun buffer : Bytes => buffer.length = size) fill

section

variable {α β : Type}

theorem steady_pure (value : α) : Steady (pure value) :=
  fun _ => Act.keeps_pure value

theorem steady_fail (fault : Fault) : Steady (Act.fail fault : Act Bytes α) :=
  fun _ _ lengthEq => lengthEq

theorem steady_ofExcept (result : Except Fault α) :
    Steady (Act.ofExcept result) :=
  fun _ => Act.keeps_ofExcept result

theorem steady_require (condition : Bool) (fault : Fault) :
    Steady (Act.require condition fault) := by
  cases condition with
  | true => exact steady_pure ()
  | false => exact steady_fail fault

theorem Steady.bind {first : Act Bytes α} {next : α → Act Bytes β}
    (firstSteady : Steady first) (nextSteady : ∀ value, Steady (next value)) :
    Steady (first >>= next) :=
  fun size => (firstSteady size).bind fun value => nextSteady value size

theorem steady_get {next : Bytes → Act Bytes α}
    (nextSteady : ∀ buffer, ((next buffer).run buffer).state.length =
      buffer.length) : Steady (Act.get >>= next) := by
  intro size buffer lengthEq
  exact (nextSteady buffer).trans lengthEq

end

theorem steady_putByte (position : Nat) (value : Int) :
    Steady (putByte position value) := by
  apply steady_get
  intro buffer
  by_cases inside : position < buffer.length
  · cases stored : Bytes.ofInt? value with
    | none => simp [inside]
    | some byte => simp [inside]
  · simp [inside]

theorem steady_putValue (position : Nat) (value : Value) :
    Steady (putValue position value) := by
  refine Steady.bind (fun _ => Act.keeps_get) fun buffer => ?_
  refine (steady_require _ _).bind fun _ => ?_
  refine (steady_ofExcept _).bind fun count => ?_
  exact steady_putByte position count

theorem steady_putAll (bytes : Bytes) : Steady (putAll bytes) := by
  apply steady_get
  intro buffer
  by_cases fits : bytes.length = buffer.length
  · simp [fits]
  · simp [beq_eq_false_iff_ne.2 fits]

variable {fill : Filler}

/-- The part that a filler runs on is put back where it was, also if it ends
before it starts. -/
theorem Steady.within (steady : Steady fill) (start stop : Nat) :
    Steady (within start stop fill) := by
  intro size buffer lengthEq
  have view := steady _ (buffer.slice start stop) rfl
  simp only [Bytes.slice, List.length_drop, List.length_take] at view
  simp only [Filler.within, Act.run_on, List.length_append,
    List.length_take, List.length_drop, Bytes.slice, view]
  omega

end Filler

namespace Packet

open Filler

theorem steady_putHeader : Steady putHeader :=
  (steady_putByte 0 _).bind fun _ => steady_putByte 1 _

theorem steady_putCode (code : Value) : Steady (putCode code) :=
  (steady_ofExcept code.wholeNumber).bind fun number =>
    steady_putByte codePosition number

theorem steady_putChecksum (position : Nat) :
    Steady (putChecksum position) := by
  refine Steady.bind (fun _ => Act.keeps_get) fun buffer => ?_
  exact (steady_putByte _ _).bind fun _ => steady_pure _

theorem steady_writeWith {putId putCode : Filler} (idSteady : Steady putId)
    (codeSteady : Steady putCode) (parameterCount : Int)
    {fill : Option Filler} (fills : ∀ filler ∈ fill, Steady filler) :
    Steady (writeWith putId putCode parameterCount fill) := by
  refine Steady.bind (fun _ => Act.keeps_get) fun buffer => ?_
  refine (steady_ofExcept _).bind fun _ => ?_
  refine (steady_require _ _).bind fun _ => ?_
  refine steady_putHeader.bind fun _ => ?_
  refine idSteady.bind fun _ => ?_
  refine (steady_putByte _ _).bind fun _ => ?_
  refine codeSteady.bind fun _ => ?_
  cases fill with
  | none => exact steady_putChecksum _
  | some filler =>
      exact
        ((fills filler rfl).within _ _).bind fun _ => steady_putChecksum _

theorem steady_writeUncounted (motorId : Value) (parameterCount : Double) :
    Steady (writeUncounted motorId parameterCount) := by
  refine Steady.bind (fun _ => Act.keeps_get) fun buffer => ?_
  refine (steady_ofExcept _).bind fun _ => ?_
  refine (steady_require _ _).bind fun _ => ?_
  refine steady_putHeader.bind fun _ => ?_
  refine (steady_putValue _ _).bind fun _ => ?_
  refine Steady.bind (fun _ => Act.keeps_get) fun buffer => ?_
  exact (steady_require _ _).bind fun _ => steady_fail _

/-- Writing a packet keeps the size of the buffer, however it ends. -/
theorem steady_write (motorId code parameterCount : Value)
    {fill : Option Filler} (fills : ∀ filler ∈ fill, Steady filler) :
    Steady (write motorId code parameterCount fill) := by
  refine (steady_ofExcept _).bind fun number => ?_
  cases number with
  | integer count =>
      exact
        steady_writeWith (steady_putValue idPosition motorId)
          (steady_putCode code) count fills
  | real count => exact steady_writeUncounted motorId count

theorem steady_write_filled {fill : Option Filler} {count : Nat}
    {image : Except Fault Bytes} (fills : Filler.Fills fill count image)
    (motorId code : Value) :
    Steady (write motorId code (.integer count) fill) := by
  intro size buffer lengthEq
  have written := write_written motorId code fills buffer
  cases made : assemble buffer.length motorId code count image with
  | error fault =>
      rw [made] at written
      cases written with
      | error left leftLength run =>
          rw [run]
          exact leftLength.trans lengthEq
  | ok packet =>
      have fits := (assembled made).fits
      rw [made] at written
      cases written with
      | ok counted run =>
          rw [run]
          simp only [Packet.size] at fits
          simp only [List.length_append, List.length_drop, length_encode]
          omega

end Packet

end ActuatorBus
