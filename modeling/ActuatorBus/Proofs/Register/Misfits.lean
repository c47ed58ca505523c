import ActuatorBus.Proofs.Binary.Overflow
import ActuatorBus.Proofs.Register.Codec

/-!
# Numbers that an integer register refuses

An integer register takes the integers of its range. Every other number is
refused as no integer or as out of range, with one exception: whether a number
is an integer is decided on the double next to it, and an integer that has none
is refused for that.
-/

namespace ActuatorBus

/-- The least and the greatest integer of a format, if it is one for
integers. -/
def NumberFormat.range? : NumberFormat → Option (Int × Int)
  | unsigned width => some width.unsignedRange
  | signed width => some width.signedRange
  | real _ => none

/-- A number is no integer of a range. -/
def Number.Misfits (range : Int × Int) (value : Number) : Prop :=
  ∀ n, value.toInt? = some n → n < range.1 ∨ range.2 < n

namespace Register

/-- The fault with which an integer register refuses a number. -/
def refusal (register : Register) (range : Int × Int) : Number → Fault
  | .integer n =>
    if Double.overflowBound ≤ n.natAbs then .overflow
    else .outOfRange register.label n range.1 range.2
  | .real x =>
    match x.toInt? with
    | some n => .outOfRange register.label n range.1 range.2
    | none => .notAnInteger register.label (.real x)

variable {register : Register} {range : Int × Int} {value : Number}

theorem encodeInteger_misfit (width : ByteWidth) {n : Int}
    (outside : n < range.1 ∨ range.2 < n) :
    register.encodeInteger width range n =
      .error (.outOfRange register.label n range.1 range.2) := by
  have notInside : ¬ (range.1 ≤ n ∧ n ≤ range.2) := by omega
  rw [encodeInteger, if_neg notInside]

theorem encodeWhole_misfit (width : ByteWidth) {nearest : Double}
    (misfits : value.Misfits range)
    (nearestEq : value.toDouble? = some nearest) :
    register.encodeWhole width range value nearest =
      .error (register.refusal range value) := by
  cases value with
  | integer n =>
      have integral : nearest.isIntegral = true :=
        Double.isIntegral_of_ofInt? nearestEq
      have small : ¬ Double.overflowBound ≤ n.natAbs := by
        intro large
        rw [Number.toDouble?, Double.ofInt?_eq_none_iff.2 large] at nearestEq
        cases nearestEq
      rw [encodeWhole, integral, refusal, if_neg small]
      exact encodeInteger_misfit width (misfits n rfl)
  | real x =>
      cases nearestEq
      rw [encodeWhole, Double.isIntegral, Number.toInt?, refusal]
      cases whole : nearest.toInt? with
      | none => rfl
      | some n => exact encodeInteger_misfit width (misfits n whole)

/-- A number that is no integer of the range is refused. -/
theorem encode_misfit (integers : register.format.range? = some range)
    (misfits : value.Misfits range) :
    register.encode (.number value) =
      .error (register.refusal range value) := by
  rw [encode_number, encodeNumber]
  cases nearestEq : value.toDouble? with
  | none =>
      cases value with
      | integer n =>
          have large := Double.ofInt?_eq_none_iff.1 nearestEq
          simp only [refusal, if_pos large]
      | real x => cases nearestEq
  | some nearest =>
      cases format : register.format with
      | unsigned width =>
          rw [format] at integers
          cases integers
          exact encodeWhole_misfit width misfits nearestEq
      | signed width =>
          rw [format] at integers
          cases integers
          exact encodeWhole_misfit width misfits nearestEq
      | real precision =>
          rw [format] at integers
          cases integers

end Register

end ActuatorBus
