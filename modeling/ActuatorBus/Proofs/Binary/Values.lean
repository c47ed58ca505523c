import ActuatorBus.Number
import Mathlib.Data.Rat.Cast.Order
import Mathlib.Tactic.NormNum

/-!
# Values of numbers

The value of a finite number is a rational number, its units over the units in
the number one. A number is an integer exactly if its value is one.
-/

namespace ActuatorBus

/-- The value of a double, if it is finite. -/
def Double.value? (x : Double) : Option ℚ :=
  if x.isFinite then some ((x.units : ℚ) / (unitsPerOne : ℚ)) else none

/-- The value of a number, if it has one. -/
def Number.value? : Number → Option ℚ
  | integer n => some (n : ℚ)
  | real x => x.value?

theorem Double.unitsPerOne_pos : 0 < unitsPerOne := by
  unfold unitsPerOne
  generalize BinaryFormat.double.unitPlaces = places
  exact Nat.two_pow_pos places

/-- Units are a whole number of ones if the quotient is that number. -/
theorem Double.units_div_eq_iff (units n : ℤ) :
    (units : ℚ) / (unitsPerOne : ℚ) = (n : ℚ) ↔
      units % unitsPerOne = 0 ∧ units / unitsPerOne = n := by
  have positive := unitsPerOne_pos
  generalize unitsPerOne = one at positive ⊢
  have nonzero : (one : ℚ) ≠ 0 := by exact_mod_cast positive.ne'
  rw [div_eq_iff nonzero]
  constructor
  · intro scaled
    have unitsEq : units = n * one := by exact_mod_cast scaled
    subst unitsEq
    have oneNe : (one : ℤ) ≠ 0 := by exact_mod_cast positive.ne'
    exact ⟨Int.mul_emod_left _ _, Int.mul_ediv_cancel _ oneNe⟩
  · rintro ⟨whole, quotient⟩
    have unitsEq : units = n * one := by
      rw [← quotient]
      exact (Int.ediv_mul_cancel (Int.dvd_of_emod_eq_zero whole)).symm
    exact_mod_cast unitsEq

theorem Double.toInt?_eq_some_iff (x : Double) (n : ℤ) :
    x.toInt? = some n ↔ x.value? = some (n : ℚ) := by
  unfold toInt? value?
  cases x.isFinite with
  | false =>
      simp only [Bool.false_and, Bool.false_eq_true, if_false, reduceCtorEq]
  | true =>
      simp only [Bool.true_and, beq_iff_eq, if_true,
        Option.ite_none_right_eq_some, Option.some.injEq, units_div_eq_iff]

theorem Number.toInt?_eq_some_iff (value : Number) (n : ℤ) :
    value.toInt? = some n ↔ value.value? = some (n : ℚ) := by
  cases value with
  | integer m => simp [toInt?, value?]
  | real x => exact x.toInt?_eq_some_iff n

end ActuatorBus
