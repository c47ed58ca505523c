import ActuatorBus.Proofs.Binary.Addition
import ActuatorBus.Proofs.Binary.Casts
import Mathlib.Algebra.Order.Field.Basic

/-!
# Rounding keeps the order

A greater number is not rounded to a smaller one, so that quotients and sums
keep the order of what they are made of. A quotient, a sum and the double of an
integer are what the exact result is rounded to (`Double.Rounds`), and nothing
else about them is needed.
-/

namespace ActuatorBus

namespace BinaryFormat

variable {F : BinaryFormat} {number greater : ℚ} {magnitude other : Nat}

/-- What is at least as near as something smaller lies above halfway. -/
theorem halfway_le {near far : ℚ} (smaller : far < near)
    (nearer : |near - number| ≤ |far - number|) : near + far ≤ 2 * number := by
  rcases abs_cases (near - number) with ⟨size, _⟩ | ⟨size, _⟩ <;>
    rcases abs_cases (far - number) with ⟨size', _⟩ | ⟨size', _⟩ <;>
      linarith

/-- What is at least as near as something greater lies below halfway. -/
theorem le_halfway {near far : ℚ} (larger : near < far)
    (nearer : |near - number| ≤ |far - number|) : 2 * number ≤ near + far := by
  rcases abs_cases (near - number) with ⟨size, _⟩ | ⟨size, _⟩ <;>
    rcases abs_cases (far - number) with ⟨size', _⟩ | ⟨size', _⟩ <;>
      linarith

/-- A greater number is not rounded to a smaller one. If it were, both numbers
would be halfway between the results, and the results even, with another
magnitude between them that is nearer. -/
theorem Nearest.mono (order : number ≤ greater)
    (nearest : F.Nearest number magnitude)
    (nearest' : F.Nearest greater other) : magnitude ≤ other := by
  by_contra decreasing
  have less : other < magnitude := Nat.lt_of_not_le decreasing
  have valueLt := F.value_strictMono less
  have above := halfway_le valueLt (nearest.nearest other nearest'.bounded)
  have below := le_halfway valueLt
    (nearest'.nearest magnitude nearest.bounded)
  have same : greater = number := by linarith
  subst same
  have asNear : |F.value other - greater| = |F.value magnitude - greater| :=
    le_antisymm (nearest'.nearest magnitude nearest.bounded)
      (nearest.nearest other nearest'.bounded)
  have even := nearest.even other nearest'.bounded less.ne asNear
  have even' :=
    nearest'.even magnitude nearest.bounded less.ne' asNear.symm
  have lower := F.value_strictMono (show other < other + 1 by omega)
  have upper := F.value_strictMono (show other + 1 < magnitude by omega)
  have between := nearest.nearest (other + 1)
    (by have := nearest.bounded; omega)
  have size : |F.value magnitude - greater| =
      F.value magnitude - greater := abs_of_nonneg (by linarith)
  rw [size] at between
  rcases abs_cases (F.value (other + 1) - greater) with ⟨gap, _⟩ | ⟨gap, _⟩ <;>
    linarith

/-- A number of the format is rounded to itself. -/
theorem nearest_value (bounded : magnitude ≤ F.infinityWord) :
    F.Nearest (F.value magnitude) magnitude := by
  refine ⟨bounded, ?_, ?_⟩
  · intro other _
    rw [sub_self, abs_zero]
    exact abs_nonneg _
  · intro other _ different same
    rw [sub_self, abs_zero, abs_eq_zero, sub_eq_zero] at same
    exact absurd (F.value_strictMono.injective same) different

theorem value_zero (F : BinaryFormat) : F.value 0 = 0 := by
  have none : F.units 0 = 0 := by
    unfold units
    simp
  rw [value, none, Nat.cast_zero, zero_div]

end BinaryFormat

namespace Double

variable {x y : Double} {number greater : ℚ}

/-- A number is rounded to a double. Which of the two zeros that is does not
matter. -/
structure Rounds (number : ℚ) (x : Double) : Prop where
  nearest : BinaryFormat.double.Nearest |number| x.magnitude
  negative : number < 0 → x.isNegative = true
  positive : 0 < number → x.isNegative = false

namespace Rounds

theorem isNaN (rounds : Rounds number x) : x.isNaN = false :=
  decide_eq_false (Nat.not_lt.2 rounds.nearest.bounded)

theorem magnitude_of_zero (rounds : Rounds 0 x) : x.magnitude = 0 := by
  have atZero := BinaryFormat.double.value_zero ▸
    BinaryFormat.nearest_value (F := BinaryFormat.double) (Nat.zero_le _)
  have nearest := rounds.nearest
  rw [abs_zero] at nearest
  exact Nat.le_zero.1 (nearest.mono (le_refl _) atZero)

theorem rank_eq (rounds : Rounds number x) :
    x.rank = if number < 0 then -(x.magnitude : Int) else x.magnitude := by
  rcases lt_trichotomy number 0 with negative | rfl | positive
  · rw [rank, rounds.negative negative, if_pos rfl, if_pos negative]
  · rw [rank, rounds.magnitude_of_zero]
    simp
  · rw [rank, rounds.positive positive, if_neg (by decide),
      if_neg (not_lt.2 positive.le)]

theorem rank_le (order : number ≤ greater) (rounds : Rounds number x)
    (rounds' : Rounds greater y) : x.rank ≤ y.rank := by
  rw [rounds.rank_eq, rounds'.rank_eq]
  by_cases negative' : greater < 0
  · have negative : number < 0 := lt_of_le_of_lt order negative'
    have sizes : |greater| ≤ |number| := by
      rw [abs_of_neg negative, abs_of_neg negative']
      exact neg_le_neg order
    have magnitudes := rounds'.nearest.mono sizes rounds.nearest
    rw [if_pos negative, if_pos negative']
    omega
  · rw [if_neg negative']
    by_cases negative : number < 0
    · rw [if_pos negative]
      omega
    · have sizes : |number| ≤ |greater| := by
        rw [abs_of_nonneg (not_lt.1 negative),
          abs_of_nonneg (not_lt.1 negative')]
        exact order
      have magnitudes := rounds.nearest.mono sizes rounds'.nearest
      rw [if_neg negative]
      omega

/-- Rounding keeps the order. -/
theorem le (order : number ≤ greater) (rounds : Rounds number x)
    (rounds' : Rounds greater y) : x.le y = true := by
  simp [Double.le, rounds.isNaN, rounds'.isNaN, rank_le order rounds rounds']

end Rounds

/-! ## Units and values -/

theorem isNegative_of_units_neg (negative : x.units < 0) :
    x.isNegative = true := by
  by_contra positive
  rw [units, if_neg positive] at negative
  omega

theorem isNegative_of_units_pos (positive : 0 < x.units) :
    x.isNegative = false := by
  by_contra negative
  rw [units, if_pos (eq_true_of_ne_false negative)] at positive
  omega

theorem natAbs_units (x : Double) :
    x.units.natAbs = BinaryFormat.double.units x.magnitude := by
  unfold units
  simp only
  split
  · rw [Int.natAbs_neg, Int.natAbs_natCast]
  · rw [Int.natAbs_natCast]

theorem value?_of_finite (finite : x.isFinite = true) :
    x.value? = some ((x.units : ℚ) / (unitsPerOne : ℚ)) :=
  if_pos finite

theorem value?_eq_some (valueEq : x.value? = some number) :
    x.isFinite = true ∧ number = (x.units : ℚ) / (unitsPerOne : ℚ) := by
  unfold value? at valueEq
  rw [Option.ite_none_right_eq_some] at valueEq
  exact ⟨valueEq.1, (Option.some.inj valueEq.2).symm⟩

/-- The units of finite doubles are in the order of the ranks. -/
theorem units_le_of_rank_le (order : x.rank ≤ y.rank) : x.units ≤ y.units := by
  have ordered : ∀ {lower upper : Nat}, lower ≤ upper →
      BinaryFormat.double.units lower ≤ BinaryFormat.double.units upper :=
    fun le => BinaryFormat.double.units_strictMono.monotone le
  unfold rank at order
  unfold units
  simp only
  cases sign : x.isNegative <;> cases sign' : y.isNegative <;>
    simp only [sign, sign', Bool.false_eq_true, if_true, if_false]
      at order ⊢
  · have := ordered (show x.magnitude ≤ y.magnitude by omega)
    omega
  · -- Only two zeros are in this order.
    have none : x.magnitude = 0 := by omega
    have none' : y.magnitude = 0 := by omega
    rw [none, none']
    decide
  · omega
  · have := ordered (show y.magnitude ≤ x.magnitude by omega)
    omega

theorem value_le_of_rank_le (order : x.rank ≤ y.rank)
    (valueEq : x.value? = some number) (valueEq' : y.value? = some greater) :
    number ≤ greater := by
  obtain ⟨_, rfl⟩ := value?_eq_some valueEq
  obtain ⟨_, rfl⟩ := value?_eq_some valueEq'
  exact div_le_div_of_nonneg_right
    (Int.cast_le.2 (units_le_of_rank_le order)) (Nat.cast_nonneg _)

/-! ## What operations round to -/

theorem rounds_nearest {negative : Bool} {units : Int} {denominator : Nat}
    (positive : 0 < denominator) (below : units < 0 → negative = true)
    (above : 0 < units → negative = false) :
    Rounds ((units : ℚ) / ((denominator * unitsPerOne : Nat) : ℚ))
      (nearest negative units.natAbs denominator) := by
  have scale : (0 : ℚ) < ((denominator * unitsPerOne : Nat) : ℚ) := by
    exact_mod_cast Nat.mul_pos positive unitsPerOne_pos
  have size : |(units : ℚ) / ((denominator * unitsPerOne : Nat) : ℚ)| =
      BinaryFormat.double.ofUnits units.natAbs denominator := by
    rw [abs_div, abs_of_pos scale]
    unfold BinaryFormat.ofUnits unitsPerOne
    generalize Nat.pow 2 BinaryFormat.double.unitPlaces = unit
    rw [Nat.cast_natAbs, Int.cast_abs]
  have sign := isNegative_nearest negative units.natAbs denominator
  refine ⟨?_, ?_, ?_⟩
  · rw [size, magnitude_nearest]
    exact BinaryFormat.roundUnits_nearest (by decide) positive
  · intro low
    rw [sign]
    apply below
    rw [div_lt_iff₀ scale, zero_mul] at low
    exact Int.cast_lt_zero.1 low
  · intro high
    rw [sign]
    apply above
    rw [lt_div_iff₀ scale, zero_mul] at high
    exact Int.cast_pos.1 high

theorem rounds_ofInt? {n : Int} (nearestEq : ofInt? n = some x) :
    Rounds (n : ℚ) x := by
  cases standsFor_ofInt? nearestEq with
  | integer sign nearest =>
      refine ⟨nearest, ?_, ?_⟩
      · intro negative
        rw [sign]
        exact decide_eq_true (Int.cast_lt_zero.1 negative)
      · intro positive
        rw [sign]
        have := Int.cast_pos.1 positive
        exact decide_eq_false (by omega)

theorem isFinite_of_ofInt? {n : Int} (nearestEq : ofInt? n = some x) :
    x.isFinite = true := by
  unfold ofInt? at nearestEq
  simp only [Option.ite_none_right_eq_some, Option.some.injEq] at nearestEq
  obtain ⟨finite, rfl⟩ := nearestEq
  exact finite

theorem rounds_value? (valueEq : x.value? = some number) :
    Rounds number x := by
  obtain ⟨finite, rfl⟩ := value?_eq_some valueEq
  have onePos : (0 : ℚ) < (unitsPerOne : ℚ) := by
    exact_mod_cast unitsPerOne_pos
  have size : |(x.units : ℚ) / (unitsPerOne : ℚ)| =
      BinaryFormat.double.value x.magnitude := by
    rw [abs_div, abs_of_pos onePos, ← Int.cast_abs, Int.abs_eq_natAbs,
      Int.cast_natCast, natAbs_units]
    unfold BinaryFormat.value unitsPerOne
    generalize Nat.pow 2 BinaryFormat.double.unitPlaces = unit
    rfl
  have bounded : x.magnitude < BinaryFormat.double.infinityWord :=
    of_decide_eq_true finite
  refine ⟨?_, ?_, ?_⟩
  · rw [size]
    exact BinaryFormat.nearest_value bounded.le
  · intro low
    rw [div_lt_iff₀ onePos, zero_mul] at low
    exact isNegative_of_units_neg (Int.cast_lt_zero.1 low)
  · intro high
    rw [lt_div_iff₀ onePos, zero_mul] at high
    exact isNegative_of_units_pos (Int.cast_pos.1 high)

/-- A quotient is rounded once. -/
theorem rounds_div (valueEq : x.value? = some number)
    (valueEq' : y.value? = some greater) (positive : 0 < greater) :
    Rounds (number / greater) (x.div y) := by
  obtain ⟨finite, rfl⟩ := value?_eq_some valueEq
  obtain ⟨finite', rfl⟩ := value?_eq_some valueEq'
  obtain ⟨valid, bounded⟩ := number_of_finite finite
  obtain ⟨valid', bounded'⟩ := number_of_finite finite'
  have onePos : (0 : ℚ) < (unitsPerOne : ℚ) := by
    exact_mod_cast unitsPerOne_pos
  rw [lt_div_iff₀ onePos, zero_mul] at positive
  have unitsPos : 0 < y.units := Int.cast_pos.1 positive
  have sign' := isNegative_of_units_pos unitsPos
  have quotient : x.div y =
      nearest x.isNegative (x.units * unitsPerOne).natAbs y.units.natAbs := by
    rw [div, valid, valid', bounded, bounded', sign', Int.natAbs_mul,
      Int.natAbs_natCast]
    simp [unitsPos.ne']
  have units : ((y.units.natAbs : Nat) : ℚ) = y.units := by
    rw [Nat.cast_natAbs, abs_of_pos unitsPos]
  have value : (x.units : ℚ) / unitsPerOne / (y.units / unitsPerOne) =
      ((x.units * unitsPerOne : Int) : ℚ) /
        ((y.units.natAbs * unitsPerOne : Nat) : ℚ) := by
    rw [div_div_div_cancel_right₀ onePos.ne', Int.cast_mul, Nat.cast_mul,
      units, Int.cast_natCast, mul_div_mul_right _ _ onePos.ne']
  have unitsPerOnePos : (0 : Int) < unitsPerOne := by
    exact_mod_cast unitsPerOne_pos
  rw [quotient, value]
  apply rounds_nearest (Int.natAbs_pos.2 unitsPos.ne')
  · intro low
    exact isNegative_of_units_neg (neg_of_mul_neg_left low unitsPerOnePos.le)
  · intro high
    exact isNegative_of_units_pos
      (pos_of_mul_pos_left high unitsPerOnePos.le)

/-- A sum is rounded once. -/
theorem rounds_add (valueEq : x.value? = some number)
    (valueEq' : y.value? = some greater) :
    Rounds (number + greater) (x.add y) := by
  obtain ⟨finite, rfl⟩ := value?_eq_some valueEq
  obtain ⟨finite', rfl⟩ := value?_eq_some valueEq'
  obtain ⟨valid, bounded⟩ := number_of_finite finite
  obtain ⟨valid', bounded'⟩ := number_of_finite finite'
  have value : (x.units : ℚ) / unitsPerOne + y.units / unitsPerOne =
      ((x.units + y.units : Int) : ℚ) / ((1 * unitsPerOne : Nat) : ℚ) := by
    rw [Nat.one_mul, Int.cast_add, add_div]
  rw [value]
  simp only [add, valid, valid', bounded, bounded', Bool.or_self,
    Bool.false_eq_true, if_false]
  generalize x.units + y.units = sum
  by_cases cancelled : sum = 0
  · subst cancelled
    exact rounds_nearest Nat.one_pos (fun low => absurd low (by decide))
      fun high => absurd high (by decide)
  · rw [if_neg cancelled]
    exact rounds_nearest Nat.one_pos decide_eq_true fun high =>
      decide_eq_false (by omega)

/-- What is divided by one or more stays finite. -/
theorem isFinite_div (valueEq : x.value? = some number)
    (valueEq' : y.value? = some greater) (atLeast : 1 ≤ greater) :
    (x.div y).isFinite = true := by
  have positive : 0 < greater := lt_of_lt_of_le one_pos atLeast
  have smaller : |number / greater| ≤ |number| := by
    rw [abs_div, abs_of_pos positive]
    exact div_le_self (abs_nonneg number) atLeast
  have magnitudes := (rounds_div valueEq valueEq' positive).nearest.mono
    smaller (rounds_value? valueEq).nearest
  have bounded : x.magnitude < BinaryFormat.double.infinityWord :=
    of_decide_eq_true (value?_eq_some valueEq).1
  exact decide_eq_true (lt_of_le_of_lt magnitudes bounded)

theorem lt_eq_false_of_le (order : x.le y = true) : y.lt x = false := by
  simp only [le, Bool.and_eq_true, decide_eq_true_eq] at order
  simp [lt, order.2]

theorem add_invalid (invalid : y.isNaN = true) : x.add y = nan := by
  rw [add, invalid, Bool.or_true, if_pos rfl]

theorem add_infinite (finite : x.isFinite = true) (valid : y.isNaN = false)
    (infinite : y.isInfinite = true) : x.add y = y := by
  obtain ⟨validX, bounded⟩ := number_of_finite finite
  simp [add, validX, bounded, valid, infinite]

/-- Adding the same number to two finite doubles keeps their order. -/
theorem add_le_add_right (finite : x.isFinite = true)
    (finite' : y.isFinite = true) (order : x.le y = true) {z : Double}
    (valid : z.isNaN = false) : (x.add z).le (y.add z) = true := by
  rcases finite_or_infinite valid with bounded | infinite
  · have ranks : x.rank ≤ y.rank := by
      simp only [le, Bool.and_eq_true, decide_eq_true_eq] at order
      exact order.2
    have values := value_le_of_rank_le ranks (value?_of_finite finite)
      (value?_of_finite finite')
    exact Rounds.le (add_le_add_left values _)
      (rounds_add (value?_of_finite finite) (value?_of_finite bounded))
      (rounds_add (value?_of_finite finite') (value?_of_finite bounded))
  · rw [add_infinite finite valid infinite,
      add_infinite finite' valid infinite]
    simp [le, valid]

end Double

end ActuatorBus
