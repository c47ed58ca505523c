import ActuatorBus.Proofs.Binary.Conversion

/-!
# Sums

Doubles concur if they are the same number, where the two zeros count as one,
or if neither is a number. Sums of doubles that concur concur. A zero leaves
every other number as it is, and what it leaves as it is stays so whatever is
added.
-/

namespace ActuatorBus

namespace BinaryFormat

variable {F : BinaryFormat}

/-- What is not zero is not rounded to zero. -/
theorem roundUnits_pos {numerator : Nat} (positive : 0 < numerator)
    (some : 0 < F.infinityWord) : 0 < F.roundUnits numerator 1 := by
  unfold roundUnits
  simp only [Nat.div_one]
  apply Nat.lt_min.2
  refine ⟨some, ?_⟩
  cases shifted : numerator.log2 - F.fractionBits with
  | zero =>
      have exact := roundHalfEven_exact numerator (Nat.one_pos)
      rw [Nat.mul_one] at exact
      rw [Nat.zero_mul, Nat.zero_add, Nat.shiftLeft_zero, exact]
      exact positive
  | succ shift =>
      exact Nat.add_pos_left
        (Nat.mul_pos (Nat.succ_pos shift) (Nat.two_pow_pos _)) _

end BinaryFormat

namespace Double

/-! ## Signs and magnitudes -/

theorem word_lt (x : Double) :
    x.word < BinaryFormat.double.signWord + BinaryFormat.double.signWord :=
  x.bits.toNat_lt

/-- A double is made of its sign and its magnitude. -/
theorem ofWord_parts (x : Double) :
    ofWord (BinaryFormat.double.ofSign x.isNegative x.magnitude) = x := by
  rw [isNegative, magnitude, BinaryFormat.ofSign_isNegative x.word_lt, ofWord,
    word, UInt64.ofNat_toNat]

theorem eq_of_parts {x y : Double} (signs : x.isNegative = y.isNegative)
    (magnitudes : x.magnitude = y.magnitude) : x = y := by
  rw [← ofWord_parts x, ← ofWord_parts y, signs, magnitudes]

theorem magnitude_neg (x : Double) : x.neg.magnitude = x.magnitude := by
  have mask : BinaryFormat.double.signWord = 2 ^ 63 := by decide
  simp only [magnitude, BinaryFormat.magnitude, word, neg, mask,
    UInt64.toNat_xor, Nat.xor_mod_two_pow]
  exact Nat.xor_zero _

theorem isNaN_neg (x : Double) : x.neg.isNaN = x.isNaN :=
  congrArg (decide <| BinaryFormat.double.infinityWord < ·) x.magnitude_neg

variable {x y z : Double}

theorem magnitude_nearest_zero (negative : Bool) :
    (nearest negative 0 1).magnitude = 0 :=
  (parts_ofSign negative (by decide)).1

theorem number_of_finite (finite : x.isFinite = true) :
    x.isNaN = false ∧ x.isInfinite = false := by
  have bounded : x.magnitude < BinaryFormat.double.infinityWord :=
    of_decide_eq_true finite
  exact ⟨decide_eq_false (Nat.not_lt.2 (Nat.le_of_lt bounded)),
    beq_false_of_ne (Nat.ne_of_lt bounded)⟩

theorem finite_or_infinite (valid : x.isNaN = false) :
    x.isFinite = true ∨ x.isInfinite = true := by
  have bounded : ¬ BinaryFormat.double.infinityWord < x.magnitude :=
    of_decide_eq_false valid
  rcases Nat.lt_or_eq_of_le (Nat.not_lt.1 bounded) with less | equal
  · exact Or.inl (decide_eq_true less)
  · exact Or.inr (beq_iff_eq.2 equal)

/-- A zero is finite and has no units. -/
theorem kind_of_zero (empty : x.magnitude = 0) :
    x.isNaN = false ∧ x.isInfinite = false ∧ x.units = 0 := by
  have noUnits : BinaryFormat.double.units 0 = 0 := by decide
  have finite : x.isFinite = true := by
    apply decide_eq_true
    show x.magnitude < BinaryFormat.double.infinityWord
    rw [empty]
    decide
  obtain ⟨valid, bounded⟩ := number_of_finite finite
  refine ⟨valid, bounded, ?_⟩
  rw [units, empty, noUnits]
  exact ite_self _

/-! ## Doubles that concur -/

/-- Two doubles are the same number, or neither is one. -/
def Concurs (x y : Double) : Prop :=
  x.same y = true ∨ x.isNaN = true ∧ y.isNaN = true

theorem concurs_refl (x : Double) : x.Concurs x := by
  by_cases invalid : x.isNaN = true
  · exact Or.inr ⟨invalid, invalid⟩
  · exact Or.inl (by simp [same, invalid])

theorem concurs_of_zeros (first : x.magnitude = 0)
    (second : y.magnitude = 0) : x.Concurs y := by
  left
  simp [same, rank, first, second, (kind_of_zero first).1,
    (kind_of_zero second).1]

theorem Concurs.trans (first : x.Concurs y) (second : y.Concurs z) :
    x.Concurs z := by
  simp only [Concurs, same, Bool.and_eq_true, Bool.not_eq_true',
    beq_iff_eq] at *
  rcases first with ⟨⟨xValid, yValid⟩, ranks⟩ | ⟨xInvalid, yInvalid⟩
  · rcases second with ⟨⟨_, zValid⟩, more⟩ | ⟨yInvalid, _⟩
    · exact Or.inl ⟨⟨xValid, zValid⟩, ranks.trans more⟩
    · exact absurd yInvalid (by simp [yValid])
  · rcases second with ⟨⟨yValid, _⟩, _⟩ | ⟨_, zInvalid⟩
    · exact absurd yInvalid (by simp [yValid])
    · exact Or.inr ⟨xInvalid, zInvalid⟩

/-- Only zeros, and what is no number, concur with something else. -/
theorem Concurs.eq_or (concur : x.Concurs y) :
    x = y ∨ (x.magnitude = 0 ∧ y.magnitude = 0) ∨
      (x.isNaN = true ∧ y.isNaN = true) := by
  rcases concur with same | invalid
  · simp only [Double.same, Bool.and_eq_true, beq_iff_eq, rank] at same
    obtain ⟨_, ranks⟩ := same
    by_cases signs : x.isNegative = y.isNegative
    · left
      apply eq_of_parts signs
      rw [signs] at ranks
      split at ranks <;> omega
    · right
      left
      split at ranks <;> split at ranks
      · exact absurd (by simp [*]) signs
      · omega
      · omega
      · exact absurd (by simp [*]) signs
  · exact Or.inr (Or.inr invalid)

theorem Concurs.neg (concur : x.Concurs y) : x.neg.Concurs y.neg := by
  rcases concur.eq_or with rfl | ⟨first, second⟩ | ⟨first, second⟩
  · exact concurs_refl _
  · exact concurs_of_zeros (by rw [magnitude_neg, first])
      (by rw [magnitude_neg, second])
  · exact Or.inr ⟨by rw [isNaN_neg, first], by rw [isNaN_neg, second]⟩

theorem Concurs.add_right (concur : x.Concurs y) (z : Double) :
    (x.add z).Concurs (y.add z) := by
  rcases concur.eq_or with rfl | ⟨first, second⟩ | ⟨first, second⟩
  · exact concurs_refl _
  · simp only [add, kind_of_zero first, kind_of_zero second, Bool.false_or,
      Bool.false_eq_true, if_false, Int.zero_add]
    split
    · exact concurs_refl _
    · split
      · exact concurs_refl _
      · split
        · exact concurs_of_zeros (magnitude_nearest_zero _)
            (magnitude_nearest_zero _)
        · exact concurs_refl _
  · simp only [add, first, second, Bool.true_or, if_true]
    exact concurs_refl _

theorem Concurs.add_left (concur : x.Concurs y) (z : Double) :
    (z.add x).Concurs (z.add y) := by
  rcases concur.eq_or with rfl | ⟨first, second⟩ | ⟨first, second⟩
  · exact concurs_refl _
  · simp only [add, kind_of_zero first, kind_of_zero second, Bool.or_false,
      Bool.false_and, Bool.false_eq_true, if_false, Int.add_zero]
    split
    · exact concurs_refl _
    · split
      · exact concurs_refl _
      · split
        · exact concurs_of_zeros (magnitude_nearest_zero _)
            (magnitude_nearest_zero _)
        · exact concurs_refl _
  · simp only [add, first, second, Bool.or_true, if_true]
    exact concurs_refl _

theorem Concurs.lt_eq (concur : x.Concurs y) (z : Double) :
    z.lt x = z.lt y := by
  simp only [Concurs, same, Bool.and_eq_true, Bool.not_eq_true',
    beq_iff_eq] at concur
  rcases concur with ⟨⟨xValid, yValid⟩, ranks⟩ | ⟨xInvalid, yInvalid⟩
  · simp [lt, xValid, yValid, ranks]
  · simp [lt, xInvalid, yInvalid]

/-! ## Adding a zero -/

theorem nearest_units (finite : x.magnitude < BinaryFormat.double.infinityWord)
    (nonzero : x.magnitude ≠ 0) :
    x.units ≠ 0 ∧ nearest (x.units < 0) x.units.natAbs 1 = x := by
  have rounded := BinaryFormat.roundUnits_units finite
  have parts := ofWord_parts x
  have some : BinaryFormat.double.units x.magnitude ≠ 0 := by
    intro none
    rw [none] at rounded
    exact nonzero (rounded.symm.trans (by decide))
  cases sign : x.isNegative with
  | false =>
      rw [sign] at parts
      have unitsEq : x.units = BinaryFormat.double.units x.magnitude := by
        simp [units, sign]
      refine ⟨by omega, ?_⟩
      rw [unitsEq, nearest, Int.natAbs_natCast, rounded,
        decide_eq_false (by omega)]
      exact parts
  | true =>
      rw [sign] at parts
      have unitsEq : x.units = -BinaryFormat.double.units x.magnitude := by
        simp [units, sign]
      refine ⟨by omega, ?_⟩
      rw [unitsEq, nearest, Int.natAbs_neg, Int.natAbs_natCast, rounded,
        decide_eq_true (by omega)]
      exact parts

theorem add_zero (number : x.isNaN = false) (nonzero : x.magnitude ≠ 0) :
    x.add zero = x := by
  obtain ⟨valid, finite, noUnits⟩ := kind_of_zero (x := zero) (by decide)
  rcases finite_or_infinite number with bounded | infinite
  · obtain ⟨some, rounded⟩ :=
      nearest_units (of_decide_eq_true bounded) nonzero
    simp [add, number, valid, (number_of_finite bounded).2, finite, noUnits,
      some, rounded]
  · simp [add, number, valid, infinite, finite]

theorem concurs_add_zero (x : Double) : x.Concurs (x.add zero) := by
  by_cases number : x.isNaN = false
  · by_cases empty : x.magnitude = 0
    · apply concurs_of_zeros empty
      obtain ⟨valid, finite, noUnits⟩ := kind_of_zero empty
      obtain ⟨valid', finite', noUnits'⟩ := kind_of_zero (x := zero) (by decide)
      simp [add, valid, finite, noUnits, valid', finite', noUnits',
        magnitude_nearest_zero]
    · rw [add_zero number empty]
      exact concurs_refl x
  · have invalid := eq_true_of_ne_false number
    right
    refine ⟨invalid, ?_⟩
    simp only [add, invalid, Bool.true_or, if_true]
    rfl

/-- Adding a zero leaves it as it is: it is no negative zero, and `nan` if it
is no number. -/
def Settled (x : Double) : Prop := x.add zero = x

instance (x : Double) : Decidable x.Settled :=
  inferInstanceAs (Decidable (x.add zero = x))

theorem settled_nearest {negative : Bool} {numerator : Nat}
    (some : 0 < numerator) : (nearest negative numerator 1).Settled := by
  have bound : BinaryFormat.double.roundUnits numerator 1 ≤
      BinaryFormat.double.infinityWord := Nat.min_le_left _ _
  have positive := BinaryFormat.roundUnits_pos
    (F := BinaryFormat.double) some (by decide)
  have magnitudeEq : (nearest negative numerator 1).magnitude =
      BinaryFormat.double.roundUnits numerator 1 :=
    (parts_ofSign negative
      (Nat.lt_of_le_of_lt bound (BinaryFormat.infinityWord_lt _))).1
  apply add_zero
  · apply decide_eq_false
    show ¬ BinaryFormat.double.infinityWord <
      (nearest negative numerator 1).magnitude
    omega
  · omega

/-- A sum of two negative numbers is not zero if the first is no zero. -/
theorem Settled.positive_of_cancelled (settled : x.Settled)
    (valid : x.isNaN = false) (finite : x.isInfinite = false)
    (cancelled : x.units + y.units = 0) :
    (x.isNegative && y.isNegative) = false := by
  rw [Bool.and_eq_false_iff]
  by_cases positive : y.isNegative = false
  · exact Or.inr positive
  · left
    rw [Bool.eq_false_iff]
    intro negative
    have noUnits : x.units = 0 := by
      have lowX : x.units ≤ 0 := by simp [units, negative]
      have lowY : y.units ≤ 0 := by
        simp [units, eq_true_of_ne_false positive]
      omega
    obtain ⟨valid', finite', noUnits'⟩ := kind_of_zero (x := zero) (by decide)
    have sign : zero.isNegative = false := by decide
    simp only [Settled, Double.add, valid, finite, valid', finite', noUnits,
      noUnits', sign, Bool.or_false, Bool.false_eq_true, if_false, Int.add_zero,
      if_true, Bool.and_false] at settled
    rw [← settled] at negative
    exact absurd negative (by decide)

theorem Settled.add (settled : x.Settled) (y : Double) :
    (x.add y).Settled := by
  by_cases invalid : (x.isNaN || y.isNaN) = true
  · rw [Double.add, if_pos invalid]
    decide
  · obtain ⟨valid, validY⟩ : x.isNaN = false ∧ y.isNaN = false := by
      simpa using invalid
    rw [Double.add, if_neg invalid]
    by_cases infinite : x.isInfinite = true
    · rw [if_pos infinite]
      split
      · decide
      · exact settled
    · rw [if_neg infinite]
      by_cases infiniteY : y.isInfinite = true
      · rw [if_pos infiniteY]
        have magnitudeEq :
            y.magnitude = BinaryFormat.double.infinityWord :=
          beq_iff_eq.1 infiniteY
        exact add_zero validY (by rw [magnitudeEq]; decide)
      · rw [if_neg infiniteY]
        by_cases cancelled : x.units + y.units = 0
        · -- The sum is a zero. It would be the negative one only if both
          -- numbers were negative.
          have sign := settled.positive_of_cancelled valid
            (Bool.eq_false_iff.2 infinite) cancelled
          simp only [cancelled, if_true, sign]
          decide
        · simp only [cancelled, if_false]
          exact settled_nearest (Int.natAbs_pos.2 cancelled)

end Double

end ActuatorBus
