import ActuatorBus.Proofs.Binary.Nearest

/-!
# Casts between formats

A word is cast to a narrower format by rounding it to the nearest number, the
even one of two, with the infinity beyond the greatest and the subnormal numbers
below the least normal one; and to a wider format without any loss.
-/

namespace ActuatorBus

namespace BinaryFormat

variable {source target : BinaryFormat} {word : Nat}

/-- The value of a word, if it is finite. -/
def value? (F : BinaryFormat) (word : Nat) : Option ℚ :=
  let size := F.value (F.magnitude word)
  if F.isFinite word then some (if F.isNegative word then -size else size)
  else none

/-- What a cast makes of a word by rounding. -/
structure Rounded (source target : BinaryFormat) (word result : Nat) :
    Prop where
  sign : target.isNegative result = source.isNegative word
  nearest : ∀ number, source.value? word = some number →
    target.Nearest |number| (target.magnitude result)
  infinite : source.isInfinite word = true → target.isInfinite result = true
  invalid : source.isNaN word = true → target.isNaN result = true
  canonical : word = source.infinityWord + source.quietBit →
    result = target.infinityWord + target.quietBit

/-- What a cast makes of a word without rounding. -/
structure Exact (source target : BinaryFormat) (word result : Nat) :
    Prop where
  sign : target.isNegative result = source.isNegative word
  value : target.value? result = source.value? word
  infinite : target.isInfinite result = source.isInfinite word

theorem value_nonneg (F : BinaryFormat) (magnitude : Nat) :
    0 ≤ F.value magnitude :=
  div_nonneg (Nat.cast_nonneg _) (Nat.cast_nonneg _)

theorem value?_eq_some {F : BinaryFormat} {number : ℚ}
    (valueEq : F.value? word = some number) :
    F.magnitude word < F.infinityWord ∧
      |number| = F.value (F.magnitude word) := by
  have nonneg := F.value_nonneg (F.magnitude word)
  unfold value? at valueEq
  simp only [Option.ite_none_right_eq_some, Option.some.injEq] at valueEq
  obtain ⟨finite, rfl⟩ := valueEq
  refine ⟨of_decide_eq_true finite, ?_⟩
  cases F.isNegative word with
  | false => exact abs_of_nonneg nonneg
  | true => exact (abs_neg _).trans (abs_of_nonneg nonneg)

theorem value?_eq_none {F : BinaryFormat}
    (infinite : F.magnitude word = F.infinityWord) : F.value? word = none := by
  have unbounded : ¬ F.isFinite word = true := by
    intro finite
    have below : F.magnitude word < F.infinityWord := of_decide_eq_true finite
    omega
  exact if_neg unbounded

/-- The units of one format as units of another. -/
theorem ofUnits_units (source target : BinaryFormat) (magnitude : Nat) :
    target.ofUnits (source.units magnitude * Nat.pow 2 target.unitPlaces)
        (Nat.pow 2 source.unitPlaces) =
      source.value magnitude := by
  have nonzero : ((Nat.pow 2 target.unitPlaces : Nat) : ℚ) ≠ 0 := by
    exact_mod_cast (Nat.two_pow_pos target.unitPlaces).ne'
  rw [ofUnits, value, Nat.cast_mul, Nat.cast_mul, mul_div_mul_right _ _ nonzero]

theorem convert_canonical (sourceBits : 0 < source.fractionBits)
    (targetBits : 0 < target.fractionBits) :
    source.convert target (source.infinityWord + source.quietBit) =
      target.infinityWord + target.quietBit := by
  have bit : source.quietBit < Nat.pow 2 source.fractionBits :=
    Nat.pow_lt_pow_right (by decide) (Nat.sub_lt sourceBits (by decide))
  have size := infinityWord_add source
  have inside : source.infinityWord + source.quietBit < source.signWord := by
    omega
  have isQuiet : source.IsQuiet (source.infinityWord + source.quietBit)
      source.quietBit :=
    ⟨Nat.mod_eq_of_lt inside, bit, Nat.or_self _⟩
  have positive : source.isNegative
      (source.infinityWord + source.quietBit) = false :=
    isNegative_ofSign false inside
  have moved : source.quietBit * Nat.pow 2 target.fractionBits /
      Nat.pow 2 source.fractionBits = target.quietBit := by
    have places : source.fractionBits - 1 + target.fractionBits =
        target.fractionBits - 1 + source.fractionBits := by omega
    rw [quietBit, quietBit, ← two_pow_add, places, two_pow_add]
    exact Nat.mul_div_cancel _ (Nat.two_pow_pos _)
  rw [convert_invalid isQuiet.isNaN, isQuiet.magnitude_mod, positive, moved,
    Nat.or_self]
  rfl

/-- Conversion rounds as a cast is meant to. -/
theorem rounded_convert (sourceBits : 0 < source.fractionBits)
    (targetBits : 0 < target.fractionBits) (word : Nat) :
    Rounded source target word (source.convert target word) where
  sign := source.isNegative_convert word targetBits
  nearest := by
    intro number valueEq
    obtain ⟨finite, sizeEq⟩ := value?_eq_some valueEq
    have rounded : target.Nearest
        (target.ofUnits
          (source.units (source.magnitude word) *
            Nat.pow 2 target.unitPlaces)
          (Nat.pow 2 source.unitPlaces))
        (target.roundUnits
          (source.units (source.magnitude word) *
            Nat.pow 2 target.unitPlaces)
          (Nat.pow 2 source.unitPlaces)) :=
      roundUnits_nearest targetBits (Nat.two_pow_pos source.unitPlaces)
    rw [ofUnits_units, ← sizeEq] at rounded
    rw [convert_finite finite, magnitude_ofSign _
      (Nat.lt_of_le_of_lt rounded.bounded (infinityWord_lt target))]
    exact rounded
  infinite := by
    intro infinite
    rw [convert_infinite (beq_iff_eq.1 infinite)]
    exact beq_iff_eq.2 (magnitude_ofSign _ (infinityWord_lt target))
  invalid := isNaN_convert targetBits
  canonical := by
    rintro rfl
    exact convert_canonical sourceBits targetBits

/-- Conversion to a wider format is exact. -/
theorem Widens.exact_convert {narrow wide : BinaryFormat}
    (widens : Widens narrow wide) (positive : 0 < narrow.fractionBits)
    (number : narrow.isNaN word = false) :
    Exact narrow wide word (narrow.convert wide word) := by
  have sign := narrow.isNegative_convert word
    (Nat.lt_of_lt_of_le positive widens.fraction)
  have bounded : narrow.magnitude word ≤ narrow.infinityWord :=
    Nat.not_lt.1 (of_decide_eq_false number)
  rcases Nat.lt_or_eq_of_le bounded with finite | infinite
  · obtain ⟨wideFinite, unitsEq⟩ := widens.roundUnits finite
    obtain ⟨more, moreEq⟩ := Nat.exists_eq_add_of_le widens.places
    have magnitudeEq :
        wide.magnitude (narrow.convert wide word) = wide.roundUnits
          (narrow.units (narrow.magnitude word) * Nat.pow 2 wide.unitPlaces)
          (Nat.pow 2 narrow.unitPlaces) := by
      rw [convert_finite finite, magnitude_ofSign _
        (Nat.lt_trans wideFinite (infinityWord_lt wide))]
    rw [← magnitudeEq] at wideFinite unitsEq
    refine ⟨sign, ?_, ?_⟩
    · have wideSize : wide.value (wide.magnitude (narrow.convert wide word)) =
          narrow.value (narrow.magnitude word) := by
        have nonzero : ((Nat.pow 2 more : Nat) : ℚ) ≠ 0 := by
          exact_mod_cast (Nat.two_pow_pos more).ne'
        rw [value, value, unitsEq, moreEq, Nat.add_sub_cancel_left, two_pow_add,
          Nat.cast_mul, Nat.cast_mul, mul_div_mul_right _ _ nonzero]
      have isFinite : narrow.isFinite word = true := decide_eq_true finite
      have wideIsFinite :
          wide.isFinite (narrow.convert wide word) = true :=
        decide_eq_true wideFinite
      simp only [value?, sign, wideSize, isFinite, wideIsFinite]
    · rw [isInfinite, isInfinite, beq_false_of_ne wideFinite.ne,
        beq_false_of_ne finite.ne]
  · have magnitudeEq :
        wide.magnitude (narrow.convert wide word) = wide.infinityWord := by
      rw [convert_infinite infinite,
        magnitude_ofSign _ (infinityWord_lt wide)]
    refine ⟨sign, ?_, ?_⟩
    · rw [value?_eq_none magnitudeEq, value?_eq_none infinite]
    · rw [isInfinite, isInfinite, magnitudeEq, infinite, beq_self_eq_true,
        beq_self_eq_true]

end BinaryFormat

/-! ## Numbers as doubles -/

/-- A double stands for a number: for itself, and for an integer if none is
nearer. -/
inductive Number.StandsFor : Double → Number → Prop
  | integer {x : Double} {n : Int} (sign : x.isNegative = decide (n < 0))
      (nearest : BinaryFormat.double.Nearest |(n : ℚ)| x.magnitude) :
      StandsFor x (.integer n)
  | real (x : Double) : StandsFor x (.real x)

theorem BinaryFormat.nearest_integer (F : BinaryFormat)
    (fraction : 0 < F.fractionBits) (n : Int) :
    F.Nearest |(n : ℚ)|
      (F.roundUnits (n.natAbs * Nat.pow 2 F.unitPlaces) 1) := by
  have size : F.ofUnits (n.natAbs * Nat.pow 2 F.unitPlaces) 1 =
      |(n : ℚ)| := by
    have nonzero : ((Nat.pow 2 F.unitPlaces : Nat) : ℚ) ≠ 0 := by
      exact_mod_cast (Nat.two_pow_pos F.unitPlaces).ne'
    rw [ofUnits, Nat.one_mul, Nat.cast_mul, mul_div_cancel_right₀ _ nonzero,
      Nat.cast_natAbs, Int.cast_abs]
  rw [← size]
  exact roundUnits_nearest fraction Nat.one_pos

theorem Double.standsFor_ofInt? {n : Int} {x : Double}
    (nearestEq : Double.ofInt? n = some x) :
    Number.StandsFor x (.integer n) := by
  have rounded := BinaryFormat.double.nearest_integer (by decide) n
  unfold ofInt? nearest unitsPerOne at nearestEq
  generalize Nat.pow 2 BinaryFormat.double.unitPlaces = unit
    at rounded nearestEq
  obtain ⟨magnitudeEq, signEq⟩ := parts_ofSign (decide (n < 0))
    (Nat.lt_of_le_of_lt rounded.bounded (BinaryFormat.infinityWord_lt _))
  simp only [Option.ite_none_right_eq_some, Option.some.injEq] at nearestEq
  obtain ⟨_, rfl⟩ := nearestEq
  refine .integer signEq ?_
  rw [magnitudeEq]
  exact rounded

theorem Number.standsFor_toDouble? {value : Number} {x : Double}
    (nearestEq : value.toDouble? = some x) : StandsFor x value := by
  cases value with
  | integer n => exact Double.standsFor_ofInt? nearestEq
  | real y =>
      cases nearestEq
      exact .real x

end ActuatorBus
