import ActuatorBus.Proofs.Binary.Conversion
import ActuatorBus.Proofs.Binary.Overflow
import ActuatorBus.Proofs.Binary.Values
import Mathlib.Tactic.Linarith

/-!
# Nearest words

The words of a format are in the order of their values. A number between two
neighbours is rounded to the nearer one, and from halfway to the even one; from
the value of the word of infinity on there is nothing but infinity.
-/

namespace ActuatorBus

namespace BinaryFormat

variable {F : BinaryFormat}

theorem units_lt_succ (F : BinaryFormat) (magnitude : Nat) :
    F.units magnitude < F.units (magnitude + 1) := by
  obtain ⟨shift, significand, unitsEq, magnitudeEq, fits, leading⟩ :=
    F.exists_shift magnitude
  have next :
      F.units (magnitude + 1) = (significand + 1) * Nat.pow 2 shift := by
    rw [magnitudeEq, Nat.add_assoc]
    exact units_of_significand_le (by omega) (by omega)
  rw [unitsEq, next]
  exact Nat.mul_lt_mul_of_pos_right (Nat.lt_succ_self _) (Nat.two_pow_pos _)

theorem units_strictMono (F : BinaryFormat) : StrictMono F.units :=
  strictMono_nat_of_lt_succ F.units_lt_succ

/-! ## The nearest magnitude -/

/-- The value of a magnitude. -/
def value (F : BinaryFormat) (magnitude : Nat) : ℚ :=
  (F.units magnitude : ℚ) / (Nat.pow 2 F.unitPlaces : Nat)

/-- No magnitude is nearer to a number, and if another one is as near, this is
the even one. The word of infinity counts as the power of two above the greatest
finite magnitude. -/
structure Nearest (F : BinaryFormat) (number : ℚ) (magnitude : Nat) :
    Prop where
  bounded : magnitude ≤ F.infinityWord
  nearest : ∀ other ≤ F.infinityWord,
    |F.value magnitude - number| ≤ |F.value other - number|
  even : ∀ other ≤ F.infinityWord, other ≠ magnitude →
    |F.value other - number| = |F.value magnitude - number| →
      magnitude % 2 = 0

theorem value_strictMono (F : BinaryFormat) : StrictMono F.value := by
  intro lower upper less
  have positive : (0 : ℚ) < (Nat.pow 2 F.unitPlaces : Nat) := by
    exact_mod_cast Nat.two_pow_pos F.unitPlaces
  exact div_lt_div_of_pos_right
    (Nat.cast_lt.2 (F.units_strictMono less)) positive

variable {lower other chosen : Nat} {number : ℚ}

/-- Below a number the greatest magnitude is the nearest. -/
theorem distance_below (least : F.value lower ≤ number)
    (otherLe : other ≤ lower) :
    number - F.value lower ≤ |F.value other - number| ∧
      (|F.value other - number| = number - F.value lower →
        other = lower) := by
  have order := F.value_strictMono.monotone otherLe
  rw [abs_of_nonpos (by linarith), neg_sub]
  refine ⟨by linarith, ?_⟩
  intro same
  exact F.value_strictMono.injective (by linarith)

/-- Above a number the least magnitude is the nearest. -/
theorem distance_above (greatest : number ≤ F.value lower)
    (leOther : lower ≤ other) :
    F.value lower - number ≤ |F.value other - number| ∧
      (|F.value other - number| = F.value lower - number →
        other = lower) := by
  have order := F.value_strictMono.monotone leOther
  rw [abs_of_nonneg (by linarith)]
  refine ⟨by linarith, ?_⟩
  intro same
  exact F.value_strictMono.injective (by linarith)

theorem nearest_of_le (above : F.value F.infinityWord ≤ number) :
    F.Nearest number F.infinityWord := by
  have size : |F.value F.infinityWord - number| =
      number - F.value F.infinityWord := by
    rw [abs_of_nonpos (by linarith), neg_sub]
  refine ⟨le_refl _, ?_, ?_⟩
  · intro other bounded
    rw [size]
    exact (distance_below above bounded).1
  · intro other bounded different same
    rw [size] at same
    exact absurd ((distance_below above bounded).2 same) different

/-- Between two neighbours the nearer one is the nearest of all. -/
theorem nearest_of_between (bounded : chosen ≤ F.infinityWord)
    (least : F.value lower ≤ number) (greatest : number ≤ F.value (lower + 1))
    (nearer :
      chosen = lower ∧ 2 * number ≤ F.value lower + F.value (lower + 1) ∨
      chosen = lower + 1 ∧ F.value lower + F.value (lower + 1) ≤ 2 * number)
    (tie : 2 * number = F.value lower + F.value (lower + 1) →
      chosen % 2 = 0) :
    F.Nearest number chosen := by
  have size : |F.value chosen - number| =
      min (number - F.value lower) (F.value (lower + 1) - number) := by
    rcases nearer with ⟨rfl, low⟩ | ⟨rfl, high⟩
    · rw [abs_of_nonpos (by linarith), neg_sub, min_eq_left (by linarith)]
    · rw [abs_of_nonneg (by linarith), min_eq_right (by linarith)]
  have toLower := min_le_left (number - F.value lower)
    (F.value (lower + 1) - number)
  have toUpper := min_le_right (number - F.value lower)
    (F.value (lower + 1) - number)
  rw [← size] at toLower toUpper
  refine ⟨bounded, ?_, ?_⟩
  · intro other _
    rcases Nat.lt_or_ge lower other with greater | notGreater
    · exact toUpper.trans (distance_above greatest greater).1
    · exact toLower.trans (distance_below least notGreater).1
  · -- What is as near as the chosen neighbour is the other one, and then the
    -- number is halfway between them.
    intro other _ different same
    apply tie
    rcases Nat.lt_or_ge lower other with greater | notGreater
    · obtain ⟨far, closest⟩ := distance_above greatest greater
      have isUpper := closest (by linarith)
      rcases nearer with ⟨rfl, low⟩ | ⟨rfl, _⟩
      · linarith
      · exact absurd isUpper different
    · obtain ⟨far, closest⟩ := distance_below least notGreater
      have isLower := closest (by linarith)
      rcases nearer with ⟨rfl, _⟩ | ⟨rfl, high⟩
      · exact absurd isLower different
      · linarith

/-! ## Rounding -/

variable {numerator denominator : Nat}

/-- A fraction of units lies between two neighbours, and is rounded by what is
left of it above the lower one. -/
theorem exists_neighbours (F : BinaryFormat) (numerator denominator : Nat) :
    ∃ shift quotient,
      F.roundUnits numerator denominator = min F.infinityWord
        (shift * Nat.pow 2 F.fractionBits +
          roundHalfEven numerator (denominator * Nat.pow 2 shift)) ∧
      quotient = numerator / (denominator * Nat.pow 2 shift) ∧
      F.units (shift * Nat.pow 2 F.fractionBits + quotient) =
        quotient * Nat.pow 2 shift ∧
      F.units (shift * Nat.pow 2 F.fractionBits + quotient + 1) =
        (quotient + 1) * Nat.pow 2 shift := by
  refine ⟨F.dropped (numerator / denominator), _, ?_, rfl, ?_⟩
  · rw [roundUnits, ← dropped, Nat.shiftLeft_eq]
    rfl
  · rw [← Nat.div_div_eq_div_mul, Nat.add_assoc]
    generalize numerator / denominator = units
    have fits := F.significand_lt units
    have leading : F.dropped units = 0 ∨ Nat.pow 2 F.fractionBits ≤
        units / Nat.pow 2 (F.dropped units) := by
      by_cases large : F.fractionBits ≤ units.log2
      · by_cases zero : units = 0
        · left
          rw [dropped, zero, Nat.log2_zero, Nat.zero_sub]
        · exact Or.inr (le_significand zero large)
      · left
        rw [dropped]
        omega
    exact ⟨units_of_significand fits leading,
      units_of_significand_le (by omega) (by omega)⟩

/-- A fraction of units, as a number. -/
def ofUnits (F : BinaryFormat) (numerator denominator : Nat) : ℚ :=
  (numerator : ℚ) / ((denominator * Nat.pow 2 F.unitPlaces : Nat) : ℚ)

theorem value_eq_ofUnits (positive : 0 < denominator) (magnitude : Nat) :
    F.value magnitude =
      F.ofUnits (F.units magnitude * denominator) denominator := by
  have nonzero : (denominator : ℚ) ≠ 0 := by
    exact_mod_cast positive.ne'
  rw [value, ofUnits, Nat.cast_mul, Nat.cast_mul, mul_comm (denominator : ℚ),
    mul_div_mul_right _ _ nonzero]

theorem ofUnits_le (F : BinaryFormat) (denominator : Nat) {lower upper : Nat}
    (order : lower ≤ upper) :
    F.ofUnits lower denominator ≤ F.ofUnits upper denominator :=
  div_le_div_of_nonneg_right (Nat.cast_le.2 order) (Nat.cast_nonneg _)

theorem ofUnits_add (F : BinaryFormat) (lower upper denominator : Nat) :
    F.ofUnits lower denominator + F.ofUnits upper denominator =
      F.ofUnits (lower + upper) denominator := by
  rw [ofUnits, ofUnits, ofUnits, Nat.cast_add, add_div]

theorem ofUnits_two_mul (F : BinaryFormat) (numerator denominator : Nat) :
    2 * F.ofUnits numerator denominator =
      F.ofUnits (2 * numerator) denominator := by
  rw [two_mul, ofUnits_add, Nat.two_mul]

theorem ofUnits_injective (F : BinaryFormat) (positive : 0 < denominator)
    {lower upper : Nat}
    (same : F.ofUnits lower denominator = F.ofUnits upper denominator) :
    lower = upper := by
  have nonzero : ((denominator * Nat.pow 2 F.unitPlaces : Nat) : ℚ) ≠ 0 := by
    exact_mod_cast (Nat.mul_pos positive (Nat.two_pow_pos _)).ne'
  exact_mod_cast (div_left_inj' nonzero).1 same

theorem base_even (positive : 0 < F.fractionBits) (shift : Nat) :
    shift * Nat.pow 2 F.fractionBits % 2 = 0 := by
  have even : 2 ∣ Nat.pow 2 F.fractionBits :=
    dvd_pow_self 2 positive.ne'
  exact Nat.mod_eq_zero_of_dvd (Nat.dvd_mul_left_of_dvd even shift)

/-- A fraction of units is rounded to the nearest magnitude. -/
theorem roundUnits_nearest (fraction : 0 < F.fractionBits)
    (positive : 0 < denominator) :
    F.Nearest (F.ofUnits numerator denominator)
      (F.roundUnits numerator denominator) := by
  obtain ⟨shift, quotient, roundedEq, quotientEq, lowerEq, upperEq⟩ :=
    F.exists_neighbours numerator denominator
  have even := F.base_even fraction shift
  have split := Nat.div_add_mod numerator (denominator * Nat.pow 2 shift)
  have restLt := Nat.mod_lt numerator
    (Nat.mul_pos positive (Nat.two_pow_pos shift))
  have cases := roundHalfEven_cases numerator (denominator * Nat.pow 2 shift)
  simp only [← quotientEq] at split cases
  have lowerUnits : F.value (shift * Nat.pow 2 F.fractionBits + quotient) =
      F.ofUnits (denominator * Nat.pow 2 shift * quotient) denominator := by
    rw [value_eq_ofUnits positive, lowerEq, Nat.mul_comm quotient,
      Nat.mul_right_comm, Nat.mul_comm denominator]
  have upperUnits :
      F.value (shift * Nat.pow 2 F.fractionBits + quotient + 1) =
        F.ofUnits (denominator * Nat.pow 2 shift * quotient +
          denominator * Nat.pow 2 shift) denominator := by
    rw [value_eq_ofUnits positive, upperEq, Nat.mul_comm (quotient + 1),
      Nat.mul_right_comm, Nat.mul_comm denominator, Nat.mul_add_one]
  rw [roundedEq]
  generalize numerator % (denominator * Nat.pow 2 shift) = rest at *
  generalize roundHalfEven numerator (denominator * Nat.pow 2 shift) =
    rounded at *
  generalize denominator * Nat.pow 2 shift = step at *
  generalize shift * Nat.pow 2 F.fractionBits = base at *
  have least :
      F.value (base + quotient) ≤ F.ofUnits numerator denominator := by
    rw [lowerUnits]
    exact F.ofUnits_le denominator (by omega)
  have greatest :
      F.ofUnits numerator denominator ≤ F.value (base + quotient + 1) := by
    rw [upperUnits]
    exact F.ofUnits_le denominator (by omega)
  -- From infinity on the neighbours are no words any more.
  rcases Nat.lt_or_ge (base + quotient) F.infinityWord with inside | outside
  · rw [Nat.min_eq_right (by omega)]
    apply nearest_of_between (by omega) least greatest
    · rw [lowerUnits, upperUnits, ofUnits_add, ofUnits_two_mul]
      rcases cases with ⟨rfl, below, _⟩ | ⟨rfl, above, _⟩
      · exact Or.inl ⟨rfl, F.ofUnits_le denominator (by omega)⟩
      · exact Or.inr ⟨rfl, F.ofUnits_le denominator (by omega)⟩
    · rw [lowerUnits, upperUnits, ofUnits_add, ofUnits_two_mul]
      intro halfway
      have tie := F.ofUnits_injective positive halfway
      omega
  · rw [Nat.min_eq_left (by omega)]
    exact nearest_of_le
      ((F.value_strictMono.monotone outside).trans least)

end BinaryFormat

end ActuatorBus
