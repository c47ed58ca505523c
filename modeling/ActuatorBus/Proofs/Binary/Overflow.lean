import ActuatorBus.Proofs.Binary.Rounding

/-!
# Overflow

A number of units is rounded to infinity from halfway between the greatest
magnitude and the power of two above it on. So an integer has no double next
to it exactly if it is at least that large.
-/

namespace ActuatorBus

theorem le_roundHalfEven (numerator denominator : Nat) :
    numerator / denominator ≤ roundHalfEven numerator denominator := by
  have cases := roundHalfEven_cases numerator denominator
  omega

theorem roundHalfEven_le (numerator denominator : Nat) :
    roundHalfEven numerator denominator ≤ numerator / denominator + 1 := by
  have cases := roundHalfEven_cases numerator denominator
  omega

/-- A fraction is rounded to an even number, or beyond it, from halfway below
it on. -/
theorem even_le_roundHalfEven_iff {numerator denominator bound : Nat}
    (positive : 0 < denominator) (even : bound % 2 = 0)
    (nonzero : 0 < bound) :
    bound ≤ roundHalfEven numerator denominator ↔
      (2 * bound - 1) * denominator ≤ 2 * numerator := by
  have split := Nat.div_add_mod numerator denominator
  have restLt := Nat.mod_lt numerator positive
  have below := le_roundHalfEven numerator denominator
  have above := roundHalfEven_le numerator denominator
  rcases Nat.lt_trichotomy bound (numerator / denominator + 1) with
    less | equal | greater
  · have scaled : (2 * bound - 1) * denominator ≤
        2 * (numerator / denominator) * denominator :=
      Nat.mul_le_mul_right denominator (by omega)
    rw [Nat.mul_assoc, Nat.mul_comm (numerator / denominator)] at scaled
    exact iff_of_true (by omega) (by omega)
  · have scaled : (2 * bound - 1) * denominator =
        2 * (denominator * (numerator / denominator)) + denominator := by
      rw [equal, show 2 * (numerator / denominator + 1) - 1 =
        2 * (numerator / denominator) + 1 by omega, Nat.add_one_mul,
        Nat.mul_assoc, Nat.mul_comm (numerator / denominator)]
    have cases := roundHalfEven_cases numerator denominator
    rw [scaled, equal]
    omega
  · have scaled : (2 * (numerator / denominator) + 3) * denominator ≤
        (2 * bound - 1) * denominator :=
      Nat.mul_le_mul_right denominator (by omega)
    rw [Nat.add_mul, Nat.mul_assoc,
      Nat.mul_comm (numerator / denominator)] at scaled
    exact iff_of_false (by omega) (by omega)

namespace BinaryFormat

variable {F : BinaryFormat} {numerator top : Nat}

def dropped (F : BinaryFormat) (numerator : Nat) : Nat :=
  numerator.log2 - F.fractionBits

def kept (F : BinaryFormat) (numerator : Nat) : Nat :=
  roundHalfEven numerator (Nat.pow 2 (F.dropped numerator))

theorem roundUnits_eq (F : BinaryFormat) (numerator : Nat) :
    F.roundUnits numerator 1 =
      min F.infinityWord
        (F.dropped numerator * Nat.pow 2 F.fractionBits +
          F.kept numerator) := by
  unfold roundUnits dropped kept
  simp only [Nat.div_one, Nat.one_shiftLeft]
  rfl

/-- The bits that are kept, before they are rounded. -/
theorem significand_lt (F : BinaryFormat) (numerator : Nat) :
    numerator / Nat.pow 2 (F.dropped numerator) <
      2 * Nat.pow 2 F.fractionBits := by
  have one : Nat.pow 2 1 = 2 := rfl
  have bound : numerator < Nat.pow 2 (numerator.log2 + 1) :=
    Nat.lt_log2_self
  have shifted : Nat.pow 2 (numerator.log2 + 1) ≤
      Nat.pow 2 (F.dropped numerator) * (2 * Nat.pow 2 F.fractionBits) := by
    rw [← one, ← two_pow_add, ← two_pow_add, dropped]
    exact Nat.pow_le_pow_right (by decide) (by omega)
  exact Nat.div_lt_of_lt_mul (Nat.lt_of_lt_of_le bound shifted)

theorem le_significand (nonzero : numerator ≠ 0)
    (large : F.fractionBits ≤ numerator.log2) :
    Nat.pow 2 F.fractionBits ≤
      numerator / Nat.pow 2 (F.dropped numerator) := by
  have bound : Nat.pow 2 numerator.log2 ≤ numerator :=
    Nat.log2_self_le nonzero
  apply (Nat.le_div_iff_mul_le (Nat.two_pow_pos _)).2
  show _ * Nat.pow 2 _ ≤ _
  rw [← two_pow_add, dropped, Nat.add_sub_cancel' large]
  exact bound

/-- The rounding may carry into the next bit. -/
theorem kept_le (F : BinaryFormat) (numerator : Nat) :
    F.kept numerator ≤ 2 * Nat.pow 2 F.fractionBits := by
  have quotient := F.significand_lt numerator
  have rounded := roundHalfEven_le numerator (Nat.pow 2 (F.dropped numerator))
  rw [kept]
  omega

theorem le_kept (nonzero : numerator ≠ 0)
    (large : F.fractionBits ≤ numerator.log2) :
    Nat.pow 2 F.fractionBits ≤ F.kept numerator :=
  Nat.le_trans (le_significand nonzero large) (le_roundHalfEven _ _)

/-! ## Overflow -/

/-- Rounding stays below infinity as long as the number of units is less than
halfway between the greatest magnitude and the power of two above it. From the
greatest magnitudes `top` bits are dropped. -/
theorem roundUnits_lt_iff (positive : 0 < top)
    (topEq : Nat.pow 2 F.exponentBits - 1 = top + 2) :
    F.roundUnits numerator 1 < F.infinityWord ↔
      2 * numerator <
        (2 * (2 * Nat.pow 2 F.fractionBits) - 1) * Nat.pow 2 top := by
  have fractionPos : 0 < Nat.pow 2 F.fractionBits := Nat.two_pow_pos _
  have topPos : 0 < Nat.pow 2 top := Nat.two_pow_pos _
  have one : Nat.pow 2 1 = 2 := rfl
  have minLt : ∀ a b : Nat, min a b < a ↔ b < a := fun a b => by omega
  have halfway :
      (2 * (2 * Nat.pow 2 F.fractionBits) - 1) * Nat.pow 2 top =
        4 * (Nat.pow 2 F.fractionBits * Nat.pow 2 top) - Nat.pow 2 top := by
    rw [Nat.sub_mul, Nat.one_mul, ← Nat.mul_assoc, Nat.mul_assoc]
  have atLeast : Nat.pow 2 top ≤ Nat.pow 2 F.fractionBits * Nat.pow 2 top :=
    Nat.le_mul_of_pos_left _ fractionPos
  rw [roundUnits_eq, minLt, infinityWord, topEq]
  -- Only numbers with as many bits as the greatest magnitude can be on either
  -- side of the bound; the rounding decides for those.
  rcases Nat.lt_trichotomy numerator.log2 (F.fractionBits + top) with
    less | equal | greater
  · have bound : numerator < Nat.pow 2 (numerator.log2 + 1) :=
      Nat.lt_log2_self
    have boundTop : Nat.pow 2 (numerator.log2 + 1) ≤
        Nat.pow 2 F.fractionBits * Nat.pow 2 top := by
      rw [← two_pow_add]
      exact Nat.pow_le_pow_right (by decide) less
    have rounded := F.kept_le numerator
    have shifted :
        (F.dropped numerator + 1) * Nat.pow 2 F.fractionBits ≤
          top * Nat.pow 2 F.fractionBits :=
      Nat.mul_le_mul_right _ (by rw [dropped]; omega)
    rw [Nat.add_one_mul] at shifted
    rw [halfway, Nat.add_mul]
    exact iff_of_true (by omega) (by omega)
  · have droppedEq : F.dropped numerator = top := by
      rw [dropped]
      omega
    rw [kept, droppedEq, Nat.add_mul, Nat.add_lt_add_iff_left, ← Nat.not_le,
      ← Nat.not_le]
    exact not_congr
      (even_le_roundHalfEven_iff (Nat.two_pow_pos top) (by omega) (by omega))
  · have nonzero : numerator ≠ 0 := by
      rintro rfl
      rw [Nat.log2_zero] at greater
      omega
    have bound : Nat.pow 2 numerator.log2 ≤ numerator :=
      Nat.log2_self_le nonzero
    have boundTop : 2 * (Nat.pow 2 F.fractionBits * Nat.pow 2 top) ≤
        Nat.pow 2 numerator.log2 := by
      rw [← one, ← two_pow_add, ← two_pow_add]
      exact Nat.pow_le_pow_right (by decide) (by omega)
    have rounded : Nat.pow 2 F.fractionBits ≤ F.kept numerator :=
      le_kept nonzero (by omega)
    have shifted :
        (top + 1) * Nat.pow 2 F.fractionBits ≤
          F.dropped numerator * Nat.pow 2 F.fractionBits :=
      Nat.mul_le_mul_right _ (by rw [dropped]; omega)
    rw [Nat.add_one_mul] at shifted
    rw [halfway, Nat.add_mul]
    exact iff_of_false (by omega) (by omega)

/-- A whole number with many bits is rounded to a whole number. A unit is two to
the power of minus `places`. -/
theorem units_roundUnits_dvd {n : Nat} (places : Nat)
    (large : Nat.pow 2 F.fractionBits ≤ n)
    (finite : F.roundUnits (n * Nat.pow 2 places) 1 < F.infinityWord) :
    Nat.pow 2 places ∣ F.units (F.roundUnits (n * Nat.pow 2 places) 1) := by
  have fractionPos : 0 < Nat.pow 2 F.fractionBits := Nat.two_pow_pos _
  have unitPos : 0 < Nat.pow 2 places := Nat.two_pow_pos _
  have nonzero : n * Nat.pow 2 places ≠ 0 :=
    Nat.ne_of_gt (Nat.mul_pos (Nat.lt_of_lt_of_le fractionPos large) unitPos)
  have bits : F.fractionBits + places ≤ (n * Nat.pow 2 places).log2 := by
    rw [Nat.le_log2 nonzero]
    show Nat.pow 2 _ ≤ _
    rw [two_pow_add]
    exact Nat.mul_le_mul_right _ large
  generalize n * Nat.pow 2 places = numerator at nonzero bits finite ⊢
  have roundedEq : F.roundUnits numerator 1 =
      F.dropped numerator * Nat.pow 2 F.fractionBits + F.kept numerator := by
    rw [roundUnits_eq] at finite ⊢
    omega
  have least : Nat.pow 2 F.fractionBits ≤ F.kept numerator :=
    le_kept nonzero (by omega)
  have placesLe : places ≤ F.dropped numerator := by
    rw [dropped]
    omega
  rw [roundedEq, units_of_significand_le (F.kept_le numerator) (Or.inr least)]
  exact Nat.dvd_mul_left_of_dvd (Nat.pow_dvd_pow 2 placesLe) _

end BinaryFormat

namespace Double

theorem roundUnits_lt_signWord (numerator denominator : Nat) :
    BinaryFormat.double.roundUnits numerator denominator <
      BinaryFormat.double.signWord :=
  Nat.lt_of_le_of_lt (Nat.min_le_left _ _) (BinaryFormat.infinityWord_lt _)

theorem magnitude_nearest (negative : Bool) (numerator denominator : Nat) :
    (nearest negative numerator denominator).magnitude =
      BinaryFormat.double.roundUnits numerator denominator :=
  (parts_ofSign negative (roundUnits_lt_signWord numerator denominator)).1

theorem isNegative_nearest (negative : Bool) (numerator denominator : Nat) :
    (nearest negative numerator denominator).isNegative = negative :=
  (parts_ofSign negative (roundUnits_lt_signWord numerator denominator)).2

theorem isFinite_nearest_iff {negative : Bool} {numerator denominator : Nat} :
    (nearest negative numerator denominator).isFinite = true ↔
      BinaryFormat.double.roundUnits numerator denominator <
        BinaryFormat.double.infinityWord := by
  show decide (Double.magnitude _ < _) = true ↔ _
  rw [decide_eq_true_iff, magnitude_nearest]

/-- The least size of an integer that has no double next to it. -/
def overflowBound : Nat := Nat.pow 2 1024 - Nat.pow 2 970

theorem ofInt?_eq_none_iff {n : Int} :
    ofInt? n = none ↔ overflowBound ≤ n.natAbs := by
  have bound : (2 * (2 * Nat.pow 2 BinaryFormat.double.fractionBits) - 1) *
      Nat.pow 2 2045 = 2 * (overflowBound * unitsPerOne) := by
    decide +kernel
  have rounds : BinaryFormat.double.roundUnits (n.natAbs * unitsPerOne) 1 <
      BinaryFormat.double.infinityWord ↔
        2 * (n.natAbs * unitsPerOne) < 2 * (overflowBound * unitsPerOne) :=
    (BinaryFormat.roundUnits_lt_iff (by decide) (by decide)).trans
      (iff_of_eq (congrArg (2 * (n.natAbs * unitsPerOne) < ·) bound))
  have cancel : ∀ unit a b : Nat, 0 < unit →
      (2 * (a * unit) < 2 * (b * unit) ↔ a < b) := by
    intro unit a b positive
    rw [Nat.mul_lt_mul_left (by decide), Nat.mul_lt_mul_right positive]
  have unitsPos : 0 < unitsPerOne := by decide +kernel
  have finite : (nearest (n < 0) (n.natAbs * unitsPerOne) 1).isFinite = true ↔
      n.natAbs < overflowBound :=
    isFinite_nearest_iff.trans
      (rounds.trans (cancel unitsPerOne _ _ unitsPos))
  rw [ofInt?, ← Nat.not_lt, ← finite]
  simp

/-! ## Integers -/

theorem isIntegral_of_dvd {x : Double} (finite : x.isFinite = true)
    (whole : unitsPerOne ∣ BinaryFormat.double.units x.magnitude) :
    x.isIntegral = true := by
  have signed : (unitsPerOne : Int) ∣ x.units := by
    unfold units
    simp only
    split
    · exact Int.dvd_neg.2 (Int.natCast_dvd_natCast.2 whole)
    · exact Int.natCast_dvd_natCast.2 whole
  have rest : x.units % unitsPerOne = 0 := Int.emod_eq_zero_of_dvd signed
  rw [isIntegral, toInt?, finite, rest]
  rfl

/-- The double next to an integer is an integer: if the integer has more bits
than a double can keep, all that are dropped have a weight of one or more. -/
theorem isIntegral_of_ofInt? {n : Int} {x : Double}
    (nearestEq : ofInt? n = some x) : x.isIntegral = true := by
  by_cases small : n.natAbs < 0x20000000000000
  · obtain ⟨again, againEq, finite, unitsEq⟩ := ofInt?_exact small
    rw [nearestEq] at againEq
    cases againEq
    rw [isIntegral, toInt?, finite, unitsEq, Int.mul_emod_left]
    rfl
  · have large : Nat.pow 2 BinaryFormat.double.fractionBits ≤ n.natAbs :=
      Nat.le_trans (by decide) (Nat.not_lt.1 small)
    unfold ofInt? at nearestEq
    simp only at nearestEq
    split at nearestEq
    next finite =>
      cases nearestEq
      apply isIntegral_of_dvd finite
      rw [isFinite_nearest_iff] at finite
      rw [magnitude_nearest]
      unfold unitsPerOne at finite ⊢
      exact BinaryFormat.units_roundUnits_dvd _ large finite
    next => cases nearestEq

end Double

end ActuatorBus
