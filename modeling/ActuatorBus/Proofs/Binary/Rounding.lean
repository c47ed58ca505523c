import ActuatorBus.Binary.Double

/-!
# Exact rounding

A number of units with few significant bits is rounded to itself. So every
integer of up to fifty-three bits is a double.
-/

namespace ActuatorBus

/-- A rounded quotient is one of the two integers next to the quotient, and is
even if these are as near. -/
theorem roundHalfEven_cases (numerator denominator : Nat) :
    let quotient := numerator / denominator
    let rounded := roundHalfEven numerator denominator
    rounded = quotient ∧ 2 * (numerator % denominator) ≤ denominator ∧
        (2 * (numerator % denominator) = denominator → rounded % 2 = 0) ∨
      rounded = quotient + 1 ∧ denominator ≤ 2 * (numerator % denominator) ∧
        (2 * (numerator % denominator) = denominator →
          rounded % 2 = 0) := by
  simp only [roundHalfEven]
  split
  · omega
  · split <;> omega

theorem roundHalfEven_exact {denominator : Nat} (quotient : Nat)
    (positive : 0 < denominator) :
    roundHalfEven (quotient * denominator) denominator = quotient := by
  simp only [roundHalfEven, Nat.mul_div_cancel _ positive,
    Nat.mul_mod_left]
  rw [if_pos (by omega)]

namespace BinaryFormat

variable {F : BinaryFormat}

theorem two_pow_add (a b : Nat) :
    Nat.pow 2 (a + b) = Nat.pow 2 a * Nat.pow 2 b :=
  Nat.pow_add 2 a b

/-- The units of a magnitude, from its exponent and its significand with the
leading one. -/
theorem units_of_significand {shift significand : Nat}
    (fits : significand < 2 * Nat.pow 2 F.fractionBits)
    (normal : shift = 0 ∨ Nat.pow 2 F.fractionBits ≤ significand) :
    F.units (shift * Nat.pow 2 F.fractionBits + significand) =
      significand * Nat.pow 2 shift := by
  have positive : 0 < Nat.pow 2 F.fractionBits := Nat.two_pow_pos _
  unfold units
  by_cases small : significand < Nat.pow 2 F.fractionBits
  · have noShift : shift = 0 := by omega
    subst noShift
    simp only [Nat.zero_mul, Nat.zero_add, Nat.div_eq_of_lt small,
      if_true, Nat.mod_eq_of_lt small]
    exact (Nat.mul_one _).symm
  · have split : shift * Nat.pow 2 F.fractionBits + significand =
        (significand - Nat.pow 2 F.fractionBits) +
          Nat.pow 2 F.fractionBits * (shift + 1) := by
      rw [Nat.mul_add, Nat.mul_comm shift]
      omega
    have low : significand - Nat.pow 2 F.fractionBits <
        Nat.pow 2 F.fractionBits := by omega
    simp only [split, Nat.add_mul_div_left _ _ positive,
      Nat.add_mul_mod_self_left, Nat.div_eq_of_lt low,
      Nat.mod_eq_of_lt low, Nat.zero_add, Nat.add_sub_cancel,
      Nat.shiftLeft_eq]
    rw [if_neg (by omega), Nat.add_sub_cancel' (by omega)]
    rfl

/-- A significand may also carry into the next bit. -/
theorem units_of_significand_le {shift significand : Nat}
    (fits : significand ≤ 2 * Nat.pow 2 F.fractionBits)
    (normal : shift = 0 ∨ Nat.pow 2 F.fractionBits ≤ significand) :
    F.units (shift * Nat.pow 2 F.fractionBits + significand) =
      significand * Nat.pow 2 shift := by
  rcases Nat.lt_or_eq_of_le fits with less | equal
  · exact units_of_significand less normal
  · have positive : 0 < Nat.pow 2 F.fractionBits := Nat.two_pow_pos _
    have one : Nat.pow 2 1 = 2 := rfl
    have carried : shift * Nat.pow 2 F.fractionBits + significand =
        (shift + 1) * Nat.pow 2 F.fractionBits +
          Nat.pow 2 F.fractionBits := by
      rw [equal, Nat.add_one_mul shift]
      omega
    rw [carried, units_of_significand (by omega) (Or.inr (Nat.le_refl _)),
      equal, two_pow_add, one, Nat.mul_comm (Nat.pow 2 shift),
      ← Nat.mul_assoc, Nat.mul_comm 2]

theorem log2_significand {shift significand : Nat}
    (fits : significand < 2 * Nat.pow 2 F.fractionBits)
    (leading : shift = 0 ∨ Nat.pow 2 F.fractionBits ≤ significand) :
    (significand * Nat.pow 2 shift).log2 - F.fractionBits = shift := by
  have one : Nat.pow 2 1 = 2 := rfl
  by_cases small : significand < Nat.pow 2 F.fractionBits
  · have noShift : shift = 0 := by omega
    subst noShift
    have whole : significand * Nat.pow 2 0 = significand := Nat.mul_one _
    rw [whole]
    by_cases zero : significand = 0
    · rw [zero, Nat.log2_zero, Nat.zero_sub]
    · have below := (Nat.log2_lt zero).2 small
      omega
  · have above := Nat.not_lt.1 small
    have positive : 0 < Nat.pow 2 shift := Nat.two_pow_pos _
    have nonzero : significand * Nat.pow 2 shift ≠ 0 := by
      have some : 0 < significand :=
        Nat.lt_of_lt_of_le (Nat.two_pow_pos _) above
      exact Nat.ne_of_gt (Nat.mul_pos some positive)
    have exponent :
        (significand * Nat.pow 2 shift).log2 = F.fractionBits + shift := by
      apply (Nat.log2_eq_iff nonzero).2
      constructor
      · show Nat.pow 2 (F.fractionBits + shift) ≤ _
        rw [two_pow_add]
        exact Nat.mul_le_mul_right _ above
      · show _ < Nat.pow 2 (F.fractionBits + shift + 1)
        rw [Nat.add_right_comm, two_pow_add, two_pow_add F.fractionBits 1,
          one, Nat.mul_comm (Nat.pow 2 F.fractionBits)]
        exact Nat.mul_lt_mul_of_pos_right fits positive
    rw [exponent, Nat.add_sub_cancel_left]

theorem roundUnits_significand {shift significand : Nat}
    (fits : significand < 2 * Nat.pow 2 F.fractionBits)
    (leading : shift = 0 ∨ Nat.pow 2 F.fractionBits ≤ significand)
    (finite : shift * Nat.pow 2 F.fractionBits + significand <
      F.infinityWord) :
    F.roundUnits (significand * Nat.pow 2 shift) 1 =
      shift * Nat.pow 2 F.fractionBits + significand := by
  have exact :
      roundHalfEven (significand * Nat.pow 2 shift) (1 <<< shift) =
        significand := by
    rw [Nat.one_shiftLeft]
    exact roundHalfEven_exact significand (Nat.two_pow_pos _)
  unfold roundUnits
  simp only [Nat.div_one, log2_significand fits leading, exact]
  exact Nat.min_eq_right (Nat.le_of_lt finite)

/-- The significand of a number with few significant bits, moved up as far as
it can be. -/
theorem exists_significand {significand : Nat} (places : Nat)
    (fits : significand < 2 * Nat.pow 2 F.fractionBits) :
    ∃ shift normal : Nat, shift ≤ places ∧
      significand * Nat.pow 2 places = normal * Nat.pow 2 shift ∧
      normal < 2 * Nat.pow 2 F.fractionBits ∧
      (shift = 0 ∨ Nat.pow 2 F.fractionBits ≤ normal) := by
  induction places generalizing significand with
  | zero => exact ⟨0, significand, Nat.le_refl 0, rfl, fits, Or.inl rfl⟩
  | succ places moved =>
      by_cases leading : Nat.pow 2 F.fractionBits ≤ significand
      · exact ⟨places + 1, significand, Nat.le_refl _, rfl, fits,
          Or.inr leading⟩
      · have twice : 2 * significand < 2 * Nat.pow 2 F.fractionBits := by
          omega
        obtain ⟨shift, normal, shiftLe, normalEq, normalFits, normalLeads⟩ :=
          moved twice
        refine ⟨shift, normal, Nat.le_succ_of_le shiftLe, ?_, normalFits,
          normalLeads⟩
        have one : Nat.pow 2 1 = 2 := rfl
        rw [← normalEq, two_pow_add, one, Nat.mul_comm 2 significand,
          Nat.mul_assoc, Nat.mul_comm 2]

/-- Few significant bits, moved up by some places, are left as they are. -/
theorem roundUnits_exact {significand places : Nat}
    (fits : significand < 2 * Nat.pow 2 F.fractionBits)
    (inside : places + 2 ≤ Nat.pow 2 F.exponentBits - 1) :
    F.roundUnits (significand * Nat.pow 2 places) 1 < F.infinityWord ∧
      F.units (F.roundUnits (significand * Nat.pow 2 places) 1) =
        significand * Nat.pow 2 places := by
  obtain ⟨shift, normal, shiftLe, moved, normalFits, leading⟩ :=
    exists_significand places fits
  have finite :
      shift * Nat.pow 2 F.fractionBits + normal < F.infinityWord := by
    have bound :
        (places + 2) * Nat.pow 2 F.fractionBits ≤ F.infinityWord :=
      Nat.mul_le_mul_right _ inside
    have shifted :
        shift * Nat.pow 2 F.fractionBits ≤
          places * Nat.pow 2 F.fractionBits :=
      Nat.mul_le_mul_right _ shiftLe
    rw [Nat.add_mul] at bound
    omega
  rw [moved, roundUnits_significand normalFits leading finite]
  exact ⟨finite, units_of_significand normalFits leading⟩

/-! ## Signs -/

theorem infinityWord_lt (F : BinaryFormat) : F.infinityWord < F.signWord := by
  have smaller :
      Nat.pow 2 F.exponentBits - 1 < Nat.pow 2 F.exponentBits :=
    Nat.sub_lt (Nat.two_pow_pos _) (by decide)
  rw [signWord, magnitudeBits, two_pow_add]
  exact Nat.mul_lt_mul_of_pos_right smaller (Nat.two_pow_pos _)

theorem magnitude_ofSign (negative : Bool) {magnitude : Nat}
    (fits : magnitude < F.signWord) :
    F.magnitude (F.ofSign negative magnitude) = magnitude := by
  cases negative <;>
    simp [BinaryFormat.magnitude, ofSign, Nat.mod_eq_of_lt fits]

theorem isNegative_ofSign (negative : Bool) {magnitude : Nat}
    (fits : magnitude < F.signWord) :
    F.isNegative (F.ofSign negative magnitude) = negative := by
  have positive : 0 < F.signWord := Nat.two_pow_pos _
  cases negative <;>
    simp [isNegative, ofSign, Nat.div_eq_of_lt fits,
      Nat.add_div_left _ positive]

theorem ofSign_lt (negative : Bool) {magnitude : Nat}
    (fits : magnitude < F.signWord) :
    F.ofSign negative magnitude < F.signWord + F.signWord := by
  cases negative with
  | false =>
      show magnitude < F.signWord + F.signWord
      omega
  | true =>
      show F.signWord + magnitude < F.signWord + F.signWord
      omega

/-- A word is made of its sign and its magnitude. -/
theorem ofSign_isNegative {word : Nat}
    (fits : word < F.signWord + F.signWord) :
    F.ofSign (F.isNegative word) (F.magnitude word) = word := by
  have positive : 0 < F.signWord := Nat.two_pow_pos _
  unfold isNegative magnitude
  by_cases small : word < F.signWord
  · simp [ofSign, Nat.div_eq_of_lt small, Nat.mod_eq_of_lt small]
  · obtain ⟨rest, rfl⟩ := Nat.exists_eq_add_of_le (Nat.not_lt.1 small)
    have low : rest < F.signWord := by omega
    simp [ofSign, Nat.add_div_left _ positive, Nat.div_eq_of_lt low,
      Nat.mod_eq_of_lt low]

end BinaryFormat

/-! ## Doubles -/

namespace Double

theorem word_ofWord {word : Nat} (fits : word < UInt64.size) :
    (ofWord word).word = word :=
  Nat.mod_eq_of_lt fits

theorem ofSign_lt (negative : Bool) {magnitude : Nat}
    (fits : magnitude < BinaryFormat.double.signWord) :
    BinaryFormat.double.ofSign negative magnitude < UInt64.size := by
  have twice :
      BinaryFormat.double.signWord + BinaryFormat.double.signWord =
        UInt64.size := by decide
  rw [← twice]
  exact BinaryFormat.ofSign_lt negative fits

/-- The parts of the double with a sign and a magnitude. -/
theorem parts_ofSign (negative : Bool) {magnitude : Nat}
    (fits : magnitude < BinaryFormat.double.signWord) :
    (ofWord (BinaryFormat.double.ofSign negative magnitude)).magnitude =
        magnitude ∧
      (ofWord (BinaryFormat.double.ofSign negative magnitude)).isNegative =
        negative := by
  rw [Double.magnitude, Double.isNegative,
    word_ofWord (ofSign_lt negative fits)]
  exact ⟨BinaryFormat.magnitude_ofSign negative fits,
    BinaryFormat.isNegative_ofSign negative fits⟩

/-- An integer of at most fifty-three bits is a double, with as many units as
it should have. -/
theorem ofInt?_exact {n : Int} (fits : n.natAbs < 0x20000000000000) :
    ∃ x, ofInt? n = some x ∧ x.isFinite = true ∧
      x.units = n * unitsPerOne := by
  have significant :
      n.natAbs < 2 * Nat.pow 2 BinaryFormat.double.fractionBits := by
    have limit :
        2 * Nat.pow 2 BinaryFormat.double.fractionBits =
          0x20000000000000 := by decide
    omega
  have inside :
      BinaryFormat.double.unitPlaces + 2 ≤
        Nat.pow 2 BinaryFormat.double.exponentBits - 1 := by decide
  have rounded := BinaryFormat.roundUnits_exact significant inside
  unfold ofInt? nearest unitsPerOne
  generalize Nat.pow 2 BinaryFormat.double.unitPlaces = unit at rounded ⊢
  generalize BinaryFormat.double.roundUnits (n.natAbs * unit) 1 =
    magnitude at rounded ⊢
  obtain ⟨finite, unitsEq⟩ := rounded
  obtain ⟨magnitudeEq, signEq⟩ :=
    parts_ofSign (decide (n < 0))
      (Nat.lt_trans finite (BinaryFormat.infinityWord_lt _))
  generalize ofWord
    (BinaryFormat.double.ofSign (decide (n < 0)) magnitude) = x
    at magnitudeEq signEq ⊢
  have isFinite : x.isFinite = true := by
    show decide (x.magnitude < BinaryFormat.double.infinityWord) = true
    rw [magnitudeEq]
    exact decide_eq_true finite
  refine ⟨x, if_pos isFinite, isFinite, ?_⟩
  rw [units, magnitudeEq, unitsEq, signEq]
  by_cases negative : n < 0
  · rw [if_pos (decide_eq_true negative), Int.natCast_mul, ← Int.neg_mul]
    congr 1
    omega
  · rw [if_neg (by simpa using negative), Int.natCast_mul]
    congr 1
    omega

end Double

end ActuatorBus
