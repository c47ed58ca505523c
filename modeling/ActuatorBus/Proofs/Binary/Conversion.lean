import ActuatorBus.Proofs.Binary.Rounding

/-!
# Conversion between formats

A number of a narrow format is the same after it was converted to a wider
format and back. What is not a number stays so, and is the same once it is
quiet.
-/

namespace ActuatorBus

theorem roundHalfEven_scale (numerator denominator : Nat) {scale : Nat}
    (positive : 0 < scale) :
    roundHalfEven (numerator * scale) (denominator * scale) =
      roundHalfEven numerator denominator := by
  have below (rest : Nat) :
      2 * (rest * scale) < denominator * scale ↔ 2 * rest < denominator := by
    rw [← Nat.mul_assoc]
    exact Nat.mul_lt_mul_right positive
  have above (rest : Nat) :
      denominator * scale < 2 * (rest * scale) ↔ denominator < 2 * rest := by
    rw [← Nat.mul_assoc]
    exact Nat.mul_lt_mul_right positive
  simp only [roundHalfEven, Nat.mul_div_mul_right _ _ positive,
    Nat.mul_mod_mul_right, below, above]

namespace BinaryFormat

variable {F : BinaryFormat}

theorem roundUnits_scale (numerator denominator : Nat) {scale : Nat}
    (positive : 0 < scale) :
    F.roundUnits (numerator * scale) (denominator * scale) =
      F.roundUnits numerator denominator := by
  unfold roundUnits
  simp only [Nat.mul_div_mul_right _ _ positive]
  generalize (numerator / denominator).log2 - F.fractionBits = shift
  have moved :
      (denominator * scale) <<< shift = (denominator <<< shift) * scale := by
    rw [Nat.shiftLeft_eq, Nat.shiftLeft_eq, Nat.mul_right_comm]
  rw [moved, roundHalfEven_scale _ _ positive]

/-- The significand and the shift of a magnitude. -/
theorem exists_shift (F : BinaryFormat) (magnitude : Nat) :
    ∃ shift significand, F.units magnitude = significand * Nat.pow 2 shift ∧
      magnitude = shift * Nat.pow 2 F.fractionBits + significand ∧
      significand < 2 * Nat.pow 2 F.fractionBits ∧
      (shift = 0 ∨ Nat.pow 2 F.fractionBits ≤ significand) := by
  have positive : 0 < Nat.pow 2 F.fractionBits := Nat.two_pow_pos _
  have split := Nat.div_add_mod magnitude (Nat.pow 2 F.fractionBits)
  have low := Nat.mod_lt magnitude positive
  unfold units
  generalize magnitude / Nat.pow 2 F.fractionBits = exponent at *
  generalize magnitude % Nat.pow 2 F.fractionBits = fraction at *
  cases exponent with
  | zero =>
      refine ⟨0, fraction, ?_, ?_, ?_, Or.inl rfl⟩
      · simp
      · omega
      · omega
  | succ shift =>
      refine ⟨shift, Nat.pow 2 F.fractionBits + fraction, ?_, ?_, ?_,
        Or.inr (Nat.le_add_right _ _)⟩
      · simp [Nat.shiftLeft_eq]
      · rw [← split, Nat.mul_add, Nat.mul_comm shift]
        omega
      · omega

/-- The significand and the shift of a finite magnitude. -/
theorem exists_units {magnitude : Nat} (finite : magnitude < F.infinityWord) :
    ∃ shift significand, F.units magnitude = significand * Nat.pow 2 shift ∧
      magnitude = shift * Nat.pow 2 F.fractionBits + significand ∧
      significand < 2 * Nat.pow 2 F.fractionBits ∧
      shift + 1 < Nat.pow 2 F.exponentBits ∧
      (shift = 0 ∨ Nat.pow 2 F.fractionBits ≤ significand) := by
  obtain ⟨shift, significand, unitsEq, magnitudeEq, fits, leading⟩ :=
    F.exists_shift magnitude
  refine ⟨shift, significand, unitsEq, magnitudeEq, fits, ?_, leading⟩
  have below : shift * Nat.pow 2 F.fractionBits <
      (Nat.pow 2 F.exponentBits - 1) * Nat.pow 2 F.fractionBits :=
    Nat.lt_of_le_of_lt (by omega) finite
  have shiftLt := Nat.lt_of_mul_lt_mul_right below
  omega

theorem roundUnits_units {magnitude : Nat}
    (finite : magnitude < F.infinityWord) :
    F.roundUnits (F.units magnitude) 1 = magnitude := by
  obtain ⟨shift, significand, unitsEq, magnitudeEq, fits, _, leading⟩ :=
    exists_units finite
  rw [unitsEq, roundUnits_significand fits leading (magnitudeEq ▸ finite),
    ← magnitudeEq]

/-- One format has room for the numbers of another. -/
structure Widens (narrow wide : BinaryFormat) : Prop where
  fraction : narrow.fractionBits ≤ wide.fractionBits
  places : narrow.unitPlaces ≤ wide.unitPlaces
  exponent :
    Nat.pow 2 narrow.exponentBits + (wide.unitPlaces - narrow.unitPlaces) ≤
      Nat.pow 2 wide.exponentBits - 1

variable {narrow wide : BinaryFormat}

/-- The finite numbers of a narrow format are numbers of a wider one. -/
theorem Widens.roundUnits (widens : Widens narrow wide) {magnitude : Nat}
    (finite : magnitude < narrow.infinityWord) :
    let widened := wide.roundUnits
      (narrow.units magnitude * Nat.pow 2 wide.unitPlaces)
      (Nat.pow 2 narrow.unitPlaces)
    widened < wide.infinityWord ∧
      wide.units widened =
        narrow.units magnitude *
          Nat.pow 2 (wide.unitPlaces - narrow.unitPlaces) := by
  obtain ⟨shift, significand, unitsEq, _, fits, shiftLt, _⟩ :=
    exists_units finite
  obtain ⟨more, moreEq⟩ := Nat.exists_eq_add_of_le widens.places
  have exponent := widens.exponent
  rw [moreEq, Nat.add_sub_cancel_left] at exponent
  have wideFits : significand < 2 * Nat.pow 2 wide.fractionBits :=
    Nat.lt_of_lt_of_le fits
      (Nat.mul_le_mul_left 2
        (Nat.pow_le_pow_right (by decide) widens.fraction))
  have inside : shift + more + 2 ≤ Nat.pow 2 wide.exponentBits - 1 := by
    omega
  have exact := roundUnits_exact wideFits inside
  have numerator :
      narrow.units magnitude * Nat.pow 2 wide.unitPlaces =
        significand * Nat.pow 2 (shift + more) *
          Nat.pow 2 narrow.unitPlaces := by
    rw [unitsEq, moreEq, two_pow_add, two_pow_add, Nat.mul_assoc,
      Nat.mul_assoc, Nat.mul_assoc, Nat.mul_comm (Nat.pow 2 more)]
  have scaled :
      wide.roundUnits
          (significand * Nat.pow 2 (shift + more) *
            Nat.pow 2 narrow.unitPlaces)
          (1 * Nat.pow 2 narrow.unitPlaces) =
        wide.roundUnits (significand * Nat.pow 2 (shift + more)) 1 :=
    roundUnits_scale _ 1 (Nat.two_pow_pos _)
  rw [Nat.one_mul] at scaled
  rw [numerator, scaled, moreEq, Nat.add_sub_cancel_left, unitsEq,
    Nat.mul_assoc, ← two_pow_add]
  exact exact

theorem convert_finite {word : Nat}
    (finite : narrow.magnitude word < narrow.infinityWord) :
    narrow.convert wide word =
      wide.ofSign (narrow.isNegative word) (wide.roundUnits
        (narrow.units (narrow.magnitude word) * Nat.pow 2 wide.unitPlaces)
        (Nat.pow 2 narrow.unitPlaces)) := by
  have number : narrow.isNaN word = false :=
    decide_eq_false (Nat.not_lt.2 (Nat.le_of_lt finite))
  have bounded : narrow.isInfinite word = false :=
    beq_false_of_ne (Nat.ne_of_lt finite)
  simp [convert, number, bounded]

theorem convert_infinite {word : Nat}
    (infinite : narrow.magnitude word = narrow.infinityWord) :
    narrow.convert wide word =
      wide.ofSign (narrow.isNegative word) wide.infinityWord := by
  have number : narrow.isNaN word = false :=
    decide_eq_false (Nat.not_lt.2 (Nat.le_of_eq infinite))
  have unbounded : narrow.isInfinite word = true := beq_iff_eq.2 infinite
  simp [convert, number, unbounded]

/-- A number of a narrow format is the same after it was converted to a wider
one and back. -/
theorem Widens.convert_convert (widens : Widens narrow wide) {word : Nat}
    (fits : word < narrow.signWord + narrow.signWord)
    (number : narrow.isNaN word = false) :
    wide.convert narrow (narrow.convert wide word) = word := by
  have bounded : narrow.magnitude word ≤ narrow.infinityWord :=
    Nat.not_lt.1 (of_decide_eq_false number)
  rcases Nat.lt_or_eq_of_le bounded with finite | infinite
  · obtain ⟨wideFinite, unitsEq⟩ := widens.roundUnits finite
    obtain ⟨more, moreEq⟩ := Nat.exists_eq_add_of_le widens.places
    rw [convert_finite finite]
    generalize wide.roundUnits
      (narrow.units (narrow.magnitude word) * Nat.pow 2 wide.unitPlaces)
      (Nat.pow 2 narrow.unitPlaces) = widened at wideFinite unitsEq ⊢
    have inside := Nat.lt_trans wideFinite (infinityWord_lt wide)
    have magnitudeEq :=
      magnitude_ofSign (narrow.isNegative word) inside
    rw [convert_finite (by rw [magnitudeEq]; exact wideFinite), magnitudeEq,
      isNegative_ofSign _ inside, unitsEq, moreEq, Nat.add_sub_cancel_left,
      Nat.mul_assoc, ← two_pow_add, Nat.add_comm more]
    have scaled :
        narrow.roundUnits
            (narrow.units (narrow.magnitude word) *
              Nat.pow 2 (narrow.unitPlaces + more))
            (1 * Nat.pow 2 (narrow.unitPlaces + more)) =
          narrow.roundUnits (narrow.units (narrow.magnitude word)) 1 :=
      roundUnits_scale _ 1 (Nat.two_pow_pos _)
    rw [Nat.one_mul] at scaled
    rw [scaled, roundUnits_units finite, ofSign_isNegative fits]
  · rw [convert_infinite infinite]
    have inside := infinityWord_lt wide
    have magnitudeEq := magnitude_ofSign (narrow.isNegative word) inside
    rw [convert_infinite magnitudeEq, isNegative_ofSign _ inside, ← infinite,
      ofSign_isNegative fits]

theorem infinityWord_add (F : BinaryFormat) :
    F.infinityWord + Nat.pow 2 F.fractionBits = F.signWord := by
  have one : 0 < Nat.pow 2 F.exponentBits := Nat.two_pow_pos _
  rw [infinityWord, signWord, magnitudeBits, two_pow_add, ← Nat.succ_mul]
  congr 1
  omega

/-- The magnitude that is made of what is not a number. -/
theorem quieted_lt {target : BinaryFormat} {kept : Nat}
    (fraction : 0 < target.fractionBits)
    (low : kept < Nat.pow 2 target.fractionBits) :
    target.infinityWord < target.infinityWord + (kept ||| target.quietBit) ∧
      target.infinityWord + (kept ||| target.quietBit) < target.signWord := by
  have quiet : target.quietBit < Nat.pow 2 target.fractionBits :=
    Nat.pow_lt_pow_right (by decide) (Nat.sub_lt fraction (by decide))
  have size := infinityWord_add target
  have bound : kept ||| target.quietBit < Nat.pow 2 target.fractionBits :=
    Nat.or_lt_two_pow low quiet
  have some : 0 < kept ||| target.quietBit :=
    Nat.lt_of_lt_of_le (Nat.two_pow_pos _) Nat.right_le_or
  constructor <;> omega

theorem moved_lt (source target : BinaryFormat) (magnitude : Nat) :
    magnitude % Nat.pow 2 source.fractionBits *
        Nat.pow 2 target.fractionBits / Nat.pow 2 source.fractionBits <
      Nat.pow 2 target.fractionBits := by
  apply Nat.div_lt_of_lt_mul
  exact Nat.mul_lt_mul_of_pos_right
    (Nat.mod_lt _ (Nat.two_pow_pos _)) (Nat.two_pow_pos _)

theorem convert_invalid {source target : BinaryFormat} {word : Nat}
    (invalid : source.isNaN word = true) :
    source.convert target word =
      target.ofSign (source.isNegative word) (target.infinityWord +
        (source.magnitude word % Nat.pow 2 source.fractionBits *
            Nat.pow 2 target.fractionBits / Nat.pow 2 source.fractionBits |||
          target.quietBit)) := by
  simp [convert, invalid]

/-- What is not a number stays so. -/
theorem isNaN_convert {source target : BinaryFormat} {word : Nat}
    (fraction : 0 < target.fractionBits)
    (invalid : source.isNaN word = true) :
    target.isNaN (source.convert target word) = true := by
  obtain ⟨above, inside⟩ :=
    quieted_lt fraction (moved_lt source target (source.magnitude word))
  rw [convert_invalid invalid, isNaN, magnitude_ofSign _ inside]
  exact decide_eq_true above

/-- What is a number stays so. -/
theorem isNaN_convert_of_number {source target : BinaryFormat} {word : Nat}
    (number : source.isNaN word = false) :
    target.isNaN (source.convert target word) = false := by
  have bounded : source.magnitude word ≤ source.infinityWord :=
    Nat.not_lt.1 (of_decide_eq_false number)
  have infinite := infinityWord_lt target
  apply decide_eq_false
  rw [Nat.not_lt]
  rcases Nat.lt_or_eq_of_le bounded with finite | unbounded
  · have atMost : target.roundUnits
        (source.units (source.magnitude word) * Nat.pow 2 target.unitPlaces)
        (Nat.pow 2 source.unitPlaces) ≤ target.infinityWord :=
      Nat.min_le_left _ _
    rw [convert_finite finite,
      magnitude_ofSign _ (Nat.lt_of_le_of_lt atMost infinite)]
    exact atMost
  · apply Nat.le_of_eq
    rw [convert_infinite unbounded, magnitude_ofSign _ infinite]

/-- The sign is kept. -/
theorem exists_convert (source : BinaryFormat) {target : BinaryFormat}
    (word : Nat) (fraction : 0 < target.fractionBits) :
    ∃ magnitude, magnitude < target.signWord ∧
      source.convert target word =
        target.ofSign (source.isNegative word) magnitude := by
  refine ⟨_, ?_, rfl⟩
  obtain ⟨_, inside⟩ :=
    quieted_lt fraction (moved_lt source target (source.magnitude word))
  have infinite := infinityWord_lt target
  by_cases invalid : source.isNaN word = true
  · rw [if_pos invalid]
    exact inside
  · by_cases unbounded : source.isInfinite word = true
    · rw [if_neg invalid, if_pos unbounded]
      exact infinite
    · rw [if_neg invalid, if_neg unbounded]
      exact Nat.lt_of_le_of_lt (Nat.min_le_left _ _) infinite

theorem convert_lt (source : BinaryFormat) {target : BinaryFormat}
    (word : Nat) (fraction : 0 < target.fractionBits) :
    source.convert target word < target.signWord + target.signWord := by
  obtain ⟨magnitude, inside, convertEq⟩ :=
    source.exists_convert word fraction
  rw [convertEq]
  exact ofSign_lt _ inside

theorem isNegative_convert (source : BinaryFormat) {target : BinaryFormat}
    (word : Nat) (fraction : 0 < target.fractionBits) :
    target.isNegative (source.convert target word) =
      source.isNegative word := by
  obtain ⟨magnitude, inside, convertEq⟩ :=
    source.exists_convert word fraction
  rw [convertEq, isNegative_ofSign _ inside]

/-- Neither a number nor an infinity, and marked as quiet. -/
structure IsQuiet (F : BinaryFormat) (word fraction : Nat) : Prop where
  magnitude : F.magnitude word = F.infinityWord + fraction
  fits : fraction < Nat.pow 2 F.fractionBits
  quiet : fraction ||| F.quietBit = fraction

namespace IsQuiet

variable {F : BinaryFormat} {word fraction : Nat}

theorem isNaN (isQuiet : F.IsQuiet word fraction) : F.isNaN word = true := by
  have some : 0 < fraction := by
    rw [← isQuiet.quiet]
    exact Nat.lt_of_lt_of_le (Nat.two_pow_pos _) Nat.right_le_or
  apply decide_eq_true
  rw [isQuiet.magnitude]
  omega

theorem magnitude_mod (isQuiet : F.IsQuiet word fraction) :
    F.magnitude word % Nat.pow 2 F.fractionBits = fraction := by
  rw [isQuiet.magnitude, infinityWord, Nat.mul_add_mod_self_right,
    Nat.mod_eq_of_lt isQuiet.fits]

/-- Conversion makes quiet what is not a number. -/
theorem of_convert {source target : BinaryFormat} {word : Nat}
    (positive : 0 < target.fractionBits)
    (invalid : source.isNaN word = true) :
    ∃ fraction, target.IsQuiet (source.convert target word) fraction := by
  have low := moved_lt source target (source.magnitude word)
  rw [convert_invalid invalid]
  generalize source.magnitude word % Nat.pow 2 source.fractionBits *
    Nat.pow 2 target.fractionBits / Nat.pow 2 source.fractionBits =
      moved at low ⊢
  have bit : target.quietBit < Nat.pow 2 target.fractionBits :=
    Nat.pow_lt_pow_right (by decide) (Nat.sub_lt positive (by decide))
  refine ⟨moved ||| target.quietBit, ?_, Nat.or_lt_two_pow low bit, ?_⟩
  · exact magnitude_ofSign _ (quieted_lt positive low).2
  · rw [Nat.or_assoc, Nat.or_self]

/-- In a wider format more bits of the fraction are clear. -/
theorem widen {narrow wide : BinaryFormat} {word fraction : Nat}
    (positive : 0 < narrow.fractionBits) {more : Nat}
    (moreEq : wide.fractionBits = narrow.fractionBits + more)
    (isQuiet : narrow.IsQuiet word fraction) :
    wide.IsQuiet (narrow.convert wide word) (fraction * Nat.pow 2 more) := by
  have low : fraction * Nat.pow 2 more < Nat.pow 2 wide.fractionBits := by
    rw [moreEq, two_pow_add]
    exact Nat.mul_lt_mul_of_pos_right isQuiet.fits (Nat.two_pow_pos _)
  have moved : fraction * Nat.pow 2 wide.fractionBits /
      Nat.pow 2 narrow.fractionBits = fraction * Nat.pow 2 more := by
    rw [moreEq, two_pow_add, Nat.mul_left_comm]
    exact Nat.mul_div_cancel_left _ (Nat.two_pow_pos _)
  have bit : wide.quietBit = narrow.quietBit * Nat.pow 2 more := by
    rw [quietBit, quietBit, ← two_pow_add, moreEq]
    congr 1
    omega
  have quiet : fraction * Nat.pow 2 more ||| wide.quietBit =
      fraction * Nat.pow 2 more := by
    have shifted : (fraction ||| narrow.quietBit) <<< more =
        fraction <<< more ||| narrow.quietBit <<< more :=
      Nat.shiftLeft_or_distrib
    rw [isQuiet.quiet, Nat.shiftLeft_eq, Nat.shiftLeft_eq] at shifted
    rw [bit]
    exact shifted.symm
  have inside :
      wide.infinityWord + fraction * Nat.pow 2 more < wide.signWord := by
    have size := infinityWord_add wide
    omega
  rw [convert_invalid isQuiet.isNaN, isQuiet.magnitude_mod, moved, quiet]
  exact ⟨magnitude_ofSign _ inside, low, quiet⟩

end IsQuiet

/-- What is not a number and quiet is the same after it was converted to a
wider format and back. -/
theorem Widens.convert_quiet (widens : Widens narrow wide)
    (positive : 0 < narrow.fractionBits) {word fraction : Nat}
    (fits : word < narrow.signWord + narrow.signWord)
    (isQuiet : narrow.IsQuiet word fraction) :
    wide.convert narrow (narrow.convert wide word) = word := by
  obtain ⟨more, moreEq⟩ := Nat.exists_eq_add_of_le widens.fraction
  have wideQuiet := isQuiet.widen positive moreEq
  have signEq := narrow.isNegative_convert word
    (Nat.lt_of_lt_of_le positive widens.fraction)
  have back : fraction * Nat.pow 2 more * Nat.pow 2 narrow.fractionBits /
      Nat.pow 2 wide.fractionBits = fraction := by
    rw [moreEq, Nat.add_comm, two_pow_add, Nat.mul_assoc]
    exact Nat.mul_div_cancel _
      (Nat.mul_pos (Nat.two_pow_pos _) (Nat.two_pow_pos _))
  rw [convert_invalid wideQuiet.isNaN, wideQuiet.magnitude_mod, back,
    isQuiet.quiet, signEq, ← isQuiet.magnitude, ofSign_isNegative fits]

/-- What was converted to a narrow format is the same after it was converted
to a wider one and back, a number or not. -/
theorem Widens.convert_stable (widens : Widens narrow wide)
    (positive : 0 < narrow.fractionBits) (word : Nat) :
    wide.convert narrow (narrow.convert wide (wide.convert narrow word)) =
      wide.convert narrow word := by
  have fits := convert_lt wide word positive
  cases invalid : wide.isNaN word with
  | false =>
      exact widens.convert_convert fits (isNaN_convert_of_number invalid)
  | true =>
      obtain ⟨fraction, isQuiet⟩ := IsQuiet.of_convert positive invalid
      exact widens.convert_quiet positive fits isQuiet

theorem widens_half : Widens .half .double := by
  constructor <;> decide

theorem widens_single : Widens .single .double := by
  constructor <;> decide

end BinaryFormat

end ActuatorBus
