import ActuatorBus.Proofs.Binary.Conversion
import ActuatorBus.Proofs.Packet.Parameters

/-!
# Values in registers

A register does not hold a value as it was given, but what its bytes stand for.
Whatever a register holds can be given to it again.
-/

namespace ActuatorBus

theorem Double.isIntegral_ofInt {n : Int} (fits : n.natAbs < 0x20000000000000) :
    ∃ x, Double.ofInt? n = some x ∧ x.isIntegral = true := by
  obtain ⟨x, nearest, isFinite, unitsEq⟩ := Double.ofInt?_exact fits
  refine ⟨x, nearest, ?_⟩
  have whole : x.units % Double.unitsPerOne = 0 := by
    rw [unitsEq]
    exact Int.mul_emod_left _ _
  rw [Double.isIntegral, Double.toInt?, isFinite, whole]
  rfl

theorem ByteWidth.values_eq (width : ByteWidth) :
    width.values = Nat.pow 256 width.bytes := by
  cases width <;> rfl

theorem Precision.widens (precision : Precision) :
    BinaryFormat.Widens precision.format .double := by
  cases precision with
  | half => exact BinaryFormat.widens_half
  | single => exact BinaryFormat.widens_single

theorem Precision.signWord_eq (precision : Precision) :
    precision.format.signWord + precision.format.signWord =
      Nat.pow 256 precision.bytes := by
  cases precision <;> decide

theorem Precision.fractionBits_pos (precision : Precision) :
    0 < precision.format.fractionBits := by
  cases precision <;> decide

/-- Whether a number is none at all. -/
def Number.isNaN : Number → Bool
  | integer _ => false
  | real x => x.isNaN

/-- Two numbers have the same value, or both have none. -/
def Number.Alike (first second : Number) : Prop :=
  first.same second = true ∨ first.isNaN = true ∧ second.isNaN = true

theorem Number.alike_refl (number : Number) : number.Alike number := by
  cases number with
  | integer n => exact Or.inl (beq_self_eq_true n)
  | real x =>
      by_cases invalid : x.isNaN = true
      · exact Or.inr ⟨invalid, invalid⟩
      · exact Or.inl (by simp [Number.same, Double.same, invalid])

namespace Register

variable {register : Register} {bytes : Bytes}

theorem width_le (register : Register) : register.width ≤ 4 := by
  unfold width NumberFormat.width
  rcases register.format with width | width | precision
  · cases width <;> decide
  · cases width <;> decide
  · cases precision <;> decide

theorem decode_of_counted (counted : bytes.length = register.width) :
    register.decode bytes = .ok (register.format.value bytes) := by
  simp [decode, ExpectedCount.check, ExpectedCount.admits, counted]

theorem decode_of_miscounted (miscounted : bytes.length ≠ register.width) :
    register.decode bytes =
      .error (.invalidParameterCount bytes.length
        ⟨.exactly, register.width⟩) := by
  have different : (bytes.length : Int) ≠ register.width := by omega
  simp [decode, ExpectedCount.check, ExpectedCount.admits, different]

/-- What a register holds of a value. -/
def stored (register : Register) (value : Value) : Except Fault Number := do
  register.decode (← register.image value)

theorem length_image {value : Value} (made : register.image value = .ok bytes) :
    bytes.length = register.width := by
  obtain ⟨encoded, _, fitted⟩ := bind_eq_ok_iff.1 made
  exact Filler.length_fitting fitted

theorem stored_of_image {value : Value}
    (made : register.image value = .ok bytes) :
    register.stored value = .ok (register.format.value bytes) := by
  rw [stored, made, ok_bind, decode_of_counted (length_image made)]

/-! ## Giving back what is held -/

theorem encodeWhole_integer (register : Register) (width : ByteWidth)
    {range : Int × Int} {n : Int} (small : n.natAbs < 0x20000000000000)
    (least : range.1 ≤ n) (greatest : n ≤ range.2) :
    ∃ nearest, (Number.integer n).toDouble? = some nearest ∧
      register.encodeWhole width range (.integer n) nearest =
        .ok (NumberFormat.integerBytes width n) := by
  obtain ⟨nearest, nearestEq, integral⟩ := Double.isIntegral_ofInt small
  refine ⟨nearest, nearestEq, ?_⟩
  simp [encodeWhole, integral, Number.toInt?, encodeInteger, least, greatest]

theorem encodeNumber_unsigned {width : ByteWidth}
    (format : register.format = .unsigned width) {n : Int}
    (least : 0 ≤ n) (greatest : n < width.values) :
    register.encodeNumber (.integer n) =
      .ok (NumberFormat.integerBytes width n) := by
  have small : n.natAbs < 0x20000000000000 := by
    cases width <;> simp only [ByteWidth.values] at greatest <;> omega
  have inside : n ≤ width.unsignedRange.2 := by
    simp only [ByteWidth.unsignedRange]
    omega
  obtain ⟨nearest, nearestEq, encoded⟩ :=
    encodeWhole_integer register width small least inside
  simp only [encodeNumber, nearestEq, format, encoded]

theorem encodeNumber_signed {width : ByteWidth}
    (format : register.format = .signed width) {n : Int}
    (least : -(width.values / 2) ≤ n) (greatest : n < width.values / 2) :
    register.encodeNumber (.integer n) =
      .ok (NumberFormat.integerBytes width n) := by
  have small : n.natAbs < 0x20000000000000 := by
    cases width <;> simp only [ByteWidth.values] at least greatest <;> omega
  have inside : n ≤ width.signedRange.2 := by
    simp only [ByteWidth.signedRange]
    omega
  obtain ⟨nearest, nearestEq, encoded⟩ :=
    encodeWhole_integer register width small least inside
  simp only [encodeNumber, nearestEq, format, encoded]

theorem encodeNumber_real {precision : Precision}
    (format : register.format = .real precision) {value : Number}
    {nearest : Double} (nearestEq : value.toDouble? = some nearest) :
    register.encodeNumber value =
      .ok (NumberFormat.realBytes precision nearest) := by
  simp only [encodeNumber, nearestEq, format]

/-- The bytes of an integer that is congruent to the one of some bytes. -/
theorem integerBytes_toNat {width : ByteWidth}
    (counted : bytes.length = width.bytes) {n : Int}
    (congruent : n % width.values = bytes.toNat) :
    NumberFormat.integerBytes width n = bytes := by
  rw [NumberFormat.integerBytes, congruent, Int.toNat_natCast, ← counted,
    Bytes.ofNat_toNat]

theorem toNat_lt_values {width : ByteWidth}
    (counted : bytes.length = width.bytes) :
    (bytes.toNat : Int) < width.values := by
  rw [ByteWidth.values_eq, ← counted]
  exact Int.ofNat_lt.2 (Bytes.toNat_lt bytes)

theorem encodeNumber_unsigned_value {width : ByteWidth}
    (format : register.format = .unsigned width)
    (counted : bytes.length = width.bytes) :
    register.encodeNumber ((NumberFormat.unsigned width).value bytes) =
      .ok bytes := by
  have inside := toNat_lt_values counted
  have nonneg : 0 ≤ (bytes.toNat : Int) := Int.natCast_nonneg _
  rw [NumberFormat.value, encodeNumber_unsigned format nonneg inside,
    integerBytes_toNat counted (Int.emod_eq_of_lt nonneg inside)]

theorem encodeNumber_signed_value {width : ByteWidth}
    (format : register.format = .signed width)
    (counted : bytes.length = width.bytes) :
    register.encodeNumber ((NumberFormat.signed width).value bytes) =
      .ok bytes := by
  have inside := toNat_lt_values counted
  have nonneg : 0 ≤ (bytes.toNat : Int) := Int.natCast_nonneg _
  have even : width.values = 2 * (width.values / 2) := by
    cases width <;> rfl
  simp only [NumberFormat.value]
  by_cases low : (bytes.toNat : Int) < width.values / 2
  · rw [if_pos low, encodeNumber_signed format (by omega) low,
      integerBytes_toNat counted (Int.emod_eq_of_lt nonneg inside)]
  · have wraps :
        ((bytes.toNat : Int) - width.values) % width.values =
          bytes.toNat := by
      rw [Int.sub_emod_right, Int.emod_eq_of_lt nonneg inside]
    rw [if_neg low, encodeNumber_signed format (by omega) (by omega),
      integerBytes_toNat counted wraps]

/-- The word of the double that bytes of a precision stand for. -/
theorem word_value (precision : Precision) (word : Nat) :
    (Double.ofWord (precision.format.convert .double word)).word =
      precision.format.convert .double word := by
  have size :
      BinaryFormat.double.signWord + BinaryFormat.double.signWord =
        UInt64.size := by decide
  apply Double.word_ofWord
  rw [← size]
  exact BinaryFormat.convert_lt _ word (by decide)

theorem encodeNumber_real_value {precision : Precision}
    (format : register.format = .real precision)
    (counted : bytes.length = precision.bytes) :
    ∃ again, again.length = precision.bytes ∧
      register.encodeNumber ((NumberFormat.real precision).value bytes) =
        .ok again ∧
      ((NumberFormat.real precision).value again).Alike
        ((NumberFormat.real precision).value bytes) := by
  have inside :
      bytes.toNat < precision.format.signWord + precision.format.signWord := by
    rw [precision.signWord_eq, ← counted]
    exact Bytes.toNat_lt bytes
  have encoded :
      register.encodeNumber ((NumberFormat.real precision).value bytes) = _ :=
    encodeNumber_real format rfl
  rw [NumberFormat.realBytes, word_value] at encoded
  refine ⟨_, Bytes.length_ofNat _ _, encoded, ?_⟩
  by_cases invalid : precision.format.isNaN bytes.toNat = true
  · right
    have wide : BinaryFormat.double.isNaN
        (precision.format.convert .double bytes.toNat) = true :=
      BinaryFormat.isNaN_convert (by decide) invalid
    have narrow := BinaryFormat.isNaN_convert precision.fractionBits_pos wide
    have bound :=
      BinaryFormat.convert_lt .double
        (precision.format.convert .double bytes.toNat)
        precision.fractionBits_pos
    rw [precision.signWord_eq] at bound
    simp only [NumberFormat.value, Number.isNaN, Double.isNaN, word_value,
      Bytes.toNat_ofNat, Nat.mod_eq_of_lt bound]
    exact ⟨BinaryFormat.isNaN_convert (by decide) narrow, wide⟩
  · have number : precision.format.isNaN bytes.toNat = false := by
      simpa using invalid
    rw [precision.widens.convert_convert inside number, ← counted,
      Bytes.ofNat_toNat]
    exact Number.alike_refl _

theorem length_encodeInteger {width : ByteWidth} {range : Int × Int} {n : Int}
    (encoded : register.encodeInteger width range n = .ok bytes) :
    bytes.length = width.bytes := by
  unfold encodeInteger at encoded
  split at encoded
  · cases encoded
    exact Bytes.length_ofNat _ _
  · cases encoded

theorem length_encodeWhole {width : ByteWidth} {range : Int × Int}
    {value : Number} {nearest : Double}
    (encoded : register.encodeWhole width range value nearest = .ok bytes) :
    bytes.length = width.bytes := by
  unfold encodeWhole at encoded
  split at encoded
  · exact length_encodeInteger encoded
  · cases encoded

theorem length_encodeNumber {value : Number}
    (encoded : register.encodeNumber value = .ok bytes) :
    bytes.length = register.width := by
  unfold encodeNumber at encoded
  unfold width
  cases nearestEq : value.toDouble? with
  | none =>
      rw [nearestEq] at encoded
      cases encoded
  | some nearest =>
      simp only [nearestEq] at encoded
      cases format : register.format with
      | unsigned width =>
          simp only [format] at encoded
          exact length_encodeWhole encoded
      | signed width =>
          simp only [format] at encoded
          exact length_encodeWhole encoded
      | real precision =>
          simp only [format] at encoded
          cases encoded
          exact Bytes.length_ofNat _ _

theorem image_number (value : Number) :
    register.image (.number value) = register.encodeNumber value := by
  rw [image, encode_number]
  cases encoded : register.encodeNumber value with
  | error fault => rfl
  | ok bytes =>
      rw [ok_bind, Filler.fitting, if_pos (length_encodeNumber encoded)]

/-- A register that holds a value holds the same value once it is given
it. -/
def Keeps (register : Register) (value : Number) : Prop :=
  ∃ again, register.stored (.number value) = .ok again ∧ again.Alike value

theorem stored_of_encodeNumber {value : Number}
    (encoded : register.encodeNumber value = .ok bytes) :
    register.stored (.number value) = .ok (register.format.value bytes) :=
  stored_of_image (by rw [image_number, encoded])

/-- What a register holds is what it holds if it is given that. -/
theorem keeps_value (counted : bytes.length = register.width) :
    register.Keeps (register.format.value bytes) := by
  unfold width NumberFormat.width at counted
  cases format : register.format with
  | unsigned width =>
      rw [format] at counted
      have stored :=
        stored_of_encodeNumber (encodeNumber_unsigned_value format counted)
      rw [format] at stored
      exact ⟨_, stored, Number.alike_refl _⟩
  | signed width =>
      rw [format] at counted
      have stored :=
        stored_of_encodeNumber (encodeNumber_signed_value format counted)
      rw [format] at stored
      exact ⟨_, stored, Number.alike_refl _⟩
  | real precision =>
      rw [format] at counted
      obtain ⟨again, _, encoded, alike⟩ :=
        encodeNumber_real_value format counted
      have stored := stored_of_encodeNumber encoded
      rw [format] at stored
      exact ⟨_, stored, alike⟩

theorem keeps_byte (format : register.format = .unsigned .four)
    (byte : UInt8) : register.Keeps (.integer byte.toNat) := by
  have value :
      register.format.value (Bytes.ofNat 4 byte.toNat) =
        .integer byte.toNat := by
    have bound := byte.toNat_lt
    have small : byte.toNat < Nat.pow 256 4 :=
      Nat.lt_trans bound (by decide)
    rw [format, NumberFormat.value, Bytes.toNat_ofNat,
      Nat.mod_eq_of_lt small]
  rw [← value]
  apply keeps_value
  rw [Bytes.length_ofNat, width, format]
  rfl

theorem keeps_zero (register : Register) : register.Keeps (.integer 0) := by
  cases format : register.format with
  | unsigned width =>
      have value :
          register.format.value (Bytes.ofNat width.bytes 0) =
            .integer 0 := by
        rw [format]
        cases width <;> rfl
      rw [← value]
      apply keeps_value
      rw [Bytes.length_ofNat, Register.width, format]
      rfl
  | signed width =>
      have value :
          register.format.value (Bytes.ofNat width.bytes 0) =
            .integer 0 := by
        rw [format]
        cases width <;> decide
      rw [← value]
      apply keeps_value
      rw [Bytes.length_ofNat, Register.width, format]
      rfl
  | real precision =>
      have zero : (Number.integer 0).toDouble? = some .zero := by
        decide +kernel
      have stored :=
        stored_of_encodeNumber (encodeNumber_real format zero)
      refine ⟨_, stored, Or.inl ?_⟩
      rw [format]
      cases precision <;> decide +kernel

end Register

end ActuatorBus
