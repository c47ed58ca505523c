import ActuatorBus.Proofs.Binary.Values
import ActuatorBus.Proofs.Register.Misfits

/-!
# Integers in registers

An integer register takes exactly the numbers whose value is an integer of its
range, whether they are given as integers or as doubles. Their bytes are the
integer in two's complement, and stand for this integer alone; and all bytes of
the right number stand for an integer of the range, whose bytes they are.
-/

namespace ActuatorBus

/-- The bytes of an integer in two's complement, low byte first. -/
structure Represents (width : Nat) (n : Int) (bytes : Bytes) : Prop where
  counted : bytes.length = width
  congruent : (bytes.toNat : Int) = n % (Nat.pow 256 width : Nat)

namespace NumberFormat

theorem represents_integerBytes (width : ByteWidth) (n : Int) :
    Represents width.bytes n (integerBytes width n) := by
  have nonneg : 0 ≤ n % width.values :=
    Int.emod_nonneg n (by cases width <;> decide)
  have below : n % width.values < width.values :=
    Int.emod_lt_of_pos n (by cases width <;> decide)
  refine ⟨Bytes.length_ofNat _ _, ?_⟩
  rw [ByteWidth.values_eq] at nonneg below
  rw [integerBytes, Bytes.toNat_ofNat, ByteWidth.values_eq,
    Nat.mod_eq_of_lt (by omega), Int.toNat_of_nonneg nonneg]

/-- The integers of a range have fewer bits than a double keeps. -/
theorem natAbs_lt {format : NumberFormat} {range : Int × Int}
    (integers : format.range? = some range) {n : Int}
    (least : range.1 ≤ n) (greatest : n ≤ range.2) :
    n.natAbs < 0x20000000000000 := by
  cases format with
  | unsigned width =>
      cases integers
      simp only [ByteWidth.unsignedRange] at least greatest
      cases width <;> simp only [ByteWidth.values] at * <;> omega
  | signed width =>
      cases integers
      simp only [ByteWidth.signedRange] at least greatest
      cases width <;> simp only [ByteWidth.values] at * <;> omega
  | real precision => cases integers

/-- Bytes that represent an integer of the range stand for it. -/
theorem value_of_represents {format : NumberFormat} {range : Int × Int}
    (integers : format.range? = some range) {n : Int} {bytes : Bytes}
    (least : range.1 ≤ n) (greatest : n ≤ range.2)
    (represents : Represents format.width n bytes) :
    format.value bytes = .integer n := by
  have congruent := represents.congruent
  cases format with
  | unsigned width =>
      cases integers
      rw [NumberFormat.width, ← ByteWidth.values_eq] at congruent
      have same : (bytes.toNat : Int) = n := by
        simp only [ByteWidth.unsignedRange] at least greatest
        rw [congruent, Int.emod_eq_of_lt least (by omega)]
      rw [value, same]
  | signed width =>
      cases integers
      rw [NumberFormat.width, ← ByteWidth.values_eq] at congruent
      have same : (if (bytes.toNat : Int) < width.values / 2 then
          (bytes.toNat : Int) else bytes.toNat - width.values) = n := by
        simp only [ByteWidth.signedRange] at least greatest
        rw [congruent]
        cases width <;> simp only [ByteWidth.values] at * <;> omega
      rw [value, same]
  | real precision => cases integers

/-- As many bytes as a format is wide stand for an integer of its range. -/
theorem value_inside {format : NumberFormat} {range : Int × Int}
    (integers : format.range? = some range) {bytes : Bytes}
    (counted : bytes.length = format.width) :
    ∃ n, format.value bytes = .integer n ∧ range.1 ≤ n ∧ n ≤ range.2 := by
  cases format with
  | unsigned width =>
      cases integers
      have inside := Register.toNat_lt_values counted
      refine ⟨bytes.toNat, rfl, Int.natCast_nonneg _, ?_⟩
      simp only [ByteWidth.unsignedRange]
      omega
  | signed width =>
      cases integers
      have inside := Register.toNat_lt_values counted
      refine ⟨_, rfl, ?_⟩
      simp only [ByteWidth.signedRange]
      cases width <;> simp only [ByteWidth.values] at * <;> omega
  | real precision => cases integers

end NumberFormat

/-- The double next to a number that is an integer of few bits is an
integer. -/
theorem Number.exists_integral {value : Number} {n : Int}
    (whole : value.toInt? = some n) (small : n.natAbs < 0x20000000000000) :
    ∃ nearest, value.toDouble? = some nearest ∧
      nearest.isIntegral = true := by
  cases value with
  | integer m =>
      cases whole
      exact Double.isIntegral_ofInt small
  | real x =>
      refine ⟨x, rfl, ?_⟩
      rw [Number.toInt?] at whole
      rw [Double.isIntegral, whole]
      rfl

namespace Register

variable {register : Register} {range : Int × Int} {bytes : Bytes}

theorem encodeWhole_fit (register : Register) (width : ByteWidth)
    {value : Number} {nearest : Double} {n : Int}
    (integral : nearest.isIntegral = true) (whole : value.toInt? = some n)
    (least : range.1 ≤ n) (greatest : n ≤ range.2) :
    register.encodeWhole width range value nearest =
      .ok (NumberFormat.integerBytes width n) := by
  simp [encodeWhole, integral, whole, encodeInteger, least, greatest]

/-- An integer register looks at the double next to a number first. -/
theorem exists_encodeWhole (integers : register.format.range? = some range) :
    ∃ width : ByteWidth, register.width = width.bytes ∧
      ∀ {value : Number} {nearest : Double},
        value.toDouble? = some nearest →
        register.encodeNumber value =
          register.encodeWhole width range value nearest := by
  unfold encodeNumber Register.width
  cases format : register.format with
  | unsigned width =>
      rw [format] at integers
      cases integers
      exact ⟨width, rfl, fun nearestEq => by simp only [nearestEq]⟩
  | signed width =>
      rw [format] at integers
      cases integers
      exact ⟨width, rfl, fun nearestEq => by simp only [nearestEq]⟩
  | real precision =>
      rw [format] at integers
      cases integers

/-- A number that is an integer of the range is encoded as this integer,
however it is given. -/
theorem encode_fit (integers : register.format.range? = some range)
    {value : Number} {n : Int} (whole : value.toInt? = some n)
    (least : range.1 ≤ n) (greatest : n ≤ range.2) :
    ∃ bytes, register.encode (.number value) = .ok bytes ∧
      Represents register.width n bytes := by
  have small := NumberFormat.natAbs_lt integers least greatest
  obtain ⟨nearest, nearestEq, integral⟩ := Number.exists_integral whole small
  obtain ⟨width, widthEq, encodeEq⟩ := exists_encodeWhole integers
  rw [encode_number, encodeEq nearestEq, widthEq,
    encodeWhole_fit register width integral whole least greatest]
  exact ⟨_, rfl, NumberFormat.represents_integerBytes width n⟩

/-- A number that is encoded is an integer of the range. -/
theorem fit_of_encode (integers : register.format.range? = some range)
    {value : Number} (encoded : register.encode (.number value) = .ok bytes) :
    ∃ n, value.toInt? = some n ∧ range.1 ≤ n ∧ n ≤ range.2 := by
  by_contra misfit
  have misfits : value.Misfits range := by
    intro n whole
    by_contra inside
    exact misfit ⟨n, whole, by omega, by omega⟩
  rw [encode_misfit integers misfits] at encoded
  cases encoded

/-- What bytes stand for is encoded as these bytes. -/
theorem encode_value (integers : register.format.range? = some range)
    (counted : bytes.length = register.width) :
    register.encode (.number (register.format.value bytes)) = .ok bytes := by
  rw [encode_number]
  rw [Register.width] at counted
  cases format : register.format with
  | unsigned width =>
      rw [format] at counted
      exact encodeNumber_unsigned_value format counted
  | signed width =>
      rw [format] at counted
      exact encodeNumber_signed_value format counted
  | real precision =>
      rw [format] at integers
      cases integers

/-- An integer register takes exactly the numbers whose value is an integer of
its range. Their bytes are this integer in two's complement and are decoded to
it. Bytes that are not as many as the register is wide are refused; all others
are decoded to an integer of the range, whose bytes they are. -/
theorem integer_codec_exact (integers : register.format.range? = some range) :
    (∀ value : Number,
      ((∃ bytes, register.encode (.number value) = .ok bytes) ↔
        ∃ n : Int, value.value? = some (n : ℚ) ∧
          range.1 ≤ n ∧ n ≤ range.2) ∧
      ∀ (n : Int) bytes, value.value? = some (n : ℚ) →
        register.encode (.number value) = .ok bytes →
          Represents register.width n bytes ∧
            register.decode bytes = .ok (.integer n)) ∧
    ∀ bytes : Bytes,
      (bytes.length ≠ register.width →
        register.decode bytes =
          .error (.invalidParameterCount bytes.length
            ⟨.exactly, register.width⟩)) ∧
      (bytes.length = register.width →
        ∃ n, register.decode bytes = .ok (.integer n) ∧
          range.1 ≤ n ∧ n ≤ range.2 ∧
          register.encode (.number (.integer n)) = .ok bytes) := by
  constructor
  · intro value
    constructor
    · constructor
      · rintro ⟨bytes, encoded⟩
        obtain ⟨n, whole, inside⟩ := fit_of_encode integers encoded
        exact ⟨n, (value.toInt?_eq_some_iff n).1 whole, inside⟩
      · rintro ⟨n, valueEq, least, greatest⟩
        have whole := (value.toInt?_eq_some_iff n).2 valueEq
        obtain ⟨bytes, encoded, _⟩ := encode_fit integers whole least greatest
        exact ⟨bytes, encoded⟩
    · intro n bytes valueEq encoded
      have whole := (value.toInt?_eq_some_iff n).2 valueEq
      obtain ⟨m, again, least, greatest⟩ := fit_of_encode integers encoded
      rw [whole] at again
      cases again
      obtain ⟨made, madeEq, represents⟩ :=
        encode_fit integers whole least greatest
      rw [encoded] at madeEq
      cases madeEq
      refine ⟨represents, ?_⟩
      rw [decode_of_counted represents.counted,
        NumberFormat.value_of_represents integers least greatest represents]
  · intro bytes
    refine ⟨decode_of_miscounted, ?_⟩
    intro counted
    obtain ⟨n, valueEq, least, greatest⟩ :=
      NumberFormat.value_inside integers counted
    have again := encode_value integers counted
    rw [valueEq] at again
    refine ⟨n, ?_, least, greatest, again⟩
    rw [decode_of_counted counted, valueEq]

/-- The least integer of two bytes, given as a double, and an integer next to a
power of two that no double has. -/
theorem integer_codec_exact_of_least :
    let trim : Register :=
      ⟨.words "trim", "<i2", .signed .two, .flag true, none, .nothing⟩
    let least : Double := ⟨0xC0E0000000000000⟩
    trim.format.range? = some (-32768, 32767) ∧
      (Number.real least).value? = some ((-32768 : Int) : ℚ) ∧
      (∃ bytes, trim.encode (.number (.real least)) = .ok bytes ∧
        trim.decode bytes = .ok (.integer (-32768))) ∧
      (¬ ∃ bytes,
        trim.encode (.number (.integer 9007199254740993)) = .ok bytes) ∧
      trim.decode [0, 0x80, 0] =
        .error (.invalidParameterCount 3 ⟨.exactly, 2⟩) := by
  intro trim least
  have integers : trim.format.range? = some (-32768, 32767) := rfl
  have valueEq : (Number.real least).value? = some ((-32768 : Int) : ℚ) := by
    rw [← Number.toInt?_eq_some_iff]
    decide +kernel
  obtain ⟨encodes, decodes⟩ := integer_codec_exact integers
  obtain ⟨accepted, represented⟩ := encodes (.real least)
  obtain ⟨bytes, encoded⟩ :=
    accepted.2 ⟨-32768, valueEq, by decide, by decide⟩
  refine ⟨integers, valueEq, ⟨bytes, encoded, ?_⟩, ?_, ?_⟩
  · exact (represented _ bytes valueEq encoded).2
  · intro taken
    obtain ⟨n, same, _, greatest⟩ :=
      (encodes (.integer 9007199254740993)).1.1 taken
    rw [← Number.toInt?_eq_some_iff] at same
    cases same
    exact absurd greatest (by decide)
  · exact (decodes [0, 0x80, 0]).1 (by decide)

end Register

end ActuatorBus
