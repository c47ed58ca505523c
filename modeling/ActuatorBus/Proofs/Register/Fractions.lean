import ActuatorBus.Proofs.Binary.Casts
import ActuatorBus.Proofs.Register.Codec

/-!
# Fractions in registers

A register that holds a fraction rounds what it is given, once if that is a
double and twice if it is an integer that no double is. What its bytes stand for
is no longer rounded: it is encoded as the bytes that it was decoded from.
-/

namespace ActuatorBus

/-- The double that bytes of a precision stand for. -/
def Precision.decoded (precision : Precision) (bytes : Bytes) : Double :=
  .ofWord (precision.format.convert .double bytes.toNat)

namespace Register

variable {register : Register} {precision : Precision} {bytes : Bytes}

theorem decode_real (format : register.format = .real precision)
    (counted : bytes.length = register.width) :
    register.decode bytes = .ok (.real (precision.decoded bytes)) := by
  rw [decode_of_counted counted, format]
  rfl

theorem length_eq (format : register.format = .real precision)
    (counted : bytes.length = register.width) :
    bytes.length = precision.bytes := by
  rw [counted, width, format]
  rfl

theorem toNat_lt_words (counted : bytes.length = precision.bytes) :
    bytes.toNat < precision.format.signWord + precision.format.signWord := by
  rw [precision.signWord_eq, ← counted]
  exact Bytes.toNat_lt bytes

/-- Bytes are encoded again once their word is the same after it was converted
to a double and back. -/
theorem encode_decoded (format : register.format = .real precision)
    (counted : bytes.length = precision.bytes)
    (kept : BinaryFormat.double.convert precision.format
      (precision.format.convert .double bytes.toNat) = bytes.toNat) :
    register.encode (.number (.real (precision.decoded bytes))) =
      .ok bytes := by
  rw [encode_number, encodeNumber_real format rfl, NumberFormat.realBytes,
    Precision.decoded, word_value, kept, ← counted, Bytes.ofNat_toNat]

/-- What a register makes of a double. -/
theorem toNat_realBytes (precision : Precision) (x : Double) :
    (NumberFormat.realBytes precision x).toNat =
      BinaryFormat.double.convert precision.format x.word := by
  have fits :=
    BinaryFormat.convert_lt .double x.word precision.fractionBits_pos
  rw [precision.signWord_eq] at fits
  rw [NumberFormat.realBytes, Bytes.toNat_ofNat, Nat.mod_eq_of_lt fits]

theorem realBytes_of_encode (format : register.format = .real precision)
    {value : Number} (encoded : register.encode (.number value) = .ok bytes) :
    ∃ nearest, value.toDouble? = some nearest ∧
      bytes = NumberFormat.realBytes precision nearest := by
  rw [encode_number] at encoded
  cases nearestEq : value.toDouble? with
  | none => simp [encodeNumber, nearestEq] at encoded
  | some nearest =>
      rw [encodeNumber_real format nearestEq] at encoded
      cases encoded
      exact ⟨nearest, rfl, rfl⟩

/-- A register that holds a fraction decodes bytes that are a number exactly,
and encodes what it decoded as the same bytes. It encodes a number as the word
nearest to the double that stands for it, and what these bytes are decoded to is
encoded as these bytes again, be it a number or not. -/
theorem real_codec_stable (format : register.format = .real precision) :
    (∀ bytes : Bytes, bytes.length = register.width →
      precision.format.isNaN bytes.toNat = false →
        ∃ x, register.decode bytes = .ok (.real x) ∧
          precision.format.Exact .double bytes.toNat x.word ∧
          register.encode (.number (.real x)) = .ok bytes) ∧
    ∀ (value : Number) bytes,
      register.encode (.number value) = .ok bytes →
        (∃ nearest, Number.StandsFor nearest value ∧
          BinaryFormat.double.Rounded precision.format nearest.word
            bytes.toNat) ∧
        ∃ x, register.decode bytes = .ok (.real x) ∧
          register.encode (.number (.real x)) = .ok bytes := by
  have positive := precision.fractionBits_pos
  constructor
  · intro bytes counted number
    refine ⟨_, decode_real format counted, ?_, ?_⟩
    · rw [Precision.decoded, word_value]
      exact precision.widens.exact_convert positive number
    · have fits := toNat_lt_words (length_eq format counted)
      exact encode_decoded format (length_eq format counted)
        (precision.widens.convert_convert fits number)
  · intro value bytes encoded
    have counted : bytes.length = register.width :=
      length_encodeNumber encoded
    obtain ⟨nearest, nearestEq, rfl⟩ := realBytes_of_encode format encoded
    constructor
    · refine ⟨nearest, Number.standsFor_toDouble? nearestEq, ?_⟩
      rw [toNat_realBytes]
      exact BinaryFormat.rounded_convert (by decide) positive nearest.word
    · refine ⟨_, decode_real format counted,
        encode_decoded format (length_eq format counted) ?_⟩
      rw [toNat_realBytes]
      exact precision.widens.convert_stable positive nearest.word

/-- The negative number next to zero, an integer that is rounded twice and would
be a greater number if it were rounded once, and what is not a number. -/
theorem real_codec_stable_of_rounded_twice :
    let gain : Register :=
      ⟨.words "gain", "<f4", .real .single, .flag true, none, .nothing⟩
    let twice : Number := .integer 0x1000001000000001
    gain.format = .real .single ∧
      (∃ x, gain.decode [1, 0, 0, 0x80] = .ok (.real x) ∧
        gain.encode (.number (.real x)) = .ok [1, 0, 0, 0x80]) ∧
      gain.encode (.number twice) = .ok [0, 0, 0x80, 0x5D] ∧
      (∃ x, gain.decode [0, 0, 0x80, 0x5D] = .ok (.real x) ∧
        gain.encode (.number (.real x)) = .ok [0, 0, 0x80, 0x5D]) ∧
      gain.encode (.number (.real .nan)) = .ok [0, 0, 0xC0, 0x7F] ∧
      ∃ x, gain.decode [0, 0, 0xC0, 0x7F] = .ok (.real x) ∧
        gain.encode (.number (.real x)) = .ok [0, 0, 0xC0, 0x7F] := by
  intro gain twice
  have format : gain.format = .real .single := rfl
  obtain ⟨numbers, stable⟩ := real_codec_stable format
  have rounded : gain.encode (.number twice) = .ok [0, 0, 0x80, 0x5D] := by
    decide +kernel
  have invalid :
      gain.encode (.number (.real .nan)) = .ok [0, 0, 0xC0, 0x7F] := by
    decide +kernel
  obtain ⟨least, decoded, _, encoded⟩ :=
    numbers [1, 0, 0, 0x80] rfl (by decide)
  exact ⟨format, ⟨least, decoded, encoded⟩, rounded,
    (stable _ _ rounded).2, invalid, (stable _ _ invalid).2⟩

end Register

end ActuatorBus
