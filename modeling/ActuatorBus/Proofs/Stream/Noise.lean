import ActuatorBus.Proofs.Stream.Announcement

/-!
# Noise between packets

Bytes without a header that do not end in half of one are skipped, whatever
follows them. A packet behind them is met as a whole, so that a stream of
packets with noise before each comes apart into these packets.
-/

namespace ActuatorBus.Stream

open ActuatorBus.Packet (headerByte)

/-- Bytes without a header, of which the last does not begin one. -/
structure Noise (bytes : Bytes) : Prop where
  headerless : ¬ [headerByte, headerByte] <:+: bytes
  closed : bytes.getLast? ≠ some headerByte

variable {b : UInt8} {bytes rest : Bytes}

theorem noise_nil : Noise [] :=
  ⟨fun header => absurd header.length_le (by decide), by simp⟩

theorem Noise.tail (noise : Noise (b :: rest)) : Noise rest := by
  constructor
  · exact fun header => noise.headerless (List.infix_cons header)
  · cases rest with
    | nil => simp
    | cons c more =>
        have closed := noise.closed
        rwa [List.getLast?_cons_cons] at closed

theorem Noise.not_mayBegin (noise : Noise (b :: rest)) (later : Bytes) :
    mayBegin (b :: (rest ++ later)) = false := by
  cases rest with
  | nil =>
      have different : b ≠ headerByte := fun same =>
        noise.closed (congrArg some same)
      cases later <;> simp [mayBegin, different]
  | cons c more =>
      by_cases first : b = headerByte
      · have second : c ≠ headerByte := by
          rintro rfl
          subst first
          exact noise.headerless ⟨[], more, rfl⟩
        simp [mayBegin, second]
      · simp [mayBegin, first]

/-- What follows noise begins where it would begin without it. -/
theorem start_noise (noise : Noise bytes) (later : Bytes) :
    start (bytes ++ later) = bytes.length + start later := by
  induction bytes with
  | nil => simp
  | cons b rest inductionHypothesis =>
      rw [List.cons_append,
        start_cons_of_not_mayBegin (noise.not_mayBegin later),
        inductionHypothesis noise.tail, List.length_cons]
      omega

theorem decode_noise (capacity : Nat) (noise : Noise bytes) (later : Bytes) :
    decode capacity (bytes ++ later) =
      (decode capacity later).after [] bytes.length := by
  rw [decode_eq_after_skip capacity (bytes ++ later),
    decode_eq_after_skip capacity later, Decoding.after_after,
    start_noise noise, List.drop_length_add_append, List.append_nil]

/-! ## Packets -/

variable {capacity : Nat} {packet : Packet}

theorem Event.ofMessage_encode (packet : Packet) :
    Event.ofMessage packet.encode = .packet packet.encode.dropLast := by
  have split :
      packet.encode =
        (headerByte :: headerByte :: packet.body) ++
          [Packet.checksum packet.body] := rfl
  rw [split, Event.ofMessage_concat, List.dropLast_concat]
  exact if_pos rfl

theorem decode_encode
    (countable : (packet.parameters.length : Int) + 2 ≤ Packet.maximumLength)
    (fits : packet.encode.length ≤ capacity) (later : Bytes) :
    decode capacity (packet.encode ++ later) =
      (decode capacity later).after [.packet packet.encode.dropLast] 0 := by
  rw [(complete_encode countable fits).decode_append later, List.drop_length,
    List.take_length, List.nil_append, Event.ofMessage_encode]

end ActuatorBus.Stream
