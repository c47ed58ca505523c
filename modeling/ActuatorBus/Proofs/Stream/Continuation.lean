import ActuatorBus.Stream

/-!
# Streams that go on

What decoding part of a stream says about the whole of it. A byte at which no
message may begin stays one whatever follows, so garbage is final; and so is a
message that is complete. The main statements are `decode_append_skip` and
`decode_append_message`.
-/

namespace ActuatorBus.Stream

/-! ## Where a message may begin -/

theorem mayBegin_of_append {bytes later : Bytes}
    (nonempty : bytes ≠ [])
    (begins : mayBegin (bytes ++ later) = true) :
    mayBegin bytes = true := by
  match bytes, nonempty with
  | [b], _ =>
      cases later with
      | nil => simpa using begins
      | cons c rest =>
          simp only [List.singleton_append, mayBegin, Bool.and_eq_true]
            at begins
          simpa [mayBegin] using begins.1.1
  | [b, c], _ =>
      simp only [List.cons_append, List.nil_append, mayBegin,
        Bool.and_eq_true] at begins ⊢
      exact ⟨begins.1, trivial⟩
  | [b, c, d], _ =>
      simp only [List.cons_append, List.nil_append, mayBegin,
        Bool.and_eq_true] at begins ⊢
      exact ⟨begins.1, trivial⟩
  | b :: c :: d :: length :: rest, _ =>
      simpa [mayBegin] using begins

/-- With its length byte there, a beginning is one whatever follows. -/
theorem mayBegin_append {bytes : Bytes} (later : Bytes)
    (headed : Packet.headerSize ≤ bytes.length)
    (begins : mayBegin bytes = true) :
    mayBegin (bytes ++ later) = true := by
  match bytes, headed with
  | b :: c :: d :: length :: rest, _ =>
      simpa [mayBegin] using begins

theorem start_eq_zero_iff {bytes : Bytes} (nonempty : bytes ≠ []) :
    start bytes = 0 ↔ mayBegin bytes = true := by
  cases bytes with
  | nil => exact absurd rfl nonempty
  | cons b rest =>
      unfold start
      split <;> simp_all

theorem start_cons_of_not_mayBegin {b : UInt8} {rest : Bytes}
    (garbage : mayBegin (b :: rest) = false) :
    start (b :: rest) = start rest + 1 := by
  simp [start, garbage]

/-- The position found in the front part of a stream is a first step towards
the one in the whole stream. -/
theorem start_append (bytes later : Bytes) :
    start (bytes ++ later) =
      start bytes + start (bytes.drop (start bytes) ++ later) := by
  induction bytes with
  | nil => simp [start]
  | cons b rest inductionHypothesis =>
      cases begins : mayBegin (b :: rest) with
      | true =>
          have atFront : start (b :: rest) = 0 :=
            (start_eq_zero_iff (List.cons_ne_nil b rest)).2 begins
          simp [atFront]
      | false =>
          have garbage : mayBegin (b :: (rest ++ later)) = false := by
            rw [Bool.eq_false_iff]
            intro wholeBegins
            have := mayBegin_of_append (List.cons_ne_nil b rest) wholeBegins
            exact Bool.eq_false_iff.1 begins this
          rw [List.cons_append, start_cons_of_not_mayBegin garbage,
            start_cons_of_not_mayBegin begins, inductionHypothesis,
            List.drop_succ_cons]
          omega

@[simp] theorem start_drop_start (bytes : Bytes) :
    start (bytes.drop (start bytes)) = 0 := by
  have whole := start_append bytes []
  simp only [List.append_nil] at whole
  omega

/-- From the position found on, a complete header stays the first one. -/
theorem start_append_of_headed {bytes : Bytes} (later : Bytes)
    (headed : Packet.headerSize ≤ bytes.length)
    (atFront : start bytes = 0) :
    start (bytes ++ later) = 0 := by
  have nonempty : bytes ≠ [] := by
    rintro rfl
    simp [Packet.headerSize] at headed
  have begins := (start_eq_zero_iff nonempty).1 atFront
  exact (start_eq_zero_iff (by simp [nonempty])).2
    (mayBegin_append later headed begins)

/-! ## Decoding in parts -/

namespace Decoding

/-- A decoding after some events and skipped bytes. -/
def after (events : List Event) (skipped : Nat) (decoding : Decoding) :
    Decoding where
  events := events ++ decoding.events
  rest := decoding.rest
  skipped := skipped + decoding.skipped

@[simp] theorem after_nil_zero (decoding : Decoding) :
    decoding.after [] 0 = decoding := by
  simp [after]

@[simp] theorem after_after (first second : List Event) (m n : Nat)
    (decoding : Decoding) :
    (decoding.after second n).after first m =
      decoding.after (first ++ second) (m + n) := by
  simp [after, Nat.add_assoc]

end Decoding

/-- Decoding begins with skipping what lies before the first message. -/
theorem decode_eq_after_skip (capacity : Nat) (bytes : Bytes) :
    decode capacity bytes =
      (decode capacity (bytes.drop (start bytes))).after []
        (start bytes) := by
  conv => lhs; rw [decode]
  conv => rhs; rw [decode]
  simp only [start_drop_start, List.drop_zero]
  cases found : (bytes.drop (start bytes))[Packet.lengthPosition]? with
  | none => simp [Decoding.after]
  | some length =>
      simp only []
      split
      · simp [Decoding.after]
      · split <;> simp [Decoding.after]

/-- Garbage at the front of a stream is skipped whatever follows. -/
theorem decode_append_skip (capacity : Nat) (bytes later : Bytes) :
    decode capacity (bytes ++ later) =
      (decode capacity (bytes.drop (start bytes) ++ later)).after []
        (start bytes) := by
  have dropped :
      (bytes ++ later).drop (start (bytes ++ later)) =
        (bytes.drop (start bytes) ++ later).drop
          (start (bytes.drop (start bytes) ++ later)) := by
    have bound := start_le bytes
    rw [start_append bytes later, ← List.drop_drop,
      List.drop_append_of_le_length bound]
  rw [decode_eq_after_skip capacity (bytes ++ later), dropped,
    decode_eq_after_skip capacity (bytes.drop (start bytes) ++ later),
    Decoding.after_after, start_append bytes later]
  simp

/-- Too few bytes for a header are all left over. -/
theorem decode_unheaded {capacity : Nat} {bytes : Bytes}
    (atFront : start bytes = 0)
    (unheaded : bytes[Packet.lengthPosition]? = none) :
    decode capacity bytes = ⟨[], bytes, 0⟩ := by
  rw [decode]
  simp [atFront, unheaded]

section Headed

variable {capacity : Nat} {bytes : Bytes} {length : UInt8}

theorem headerSize_le_length
    (headed : bytes[Packet.lengthPosition]? = some length) :
    Packet.headerSize ≤ bytes.length := by
  have inside := (List.getElem?_eq_some_iff.1 headed).1
  simp only [Packet.lengthPosition, Packet.headerSize] at inside ⊢
  omega

theorem lengthByte_append (later : Bytes)
    (headed : bytes[Packet.lengthPosition]? = some length) :
    (bytes ++ later)[Packet.lengthPosition]? = some length := by
  have inside := (List.getElem?_eq_some_iff.1 headed).1
  rw [List.getElem?_append_left inside, headed]

/-- A message without room for it ends the reception, whatever follows. -/
theorem decode_append_tooSmall (later : Bytes)
    (atFront : start bytes = 0)
    (headed : bytes[Packet.lengthPosition]? = some length)
    (large : capacity < Packet.headerSize + length.toNat) :
    decode capacity (bytes ++ later) =
      ⟨[.tooSmall (Packet.headerSize + length.toNat) capacity],
        bytes ++ later, 0⟩ := by
  have stays :=
    start_append_of_headed later (headerSize_le_length headed) atFront
  rw [decode]
  simp [stays, lengthByte_append later headed, large]

theorem decode_incomplete
    (atFront : start bytes = 0)
    (headed : bytes[Packet.lengthPosition]? = some length)
    (fits : Packet.headerSize + length.toNat ≤ capacity)
    (incomplete : bytes.length < Packet.headerSize + length.toNat) :
    decode capacity bytes = ⟨[], bytes, 0⟩ := by
  rw [decode]
  simp [atFront, headed, incomplete, Nat.not_lt.2 fits]

/-- A complete message is the first event, whatever follows. -/
theorem decode_append_message (later : Bytes)
    (atFront : start bytes = 0)
    (headed : bytes[Packet.lengthPosition]? = some length)
    (fits : Packet.headerSize + length.toNat ≤ capacity)
    (complete : Packet.headerSize + length.toNat ≤ bytes.length) :
    decode capacity (bytes ++ later) =
      (decode capacity
        (bytes.drop (Packet.headerSize + length.toNat) ++ later)).after
          [.ofMessage (bytes.take (Packet.headerSize + length.toNat))]
          0 := by
  have stays :=
    start_append_of_headed later (headerSize_le_length headed) atFront
  have enough :
      ¬ bytes.length + later.length < Packet.headerSize + length.toNat := by
    omega
  rw [decode]
  simp [stays, lengthByte_append later headed, Nat.not_lt.2 fits, enough,
    Decoding.after, List.take_append_of_le_length complete,
    List.drop_append_of_le_length complete]

end Headed

end ActuatorBus.Stream
