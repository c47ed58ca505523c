import ActuatorBus.Fault
import ActuatorBus.Proofs.Stream.Continuation

/-!
# Announcements

What the length byte of the first header announces: a message that is
complete, one that is on its way, or one that there is no room for. An
announced message that is complete or refused stays so whatever follows, and is
the next event of the stream.
-/

namespace ActuatorBus.Stream

/-- What the bytes from a possible beginning on announce: the size of the
message there once it is complete, nothing before that. -/
def announced (capacity : Nat) (live : Bytes) : Except Fault (Option Nat) :=
  match live[Packet.lengthPosition]? with
  | none => .ok none
  | some length =>
    let size := Packet.headerSize + length.toNat
    if capacity < size then .error (.bufferTooSmall size capacity)
    else .ok (if size ≤ live.length then some size else none)

theorem announced_some {capacity size : Nat} {live : Bytes}
    (answer : announced capacity live = .ok (some size)) :
    0 < size ∧ size ≤ live.length := by
  cases headed : live[Packet.lengthPosition]? with
  | none => simp [announced, headed] at answer
  | some length =>
      simp only [announced, headed] at answer
      by_cases large : capacity < Packet.headerSize + length.toNat
      · rw [if_pos large] at answer
        cases answer
      · rw [if_neg large] at answer
        by_cases whole : Packet.headerSize + length.toNat ≤ live.length
        · rw [if_pos whole] at answer
          cases answer
          exact ⟨Nat.add_pos_left (by decide) _, whole⟩
        · rw [if_neg whole] at answer
          cases answer

/-- An announcement is never taken back, whatever follows. -/
theorem announced_append {capacity : Nat} {live : Bytes}
    (decided : announced capacity live ≠ .ok none) (later : Bytes) :
    Packet.headerSize ≤ live.length ∧
      announced capacity (live ++ later) = announced capacity live := by
  cases headed : live[Packet.lengthPosition]? with
  | none => exact absurd (by simp [announced, headed]) decided
  | some length =>
      refine ⟨headerSize_le_length headed, ?_⟩
      simp only [announced, headed] at decided
      simp only [announced, lengthByte_append later headed, headed]
      by_cases large : capacity < Packet.headerSize + length.toNat
      · rw [if_pos large, if_pos large]
      · rw [if_neg large] at decided
        by_cases whole : Packet.headerSize + length.toNat ≤ live.length
        · have wholeLater :
              Packet.headerSize + length.toNat ≤ (live ++ later).length := by
            rw [List.length_append]
            exact Nat.le_add_right_of_le whole
          rw [if_neg large, if_neg large, if_pos whole, if_pos wholeLater]
        · rw [if_neg whole] at decided
          exact absurd rfl decided

theorem announced_error {capacity : Nat} {live : Bytes} {fault : Fault}
    (answer : announced capacity live = .error fault) :
    ∃ required : Nat, fault = .bufferTooSmall required capacity := by
  cases headed : live[Packet.lengthPosition]? with
  | none => simp [announced, headed] at answer
  | some length =>
      simp only [announced, headed] at answer
      by_cases large : capacity < Packet.headerSize + length.toNat
      · rw [if_pos large] at answer
        exact ⟨_, (Except.error.inj answer).symm⟩
      · rw [if_neg large] at answer
        cases answer

/-- What taking the message of an event comes to. -/
def Event.outcome : Event → Except Fault Bytes
  | packet bytes => .ok bytes
  | badChecksum received computed =>
    .error (.invalidChecksum received.toNat computed.toNat)
  | tooSmall required capacity => .error (.bufferTooSmall required capacity)

theorem Event.ofMessage_concat (body : Bytes) (received : UInt8) :
    Event.ofMessage (body ++ [received]) =
      let computed := Packet.checksum (body.drop Packet.idPosition)
      if received = computed then .packet body
      else .badChecksum received computed := by
  simp only [Event.ofMessage, List.getLast?_concat, List.dropLast_concat]

theorem Event.outcome_ofMessage {message : Bytes} {received : UInt8}
    (last : message.getLast? = some received) :
    (Event.ofMessage message).outcome =
      let computed :=
        Packet.checksum (message.dropLast.drop Packet.idPosition)
      if received = computed then .ok message.dropLast
      else .error (.invalidChecksum received.toNat computed.toNat) := by
  simp only [Event.ofMessage, last]
  split <;> rfl

theorem Event.ofMessage_ne_tooSmall (message : Bytes)
    (required capacity : Nat) :
    Event.ofMessage message ≠ .tooSmall required capacity := by
  cases last : message.getLast? with
  | none => simp [Event.ofMessage, last]
  | some received =>
      simp only [Event.ofMessage, last]
      split <;> simp

/-- The message at the front has room and is complete. -/
structure Complete (capacity : Nat) (live : Bytes) (size : Nat) : Prop where
  atFront : start live = 0
  headed : ∃ length : UInt8,
    live[Packet.lengthPosition]? = some length ∧
      size = Packet.headerSize + length.toNat
  fits : size ≤ capacity
  complete : size ≤ live.length

/-- There is no room for the message at the front. -/
structure Refused (capacity : Nat) (live : Bytes) (required : Nat) :
    Prop where
  atFront : start live = 0
  headed : ∃ length : UInt8,
    live[Packet.lengthPosition]? = some length ∧
      required = Packet.headerSize + length.toNat
  large : capacity < required

variable {capacity size required : Nat} {live : Bytes}

theorem Complete.append (announcement : Complete capacity live size)
    (later : Bytes) : Complete capacity (live ++ later) size := by
  obtain ⟨atFront, ⟨length, headed, sizeEq⟩, fits, complete⟩ := announcement
  refine ⟨start_append_of_headed later (headerSize_le_length headed) atFront,
    ⟨length, lengthByte_append later headed, sizeEq⟩, fits, ?_⟩
  rw [List.length_append]
  omega

theorem Complete.positive (announcement : Complete capacity live size) :
    0 < size := by
  obtain ⟨length, _, sizeEq⟩ := announcement.headed
  simp only [Packet.headerSize] at sizeEq
  omega

theorem Complete.decode_append (announcement : Complete capacity live size)
    (later : Bytes) :
    decode capacity (live ++ later) =
      (decode capacity (live.drop size ++ later)).after
        [.ofMessage (live.take size)] 0 := by
  obtain ⟨atFront, ⟨length, headed, rfl⟩, fits, complete⟩ := announcement
  exact decode_append_message later atFront headed fits complete

theorem Complete.decode_eq (announcement : Complete capacity live size) :
    decode capacity live =
      (decode capacity (live.drop size)).after
        [.ofMessage (live.take size)] 0 := by
  have whole := announcement.decode_append []
  rwa [List.append_nil, List.append_nil] at whole

theorem Refused.append (announcement : Refused capacity live required)
    (later : Bytes) : Refused capacity (live ++ later) required := by
  obtain ⟨atFront, ⟨length, headed, requiredEq⟩, large⟩ := announcement
  exact
    ⟨start_append_of_headed later (headerSize_le_length headed) atFront,
      ⟨length, lengthByte_append later headed, requiredEq⟩, large⟩

theorem Refused.decode_append (announcement : Refused capacity live required)
    (later : Bytes) :
    decode capacity (live ++ later) =
      ⟨[.tooSmall required capacity], live ++ later, 0⟩ := by
  obtain ⟨atFront, ⟨length, headed, rfl⟩, large⟩ := announcement
  exact decode_append_tooSmall later atFront headed large

theorem Refused.decode_eq (announcement : Refused capacity live required) :
    decode capacity live = ⟨[.tooSmall required capacity], live, 0⟩ := by
  have whole := announcement.decode_append []
  rwa [List.append_nil] at whole

theorem Refused.announced_eq
    (announcement : Refused capacity live required) :
    announced capacity live =
      .error (.bufferTooSmall required capacity) := by
  obtain ⟨_, ⟨length, headed, rfl⟩, large⟩ := announcement
  simp [announced, headed, large]

theorem Complete.announced_eq (announcement : Complete capacity live size) :
    announced capacity live = .ok (some size) := by
  obtain ⟨_, ⟨length, headed, rfl⟩, fits, complete⟩ := announcement
  simp [announced, headed, Nat.not_lt.2 fits, complete]

/-- An announcement says how the decoding goes on. While it says nothing,
there is room for at least one more byte. -/
theorem announced_cases (room : Packet.headerSize ≤ capacity)
    (atFront : start live = 0) :
    (announced capacity live = .ok none ∧
        decode capacity live = ⟨[], live, 0⟩ ∧ live.length < capacity) ∨
      (∃ size, announced capacity live = .ok (some size) ∧
        Complete capacity live size) ∨
      (∃ required : Nat,
        announced capacity live =
          .error (.bufferTooSmall required capacity) ∧
        Refused capacity live required) := by
  cases headed : live[Packet.lengthPosition]? with
  | none =>
      have beyond := List.getElem?_eq_none_iff.1 headed
      simp only [Packet.lengthPosition] at beyond
      simp only [Packet.headerSize] at room
      refine Or.inl ⟨?_, decode_unheaded atFront headed, by omega⟩
      simp [announced, headed]
  | some length =>
      by_cases large : capacity < Packet.headerSize + length.toNat
      · have refused :
            Refused capacity live (Packet.headerSize + length.toNat) :=
          ⟨atFront, ⟨length, headed, rfl⟩, large⟩
        exact Or.inr (Or.inr ⟨_, refused.announced_eq, refused⟩)
      · have fits := Nat.not_lt.1 large
        by_cases whole : Packet.headerSize + length.toNat ≤ live.length
        · have complete :
              Complete capacity live (Packet.headerSize + length.toNat) :=
            ⟨atFront, ⟨length, headed, rfl⟩, fits, whole⟩
          exact Or.inr (Or.inl ⟨_, complete.announced_eq, complete⟩)
        · have incomplete := Nat.not_le.1 whole
          refine Or.inl
            ⟨?_, decode_incomplete atFront headed fits incomplete, by omega⟩
          simp [announced, headed, large, whole]

/-! What an announcement has to be if it was made. -/

theorem incomplete_of_announced (room : Packet.headerSize ≤ capacity)
    (atFront : start live = 0) (answer : announced capacity live = .ok none) :
    decode capacity live = ⟨[], live, 0⟩ ∧ live.length < capacity := by
  rcases announced_cases room atFront with
    ⟨_, decodeEq, space⟩ | ⟨size, other, _⟩ | ⟨required, other, _⟩
  · exact ⟨decodeEq, space⟩
  · exact absurd (answer.symm.trans other) (by simp)
  · exact absurd (answer.symm.trans other) (by simp)

theorem complete_of_announced (room : Packet.headerSize ≤ capacity)
    (atFront : start live = 0)
    (answer : announced capacity live = .ok (some size)) :
    Complete capacity live size := by
  rcases announced_cases room atFront with
    ⟨other, _⟩ | ⟨found, other, complete⟩ | ⟨required, other, _⟩
  · exact absurd (answer.symm.trans other) (by simp)
  · have same : size = found := by
      simpa using answer.symm.trans other
    rw [same]
    exact complete
  · exact absurd (answer.symm.trans other) (by simp)

theorem refused_of_announced (room : Packet.headerSize ≤ capacity)
    (atFront : start live = 0) {fault : Fault}
    (answer : announced capacity live = .error fault) :
    ∃ required : Nat, fault = .bufferTooSmall required capacity ∧
      Refused capacity live required := by
  rcases announced_cases room atFront with
    ⟨other, _⟩ | ⟨size, other, _⟩ | ⟨required, other, refused⟩
  · exact absurd (answer.symm.trans other) (by simp)
  · exact absurd (answer.symm.trans other) (by simp)
  · exact ⟨required, by simpa using answer.symm.trans other, refused⟩

/-- A header with as many bytes behind it as its length byte says. -/
theorem complete_framed {sender length : UInt8} {tail : Bytes}
    (counts : 2 ≤ length) (whole : tail.length = length.toNat)
    (fits : Packet.headerSize + length.toNat ≤ capacity) :
    Complete capacity
      (Packet.headerByte :: Packet.headerByte :: sender :: length :: tail)
      (Packet.headerSize + length.toNat) := by
  refine ⟨?_, ⟨length, rfl, rfl⟩, fits, ?_⟩
  · apply (start_eq_zero_iff (List.cons_ne_nil _ _)).2
    simp [mayBegin, counts]
  · simp only [List.length_cons, whole, Packet.headerSize]
    omega

/-- The length byte of a packet counts what is behind it. -/
theorem lengthByte_encode {packet : Packet}
    (countable :
      (packet.parameters.length : Int) + 2 ≤ Packet.maximumLength) :
    2 ≤ UInt8.ofNat (packet.parameters.length + 2) ∧
      packet.encode.length = Packet.headerSize +
        (UInt8.ofNat (packet.parameters.length + 2)).toNat := by
  have small : packet.parameters.length + 2 < 256 := by
    simp only [Packet.maximumLength] at countable
    omega
  have lengthEq :
      (UInt8.ofNat (packet.parameters.length + 2)).toNat =
        packet.parameters.length + 2 := by
    rw [UInt8.toNat_ofNat', Nat.mod_eq_of_lt small]
  rw [UInt8.le_iff_toNat_le, lengthEq, Packet.length_encode,
    Packet.minimumSize, Packet.headerSize]
  exact ⟨Nat.le_add_left 2 _, by omega⟩

/-- A packet is a complete message of its own. -/
theorem complete_encode {packet : Packet}
    (countable : (packet.parameters.length : Int) + 2 ≤ Packet.maximumLength)
    (fits : packet.encode.length ≤ capacity) :
    Complete capacity packet.encode packet.encode.length := by
  obtain ⟨counts, sizeEq⟩ := lengthByte_encode countable
  have whole :
      (packet.code :: (packet.parameters ++
          [Packet.checksum packet.body])).length =
        (UInt8.ofNat (packet.parameters.length + 2)).toNat := by
    rw [Packet.length_encode, Packet.minimumSize, Packet.headerSize] at sizeEq
    simp only [List.length_cons, List.length_append, List.length_nil]
    omega
  rw [sizeEq] at fits ⊢
  exact complete_framed counts whole fits

/-! ## The fields of a message -/

theorem headed_of_mayBegin {length : UInt8} (begins : mayBegin live = true)
    (headed : live[Packet.lengthPosition]? = some length) :
    2 ≤ length ∧ ∃ sender rest, live =
      Packet.headerByte :: Packet.headerByte :: sender :: length :: rest := by
  match live, headed with
  | first :: second :: sender :: _ :: rest, rfl =>
      simp only [mayBegin, Bool.and_eq_true, beq_iff_eq,
        decide_eq_true_eq] at begins
      obtain ⟨⟨rfl, rfl⟩, counted⟩ := begins
      exact ⟨counted, sender, rest, rfl⟩

theorem Complete.headed_eq (announcement : Complete capacity live size) :
    ∃ sender length rest,
      live = Packet.headerByte :: Packet.headerByte :: sender :: length ::
          rest ∧
        2 ≤ length ∧ size = Packet.headerSize + length.toNat := by
  obtain ⟨atFront, ⟨length, headed, sizeEq⟩, _, _⟩ := announcement
  have nonempty : live ≠ [] := by
    rintro rfl
    cases headed
  have begins := (start_eq_zero_iff nonempty).1 atFront
  obtain ⟨counted, sender, rest, liveEq⟩ := headed_of_mayBegin begins headed
  exact ⟨sender, length, rest, liveEq, counted, sizeEq⟩

theorem Complete.minimumSize_le (announcement : Complete capacity live size) :
    Packet.minimumSize ≤ size := by
  obtain ⟨_, length, _, _, counted, sizeEq⟩ := announcement.headed_eq
  have two : 2 ≤ length.toNat := counted
  simp only [Packet.minimumSize, Packet.headerSize] at *
  omega

/-- The fields of a complete message. -/
theorem Complete.message_eq (announcement : Complete capacity live size) :
    ∃ sender length error parameters checksum,
      live.take size =
        Packet.headerByte :: Packet.headerByte :: sender :: length ::
          error :: (parameters ++ [checksum]) := by
  have complete := announcement.complete
  obtain ⟨sender, length, rest, liveEq, counted, sizeEq⟩ :=
    announcement.headed_eq
  subst liveEq sizeEq
  have two : 2 ≤ length.toNat := counted
  have enough : length.toNat ≤ rest.length := by
    simp only [List.length_cons, Packet.headerSize] at complete
    omega
  have taken : (rest.take length.toNat).length = length.toNat :=
    List.length_take_of_le enough
  cases tail : rest.take length.toNat with
  | nil =>
      rw [tail, List.length_nil] at taken
      omega
  | cons error more =>
      have some : more ≠ [] := by
        rintro rfl
        rw [tail, List.length_singleton] at taken
        omega
      refine ⟨sender, length, error, more.dropLast, more.getLast some, ?_⟩
      rw [List.dropLast_concat_getLast, ← tail, Packet.headerSize,
        Nat.add_comm]
      rfl

/-- The event of a complete message. -/
theorem Complete.event_eq (announcement : Complete capacity live size) :
    (∃ received computed,
      Event.ofMessage (live.take size) = .badChecksum received computed) ∨
    ∃ sender length error parameters,
      Event.ofMessage (live.take size) =
        .packet (Packet.headerByte :: Packet.headerByte :: sender ::
          length :: error :: parameters) := by
  obtain ⟨sender, length, error, parameters, received, messageEq⟩ :=
    announcement.message_eq
  have split :
      live.take size =
        (Packet.headerByte :: Packet.headerByte :: sender :: length ::
          error :: parameters) ++ [received] := messageEq
  simp only [split, Event.ofMessage_concat]
  by_cases correct : received = Packet.checksum
      ((Packet.headerByte :: Packet.headerByte :: sender :: length ::
        error :: parameters).drop Packet.idPosition)
  · rw [if_pos correct]
    exact Or.inr ⟨sender, length, error, parameters, rfl⟩
  · rw [if_neg correct]
    exact Or.inl ⟨_, _, rfl⟩

/-! ## The first event -/

/-- The first event of a stream, if there is one. -/
def firstEvent (capacity : Nat) (bytes : Bytes) : Option Event :=
  (decode capacity bytes).events.head?

theorem firstEvent_append_skip (bytes later : Bytes) :
    firstEvent capacity (bytes ++ later) =
      firstEvent capacity (bytes.drop (start bytes) ++ later) := by
  rw [firstEvent, decode_append_skip, Decoding.after, List.nil_append]
  rfl

theorem firstEvent_skip (bytes : Bytes) :
    firstEvent capacity bytes =
      firstEvent capacity (bytes.drop (start bytes)) := by
  have skip : firstEvent capacity (bytes ++ []) = _ :=
    firstEvent_append_skip bytes []
  rwa [List.append_nil, List.append_nil] at skip

theorem Complete.firstEvent_append
    (announcement : Complete capacity live size) (later : Bytes) :
    firstEvent capacity (live ++ later) =
      some (.ofMessage (live.take size)) := by
  rw [firstEvent, announcement.decode_append]
  rfl

theorem Complete.firstEvent_eq (announcement : Complete capacity live size) :
    firstEvent capacity live = some (.ofMessage (live.take size)) := by
  rw [firstEvent, announcement.decode_eq]
  rfl

theorem Refused.firstEvent_append
    (announcement : Refused capacity live required) (later : Bytes) :
    firstEvent capacity (live ++ later) =
      some (.tooSmall required capacity) := by
  rw [firstEvent, announcement.decode_append]
  rfl

theorem Refused.firstEvent_eq (announcement : Refused capacity live required) :
    firstEvent capacity live = some (.tooSmall required capacity) := by
  rw [firstEvent, announcement.decode_eq]
  rfl

/-- What is left of a stream when its first event was met. A message without
room for it stays. -/
def remainder (capacity : Nat) (bytes : Bytes) : Bytes :=
  let live := bytes.drop (start bytes)
  match announced capacity live with
  | .ok (some size) => live.drop size
  | _ => live

theorem remainder_append_skip (bytes later : Bytes) :
    remainder capacity (bytes ++ later) =
      remainder capacity (bytes.drop (start bytes) ++ later) := by
  have liveEq :
      (bytes ++ later).drop (start (bytes ++ later)) =
        (bytes.drop (start bytes) ++ later).drop
          (start (bytes.drop (start bytes) ++ later)) := by
    rw [start_append, ← List.drop_drop,
      List.drop_append_of_le_length (start_le bytes)]
  simp only [remainder, liveEq]

theorem remainder_incomplete (atFront : start live = 0)
    (incomplete : announced capacity live = .ok none) :
    remainder capacity live = live := by
  simp only [remainder, atFront, List.drop_zero, incomplete]

theorem Complete.remainder_append
    (announcement : Complete capacity live size) (later : Bytes) :
    remainder capacity (live ++ later) = live.drop size ++ later := by
  have whole := announcement.append later
  simp only [remainder, whole.atFront, List.drop_zero, whole.announced_eq]
  exact List.drop_append_of_le_length announcement.complete

theorem Refused.remainder_append
    (announcement : Refused capacity live required) (later : Bytes) :
    remainder capacity (live ++ later) = live ++ later := by
  have whole := announcement.append later
  simp only [remainder, whole.atFront, List.drop_zero, whole.announced_eq]

end ActuatorBus.Stream
