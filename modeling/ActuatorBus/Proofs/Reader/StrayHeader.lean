import ActuatorBus.Proofs.Reader.Acceptance

/-!
# Half a header before a packet

Garbage without a header may end in half of one. With the header of the packet
behind it that makes three header bytes in a row, and the id of the motor lies
where the length byte of an earlier message would be. Only an id that cannot
be a length gives the half header away; any other is taken for one, and the
packet is missed (`poll_after_headerless`).
-/

namespace ActuatorBus

open ActuatorBus.Packet (headerByte)

namespace Stream

variable {garbage : Bytes} {packet : Packet}

/-- Without its last byte, garbage that ends in half a header is noise. -/
theorem exists_noise (headerless : ¬ [headerByte, headerByte] <:+: garbage)
    (open_ : garbage.getLast? = some headerByte) :
    ∃ front, garbage = front ++ [headerByte] ∧ Noise front := by
  obtain ⟨front, rfl⟩ := List.getLast?_eq_some_iff.1 open_
  refine ⟨front, rfl, ?_, ?_⟩
  · intro header
    exact headerless (header.trans (List.prefix_append front _).isInfix)
  · intro last
    obtain ⟨before, rfl⟩ := List.getLast?_eq_some_iff.1 last
    exact headerless ⟨before, [], by simp⟩

theorem start_encode
    (countable :
      (packet.parameters.length : Int) + 2 ≤ Packet.maximumLength) :
    start packet.encode = 0 :=
  (complete_encode countable (Nat.le_refl _)).atFront

/-- A header byte before a packet begins a message, unless the id of the motor
is too small for a length. -/
theorem start_cons_encode
    (countable :
      (packet.parameters.length : Int) + 2 ≤ Packet.maximumLength) :
    start (headerByte :: packet.encode) =
      if 2 ≤ packet.motorId then 0 else 1 := by
  have begins : mayBegin (headerByte :: packet.encode) =
      decide (2 ≤ packet.motorId) := by
    simp [Packet.encode, Packet.body, mayBegin]
  by_cases long : 2 ≤ packet.motorId
  · rw [decide_eq_true long] at begins
    rw [if_pos long]
    exact (start_eq_zero_iff (List.cons_ne_nil _ _)).2 begins
  · rw [decide_eq_false long] at begins
    rw [if_neg long, start_cons_of_not_mayBegin begins,
      start_encode countable]

/-- Behind garbage a message begins with the packet, or with the half header
before it. -/
theorem start_headerless
    (headerless : ¬ [headerByte, headerByte] <:+: garbage)
    (countable :
      (packet.parameters.length : Int) + 2 ≤ Packet.maximumLength) :
    start (garbage ++ packet.encode) =
      if garbage.getLast? = some headerByte ∧ 2 ≤ packet.motorId then
        garbage.length - 1
      else garbage.length := by
  by_cases half : garbage.getLast? = some headerByte
  · obtain ⟨front, rfl, noise⟩ := exists_noise headerless half
    rw [List.append_assoc, List.singleton_append, start_noise noise,
      start_cons_encode countable]
    by_cases long : 2 ≤ packet.motorId
    · rw [if_pos long, if_pos ⟨half, long⟩]
      simp
    · rw [if_neg long, if_neg fun both => long both.2]
      simp
  · have noise : Noise garbage := ⟨headerless, half⟩
    rw [start_noise noise, start_encode countable,
      if_neg fun both => half both.1, Nat.add_zero]

end Stream

namespace Reader

open ActuatorBus.Stream

/-- A new reader that is fed with bytes for which there is room is polled to
what the first message among them announces. -/
theorem poll_fed {size : Value} {reader : Reader}
    (opened : ofSize size = .ok reader) {bytes : Bytes}
    (fits : bytes.length ≤ reader.capacity) :
    Reaches (poll.run ((feed bytes).run reader).state)
      (announced reader.capacity (bytes.drop (start bytes)))
      ⟨reader.capacity, bytes.drop (start bytes), 0, start bytes⟩ := by
  obtain ⟨room, _, rfl⟩ := ofSize_eq opened
  obtain ⟨sound, _, _⟩ := ofSize_sound opened
  have capacityEq :
      capacity ⟨List.replicate room 0, 0, 0, 0⟩ = room :=
    List.length_replicate
  obtain ⟨_, filledEq, soundFed⟩ := feed_reaches sound fits
  generalize (feed bytes).run _ = fed at filledEq soundFed ⊢
  have windowEq : fed.state.window = ⟨room, bytes, 0, 0⟩ := by
    simpa [window, filled, capacityEq] using filledEq
  have roomEq : fed.state.capacity = room := congrArg Window.capacity windowEq
  have pendingEq : fed.state.pending = bytes :=
    congrArg Window.pending windowEq
  have polled := poll_reaches soundFed
  rw [roomEq, pendingEq, windowEq, Window.dropTo, Nat.zero_add] at polled
  rw [capacityEq]
  exact polled

/-- What a poll announced is handed out as it was built. -/
theorem take_encode {reader : Reader} (sound : reader.Sound)
    (fresh : reader.handedOut = 0) {packet : Packet}
    (front : reader.filled = packet.encode) :
    ((take packet.encode.length).run reader).result =
      .ok packet.encode.dropLast := by
  have positive : 0 < packet.encode.length := by
    rw [Packet.length_encode]
    exact Nat.add_pos_right _ (by decide)
  have buffered :
      reader.handedOut + packet.encode.length ≤ reader.fillLevel := by
    apply Nat.le_of_eq
    rw [fresh, Nat.zero_add, ← front, sound.length_filled]
  rw [(take_reaches sound positive buffered).result_eq, front,
    List.take_length, Event.ofMessage_encode]
  rfl

/-- A status packet behind garbage without a header comes out of a new reader,
and what is skipped is the garbage, if the garbage does not end in half a
header or the id of the motor cannot be a length. Otherwise the half header
stays before the packet, and the id is taken for the length. -/
theorem poll_after_headerless {size : Value} {reader : Reader}
    (opened : ofSize size = .ok reader) {garbage parameters bytes : Bytes}
    {motorId error : UInt8}
    (headerless : ¬ [headerByte, headerByte] <:+: garbage)
    (built : Packet.status (.integer motorId.toNat) (.integer error.toNat)
      parameters = .ok bytes)
    (fits : garbage.length + bytes.length ≤ reader.capacity) :
    let polled := poll.run ((feed (garbage ++ bytes)).run reader).state
    (garbage.getLast? ≠ some headerByte ∨ motorId < 2 →
      polled.result = .ok (some bytes.length) ∧
      polled.state.skipped = garbage.length ∧
      ((take bytes.length).run polled.state).result =
        .ok bytes.dropLast) ∧
    (garbage.getLast? = some headerByte → 2 ≤ motorId →
      polled.state.filled = headerByte :: bytes ∧
      polled.state.skipped + 1 = garbage.length ∧
      polled.result =
        let size := Packet.headerSize + motorId.toNat
        if reader.capacity < size then
          .error (.bufferTooSmall size reader.capacity)
        else .ok (if size ≤ bytes.length + 1 then some size else none)) := by
  intro polled
  obtain ⟨countable, bytesEq⟩ := Packet.build_eq_ok_iff.1 built
  generalize packetEq : Packet.mk motorId error parameters = packet at bytesEq
  have idEq : packet.motorId = motorId := by rw [← packetEq]
  replace countable :
      (packet.parameters.length : Int) + 2 ≤ Packet.maximumLength := by
    rw [← packetEq]
    exact countable
  subst bytesEq
  have startEq := start_headerless headerless countable
  have reaches : Reaches polled _ _ :=
    poll_fed opened (by rwa [List.length_append])
  clear_value polled
  rw [idEq] at startEq
  constructor
  · intro plain
    have whole : ¬ (garbage.getLast? = some headerByte ∧ 2 ≤ motorId) := by
      rintro ⟨half, long⟩
      rcases plain with closed | short
      · exact closed half
      · exact UInt8.not_le.2 short long
    rw [if_neg whole] at startEq
    rw [startEq, List.drop_left] at reaches
    obtain ⟨resultEq, windowEq, sound⟩ := reaches
    have complete :
        Complete reader.capacity packet.encode packet.encode.length :=
      complete_encode countable (by omega)
    refine ⟨resultEq.trans complete.announced_eq,
      congrArg Window.skipped windowEq, ?_⟩
    exact take_encode sound (congrArg Window.handedOut windowEq)
      (congrArg Window.filled windowEq)
  · intro half long
    obtain ⟨front, rfl, _⟩ := exists_noise headerless half
    rw [if_pos ⟨half, long⟩, List.length_append, List.length_singleton,
      Nat.add_sub_cancel] at startEq
    have liveEq : (front ++ [headerByte] ++ packet.encode).drop front.length =
        headerByte :: packet.encode := by
      rw [List.append_assoc, List.drop_left, List.singleton_append]
    rw [startEq, liveEq] at reaches
    obtain ⟨resultEq, windowEq, _⟩ := reaches
    have headed :
        (headerByte :: packet.encode)[Packet.lengthPosition]? =
          some motorId := by
      rw [← idEq]
      rfl
    refine ⟨congrArg Window.filled windowEq, ?_, ?_⟩
    · rw [List.length_append, List.length_singleton]
      exact congrArg (Window.skipped · + 1) windowEq
    · rw [resultEq, announced, headed]
      rfl

/-- The garbage before the packet of the first motor ends in half a header. -/
theorem poll_after_headerless_of_first_motor :
    let reader : Reader := ⟨List.replicate 16 0, 0, 0, 0⟩
    let garbage : Bytes := [0x00, 0x13, 0xFF]
    let bytes : Bytes := [0xFF, 0xFF, 1, 3, 0x40, 7, 0xB4]
    let polled := poll.run ((feed (garbage ++ bytes)).run reader).state
    ofSize (.integer 16) = .ok reader ∧
      polled.result = .ok (some bytes.length) ∧
      polled.state.skipped = garbage.length ∧
      ((take bytes.length).run polled.state).result =
        .ok [0xFF, 0xFF, 1, 3, 0x40, 7] := by
  intro reader garbage bytes polled
  have opened : ofSize (.integer 16) = .ok reader := rfl
  have headerless : ¬ [headerByte, headerByte] <:+: garbage := by decide
  have built : Packet.status (.integer (1 : UInt8).toNat)
      (.integer (0x40 : UInt8).toNat) [7] = .ok bytes :=
    Packet.status_eq 1 0x40 (by decide)
  have short : (1 : UInt8) < 2 := by decide
  have fits : garbage.length + bytes.length ≤ reader.capacity := by decide
  exact ⟨opened,
    (poll_after_headerless opened headerless built fits).1 (Or.inr short)⟩

/-- Half a header before a packet of the second motor: a message of six bytes
is announced in the place of the packet of ten, and its checksum is wrong. -/
theorem poll_misled_by_half_header :
    let reader : Reader := ⟨List.replicate 64 0, 0, 0, 0⟩
    let bytes : Bytes := [0xFF, 0xFF, 2, 6, 0, 0, 0, 0xA0, 0x40, 0x17]
    let polled := poll.run ((feed ([headerByte] ++ bytes)).run reader).state
    ofSize (.integer 64) = .ok reader ∧
      ¬ [headerByte, headerByte] <:+: [headerByte] ∧
      Packet.status (.integer 2) (.integer 0) [0, 0, 0xA0, 0x40] =
        .ok bytes ∧
      polled.result = .ok (some 6) ∧ polled.state.skipped = 0 ∧
      ((take 6).run polled.state).result =
        .error (.invalidChecksum 0 0xF8) := by
  decide +kernel

end Reader

end ActuatorBus
