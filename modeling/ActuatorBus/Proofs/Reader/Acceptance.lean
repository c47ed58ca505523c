import ActuatorBus.Proofs.Packet.Sealing
import ActuatorBus.Proofs.Reader.Ledger
import ActuatorBus.Proofs.Reader.RoundTrip
import Mathlib.Control.Monad.Basic

/-!
# Accepted messages

A message that a reader announces has the fields of a packet, and only its
last byte may be wrong. It is accepted if it is the checksum, and then the
message is what the writer makes of these fields, and of no others
(`build_undoes_take`).
-/

namespace ActuatorBus

namespace Packet

/-! ## What can be built -/

/-- Of bytes a packet is built if the length byte can count its parameters,
and nothing else is. -/
theorem build_eq_ok_iff {motorId code : UInt8} {parameters bytes : Bytes} :
    build (.integer motorId.toNat) (.integer code.toNat)
        (parameters.map fun byte => .integer byte.toNat) = .ok bytes ↔
      (parameters.length : Int) + 2 ≤ maximumLength ∧
        bytes = (Packet.mk motorId code parameters).encode := by
  rw [build_bytes]
  by_cases countable : (parameters.length : Int) + 2 ≤ maximumLength
  · rw [assemble_bytes _ _ (Nat.le_refl _) countable]
    simp [Except.map, countable, eq_comm]
  · refine iff_of_false ?_ fun both => countable both.1
    intro built
    obtain ⟨packet, made, _⟩ := map_eq_ok_iff.1 built
    exact countable (assembled made).countable

theorem exists_build_iff {bytes : Bytes} :
    (∃ motorId code parameters, build motorId code parameters = .ok bytes) ↔
      ∃ packet : Packet,
        (packet.parameters.length : Int) + 2 ≤ maximumLength ∧
          bytes = packet.encode := by
  constructor
  · rintro ⟨motorId, code, parameters, built⟩
    rw [build_eq] at built
    obtain ⟨packet, made, rfl⟩ := map_eq_ok_iff.1 built
    obtain ⟨_, countable, _, _, parametersEq⟩ := assembled made
    rw [← length_ofValues parametersEq] at countable
    exact ⟨packet, countable, rfl⟩
  · rintro ⟨packet, countable, rfl⟩
    exact ⟨_, _, _, build_eq_ok_iff.2 ⟨countable, rfl⟩⟩

/-- The bytes of a packet tell its fields. -/
theorem eq_of_encode {packet other : Packet}
    (same : packet.encode = other.encode) : packet = other := by
  obtain ⟨motorId, code, parameters⟩ := packet
  obtain ⟨otherId, otherCode, otherParameters⟩ := other
  simp only [encode, body, List.cons_append, List.cons.injEq,
    true_and] at same
  obtain ⟨rfl, _, rfl, tails⟩ := same
  obtain ⟨rfl, _⟩ := List.append_inj' tails rfl
  rfl

/-- A header, a body and a last byte are a packet exactly if the sum of what
is behind the header is `255` modulo `256`. -/
theorem total_body_iff (packet : Packet) (received : UInt8) :
    Bytes.total (packet.body ++ [received]) % 256 = 255 ↔
      headerByte :: headerByte :: (packet.body ++ [received]) =
        packet.encode := by
  have single : Bytes.total [received] = received.toNat := rfl
  rw [Bytes.total_append, single, ← eq_checksum_iff]
  simp [encode]

end Packet

namespace Stream

variable {capacity size : Nat} {live : Bytes}

/-- A complete message is the header and the body of a packet, and a byte in
the place of its checksum. -/
theorem Complete.body_eq (announcement : Complete capacity live size) :
    ∃ (packet : Packet) (received : UInt8),
      (packet.parameters.length : Int) + 2 ≤ Packet.maximumLength ∧
        live.take size = Packet.headerByte :: Packet.headerByte ::
          (packet.body ++ [received]) := by
  obtain ⟨sender, length, error, parameters, received, messageEq⟩ :=
    announcement.message_eq
  obtain ⟨found, headed, sizeEq⟩ := announcement.headed
  have lengthEq := congrArg List.length messageEq
  rw [List.length_take_of_le announcement.complete, sizeEq] at lengthEq
  simp only [List.length_cons, List.length_append, List.length_nil,
    Packet.headerSize] at lengthEq
  have foundEq : length = found := by
    have inside : Packet.lengthPosition < size := by
      simp only [sizeEq, Packet.lengthPosition, Packet.headerSize]
      omega
    rw [← List.getElem?_take_of_lt inside, messageEq] at headed
    exact Option.some.inj headed
  have counted : parameters.length + 2 = length.toNat := by
    rw [foundEq]
    omega
  refine ⟨⟨sender, error, parameters⟩, received, ?_, ?_⟩
  · have small := length.toNat_lt
    simp only [Packet.maximumLength]
    omega
  · simp only [messageEq, Packet.body, counted, UInt8.ofNat_toNat,
      List.cons_append]

end Stream

namespace Reader

open ActuatorBus.Stream

/-! ## What is taken -/

/-- What a poll announced is at the front of the buffer. It has the fields of
a packet, and taking it compares its last byte with their checksum. -/
theorem take_polled {reader : Reader} (sound : reader.Sound)
    (room : Packet.headerSize ≤ reader.capacity) {count : Nat}
    (polled : (poll.run reader).result = .ok (some count)) :
    let front := (poll.run reader).state
    ∃ (packet : Packet) (received : UInt8),
      (packet.parameters.length : Int) + 2 ≤ Packet.maximumLength ∧
        count = packet.encode.length ∧
        front.buffer.take count = Packet.headerByte :: Packet.headerByte ::
          (packet.body ++ [received]) ∧
        ((take count).run front).result =
          if received = Packet.checksum packet.body then
            .ok (Packet.headerByte :: Packet.headerByte :: packet.body)
          else .error (.invalidChecksum received.toNat
            (Packet.checksum packet.body).toNat) := by
  intro front
  have reaches := poll_reaches sound
  have answer := reaches.result_eq.symm.trans polled
  have announcement := complete_of_announced room (start_drop_start _) answer
  obtain ⟨packet, received, countable, messageEq⟩ := announcement.body_eq
  have filledEq : front.filled =
      reader.pending.drop (start reader.pending) :=
    congrArg Window.filled reaches.window_eq
  have nothingOut : front.handedOut = 0 :=
    congrArg Window.handedOut reaches.window_eq
  have buffered : count ≤ front.fillLevel := by
    rw [← reaches.sound.length_filled, filledEq]
    exact announcement.complete
  have takenEq := (take_reaches reaches.sound announcement.positive
    (by omega : front.handedOut + count ≤ front.fillLevel)).result_eq
  have frontEq : front.buffer.take count = Packet.headerByte ::
      Packet.headerByte :: (packet.body ++ [received]) := by
    rw [← messageEq, ← filledEq, filled, List.take_take,
      Nat.min_eq_left buffered]
  refine ⟨packet, received, countable, ?_, frontEq, ?_⟩
  · have lengthEq := congrArg List.length messageEq
    rw [List.length_take_of_le announcement.complete] at lengthEq
    simpa [Packet.encode] using lengthEq
  · have split :
        (reader.pending.drop (start reader.pending)).take count =
          (Packet.headerByte :: Packet.headerByte :: packet.body) ++
            [received] := messageEq
    rw [takenEq, filledEq, split, Event.ofMessage_concat]
    simp only [Packet.idPosition, List.drop_succ_cons, List.drop_zero]
    split <;> rfl

open Ledger in
/-- Whatever was asked of a reader before, a message that it announces is
handed out exactly if the sum of the bytes behind the header is `255` modulo
`256`, which are exactly the messages that can be built; else its checksum is
reported. Without its last byte it is the packet, and it is what is built of
the id, the code and the parameters there, and of no others. -/
theorem build_undoes_take {size : Value} {reader : Reader}
    (opened : ofSize size = .ok reader) (calls : List Call) {count : Nat}
    (polled : (poll.run ((fresh reader).run calls).reader).result =
      .ok (some count)) :
    let front := (poll.run ((fresh reader).run calls).reader).state
    let message := front.buffer.take count
    let taken := ((take count).run front).result
    message.length = count ∧
      (∀ packet, taken = .ok packet →
        packet.length = count - 1 ∧ 5 ≤ packet.length ∧
          ∃ motorId code, packet[Packet.idPosition]? = some motorId ∧
            packet[Packet.codePosition]? = some code ∧
            ∀ (otherId otherCode : UInt8) (parameters : Bytes),
              Packet.build (.integer otherId.toNat) (.integer otherCode.toNat)
                  (parameters.map fun byte => .integer byte.toNat) =
                .ok message ↔
              otherId = motorId ∧ otherCode = code ∧
                parameters = packet.drop Packet.parametersPosition) ∧
      ((∃ packet, taken = .ok packet) ↔
        Bytes.total (message.drop Packet.idPosition) % 256 = 255) ∧
      ((∃ packet, taken = .ok packet) ↔
        ∃ motorId code parameters,
          Packet.build motorId code parameters = .ok message) ∧
      (Bytes.total (message.drop Packet.idPosition) % 256 ≠ 255 →
        ∃ received computed, received ≠ computed ∧
          taken = .error (.invalidChecksum received computed)) := by
  intro front message taken
  obtain ⟨room, start⟩ := balanced_fresh opened
  have balanced := start.run room calls
  rw [← balanced.capacity_eq] at room
  obtain ⟨packet, received, countable, countEq, messageEq, takenEq⟩ :=
    take_polled balanced.sound room polled
  have readable : message = Packet.headerByte :: Packet.headerByte ::
      (packet.body ++ [received]) := messageEq
  have outcome : taken =
      if received = Packet.checksum packet.body then
        .ok (Packet.headerByte :: Packet.headerByte :: packet.body)
      else .error (.invalidChecksum received.toNat
        (Packet.checksum packet.body).toNat) := takenEq
  clear_value message taken
  have sums : Bytes.total (message.drop Packet.idPosition) % 256 = 255 ↔
      message = packet.encode := by
    rw [readable]
    exact packet.total_body_iff received
  have accepts :
      (∃ packet, taken = .ok packet) ↔ message = packet.encode := by
    rw [outcome, readable]
    by_cases valid : received = Packet.checksum packet.body
    · simp [valid, Packet.encode]
    · simp [valid, Packet.encode]
  have builds : (∃ motorId code parameters,
      Packet.build motorId code parameters = .ok message) ↔
        message = packet.encode := by
    rw [Packet.exists_build_iff]
    constructor
    · rintro ⟨other, _, otherEq⟩
      apply sums.1
      rw [otherEq]
      exact Packet.total_checked other.body
    · intro same
      exact ⟨packet, countable, same⟩
  refine ⟨?_, ?_, accepts.trans sums.symm, accepts.trans builds.symm, ?_⟩
  · rw [countEq, readable]
    simp [Packet.encode]
  · intro handed handedEq
    have same := accepts.1 ⟨handed, handedEq⟩
    by_cases valid : received = Packet.checksum packet.body
    · rw [outcome, if_pos valid] at handedEq
      cases handedEq
      refine ⟨?_, ?_, packet.motorId, packet.code, rfl, rfl, ?_⟩
      · simp [countEq, Packet.encode]
      · simp [Packet.body]
      · intro otherId otherCode parameters
        rw [Packet.build_eq_ok_iff, same]
        constructor
        · rintro ⟨_, encoded⟩
          obtain rfl := Packet.eq_of_encode encoded
          exact ⟨rfl, rfl, rfl⟩
        · rintro ⟨rfl, rfl, rfl⟩
          exact ⟨countable, rfl⟩
    · rw [outcome, if_neg valid] at handedEq
      cases handedEq
  · intro differs
    have wrong : received ≠ Packet.checksum packet.body := by
      intro valid
      apply differs
      rw [sums, readable, valid]
      rfl
    refine ⟨_, _, ?_, outcome.trans (if_neg wrong)⟩
    intro sameNumber
    exact wrong (UInt8.toNat_inj.1 (by exact_mod_cast sameNumber))

/-- The second of two messages, which comes in two pieces with one more byte
behind it. -/
theorem build_undoes_take_of_second :
    let reader : Reader := ⟨List.replicate 8 0, 0, 0, 0⟩
    let calls : List Call :=
      [.feed [0x00, 0xFF, 0xFF, 0x01, 0x02, 0x00, 0xFC], .poll, .take,
        .dropGarbage, .receive [0xFF, 0xFF, 0x01, 0x03, 0x02, 0x09], .poll,
        .receive [0xF0, 0xFF]]
    let before := ((Ledger.fresh reader).run calls).reader
    ofSize (.integer 8) = .ok reader ∧
      (poll.run before).result = .ok (some 7) ∧
      ((take 7).run (poll.run before).state).result =
        .ok [0xFF, 0xFF, 0x01, 0x03, 0x02, 0x09] ∧
      Packet.build (.integer (1 : UInt8).toNat) (.integer (2 : UInt8).toNat)
          ([9].map fun byte : UInt8 => .integer byte.toNat) =
        .ok ((poll.run before).state.buffer.take 7) := by
  intro reader calls before
  have opened : ofSize (.integer 8) = .ok reader := rfl
  have polled : (poll.run before).result = .ok (some 7) := by
    decide +kernel
  have handed : ((take 7).run (poll.run before).state).result =
      .ok [0xFF, 0xFF, 0x01, 0x03, 0x02, 0x09] := by
    decide +kernel
  have rebuilt := (build_undoes_take opened calls polled).2.1 _ handed
  obtain ⟨_, _, motorId, code, idEq, codeEq, builtIff⟩ := rebuilt
  have idFound : 1 = motorId := Option.some.inj idEq
  have codeFound : 2 = code := Option.some.inj codeEq
  have built := (builtIff 1 2 [9]).2 ⟨idFound, codeFound, rfl⟩
  subst before
  exact ⟨opened, polled, handed, built⟩

end Reader

end ActuatorBus
