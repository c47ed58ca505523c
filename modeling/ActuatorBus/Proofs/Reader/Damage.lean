import ActuatorBus.Proofs.Packet.Sealing
import ActuatorBus.Proofs.Reader.RoundTrip
import Mathlib.Data.List.Forall2

/-!
# Damaged packets

A packet in which one byte was replaced, but none of its header and not its
length, is as long as it was and is refused by its checksum. In a stream of
packets it takes nothing away from those behind it, even if it looks as if
another header began in it.
-/

namespace ActuatorBus

namespace Stream

/-- A packet as it was sent and as it comes in. -/
structure Parcel where
  sent : Bytes
  received : Bytes
deriving DecidableEq, Repr

namespace Parcel

/-- One byte was replaced by another one, but none of the header and not the
length. -/
def Damaged (parcel : Parcel) : Prop :=
  ∃ position byte, Packet.idPosition ≤ position ∧
    position ≠ Packet.lengthPosition ∧ position < parcel.sent.length ∧
    parcel.sent[position]? ≠ some byte ∧
    parcel.received = parcel.sent.set position byte

/-- The packet was built, is not too large for a receiver, and at most one of
its bytes is damaged. -/
structure Framed (capacity : Nat) (parcel : Parcel) : Prop where
  built : Packet.Built parcel.sent
  fits : parcel.sent.length ≤ capacity
  kept : parcel.received = parcel.sent ∨ parcel.Damaged

/-- What taking a parcel comes to. -/
inductive Arrives (parcel : Parcel) : Except Fault Bytes → Prop where
  | intact (same : parcel.received = parcel.sent) :
    Arrives parcel (.ok parcel.sent.dropLast)
  | refused (body : Bytes) (message : UInt8) (damaged : parcel.Damaged)
    (receivedEq : parcel.received =
      Packet.headerByte :: Packet.headerByte :: (body ++ [message]))
    (wrong : message ≠ Packet.checksum body) :
    Arrives parcel (.error (.invalidChecksum message.toNat
      (Packet.checksum body).toNat))

variable {capacity : Nat} {parcel : Parcel}

theorem Damaged.received_ne (damaged : parcel.Damaged) :
    parcel.received ≠ parcel.sent := by
  obtain ⟨position, byte, _, _, inside, different, receivedEq⟩ := damaged
  intro same
  apply different
  rw [← same, receivedEq]
  exact List.getElem?_set_self inside

theorem Arrives.eq_ok {result : Except Fault Bytes}
    (arrives : parcel.Arrives result)
    (same : parcel.received = parcel.sent) :
    result = .ok parcel.sent.dropLast := by
  cases arrives with
  | intact _ => rfl
  | refused body message damaged _ _ =>
      exact absurd same damaged.received_ne

theorem Arrives.eq_error {result : Except Fault Bytes} {body : Bytes}
    {message : UInt8} (arrives : parcel.Arrives result)
    (different : parcel.received ≠ parcel.sent)
    (receivedEq : parcel.received =
      Packet.headerByte :: Packet.headerByte :: (body ++ [message])) :
    result = .error (.invalidChecksum message.toNat
      (Packet.checksum body).toNat) := by
  cases arrives with
  | intact same => exact absurd same different
  | refused other found _ foundEq _ =>
      have tails : body ++ [message] = other ++ [found] := by
        simpa using receivedEq.symm.trans foundEq
      obtain ⟨rfl, lastEq⟩ := List.append_inj' tails rfl
      cases lastEq
      rfl

/-- A damaged packet has its header and its length, so that it announces as
many bytes as it has. -/
theorem Damaged.complete (damaged : parcel.Damaged) {packet : Packet}
    (sentEq : parcel.sent = packet.encode)
    (countable : (packet.parameters.length : Int) + 2 ≤ Packet.maximumLength)
    (fits : packet.encode.length ≤ capacity) :
    Complete capacity parcel.received parcel.received.length := by
  obtain ⟨position, byte, behind, notLength, _, _, receivedEq⟩ := damaged
  obtain ⟨counts, sizeEq⟩ := lengthByte_encode countable
  have lengthEq : parcel.received.length = packet.encode.length := by
    rw [receivedEq, List.length_set, sentEq]
  have framed : ∃ sender tail, parcel.received =
      Packet.headerByte :: Packet.headerByte :: sender ::
        UInt8.ofNat (packet.parameters.length + 2) :: tail := by
    rw [sentEq] at receivedEq
    simp only [Packet.idPosition, Packet.lengthPosition] at behind notLength
    by_cases atId : position = 2
    · subst atId
      exact ⟨byte, _, receivedEq⟩
    · have beyond : 4 ≤ position := by omega
      obtain ⟨distance, rfl⟩ := Nat.exists_eq_add_of_le' beyond
      exact ⟨packet.motorId, _, receivedEq⟩
  obtain ⟨sender, tail, framedEq⟩ := framed
  rw [lengthEq, sizeEq, framedEq]
  apply complete_framed counts
  · rw [sizeEq, framedEq] at lengthEq
    simp only [List.length_cons, Packet.headerSize] at lengthEq
    omega
  · omega

theorem Damaged.unsealed (damaged : parcel.Damaged)
    (whole : Packet.Sealed parcel.sent) :
    ¬ Packet.Sealed parcel.received := by
  obtain ⟨position, byte, _, _, inside, different, receivedEq⟩ := damaged
  rw [receivedEq]
  intro again
  have found := List.getElem?_eq_getElem inside
  rw [found, whole.eq_of_set found again] at different
  exact different rfl

/-- The header of a damaged packet is not damaged. -/
theorem Damaged.received_eq (damaged : parcel.Damaged)
    (whole : Packet.Sealed parcel.sent) :
    ∃ body message, parcel.received =
      Packet.headerByte :: Packet.headerByte :: (body ++ [message]) := by
  obtain ⟨position, byte, behind, _, _, _, receivedEq⟩ := damaged
  obtain ⟨body, sentEq⟩ := whole
  rw [sentEq] at receivedEq
  simp only [Packet.idPosition] at behind
  match position with
  | position + 2 =>
      simp only [List.set_cons_succ] at receivedEq
      have nonempty :
          (body ++ [Packet.checksum body]).set position byte ≠ [] := by
        simp
      rw [← List.dropLast_concat_getLast nonempty] at receivedEq
      exact ⟨_, _, receivedEq⟩

theorem Damaged.arrives (damaged : parcel.Damaged)
    (whole : Packet.Sealed parcel.sent) :
    parcel.Arrives (Event.ofMessage parcel.received).outcome := by
  obtain ⟨body, message, receivedEq⟩ := damaged.received_eq whole
  have wrong : message ≠ Packet.checksum body := by
    rintro rfl
    exact damaged.unsealed whole ⟨body, receivedEq⟩
  have eventEq :
      Event.ofMessage parcel.received =
        .badChecksum message (Packet.checksum body) := by
    have split :
        parcel.received =
          (Packet.headerByte :: Packet.headerByte :: body) ++ [message] :=
      receivedEq
    rw [split, Event.ofMessage_concat]
    exact if_neg wrong
  rw [eventEq]
  exact .refused body message damaged receivedEq wrong

theorem Framed.complete_arrives (framed : parcel.Framed capacity) :
    Complete capacity parcel.received parcel.received.length ∧
      parcel.Arrives (Event.ofMessage parcel.received).outcome := by
  obtain ⟨built, fits, kept⟩ := framed
  obtain ⟨packet, countable, sentEq⟩ := built.encode_eq
  rw [sentEq] at fits
  rcases kept with same | damaged
  · have eventEq :
        Event.ofMessage parcel.received = .packet parcel.sent.dropLast := by
      rw [same, sentEq, Event.ofMessage_encode]
    rw [eventEq]
    refine ⟨?_, .intact same⟩
    rw [same, sentEq]
    exact complete_encode countable fits
  · refine ⟨damaged.complete sentEq countable fits, damaged.arrives ?_⟩
    rw [sentEq]
    exact Packet.sealed_encode packet

end Parcel

/-- A stream of parcels comes apart into these parcels. -/
theorem decode_parcels {parcels : List Parcel}
    (framed : ∀ parcel ∈ parcels, parcel.Framed capacity) :
    decode capacity (parcels.flatMap Parcel.received) =
      ⟨parcels.map fun parcel => .ofMessage parcel.received, [], 0⟩ := by
  induction parcels with
  | nil => exact decode_unheaded rfl rfl
  | cons parcel rest inductionHypothesis =>
      obtain ⟨complete, _⟩ :=
        (framed parcel List.mem_cons_self).complete_arrives
      have restEq :=
        inductionHypothesis fun other member =>
          framed other (List.mem_cons_of_mem parcel member)
      rw [List.flatMap_cons, complete.decode_append, List.drop_length,
        List.take_length, List.nil_append, restEq]
      rfl

theorem forall₂_arrives {parcels : List Parcel}
    (framed : ∀ parcel ∈ parcels, parcel.Framed capacity) :
    List.Forall₂ Parcel.Arrives parcels
      (parcels.map fun parcel =>
        (Event.ofMessage parcel.received).outcome) := by
  apply List.forall₂_map_right_iff.2
  apply List.forall₂_same.2
  intro parcel member
  exact (framed parcel member).complete_arrives.2

end Stream

namespace Reader

open ActuatorBus.Stream

/-- In whatever pieces a stream of parcels is delivered, taking them comes to
one message for each of them, in their order: the packet if it came in as it
was sent, and a wrong checksum if it did not. No byte is skipped and none is
left. -/
theorem gather_localizes_damage {size : Value} {reader : Reader}
    (opened : ofSize size = .ok reader) {parcels : List Parcel}
    (framed : ∀ parcel ∈ parcels, parcel.Framed reader.capacity)
    {deliveries : List Delivery}
    (delivered : deliveries.flatMap Delivery.bytes =
      parcels.flatMap Parcel.received)
    (fits : reader.Fits deliveries) :
    let outcome := (gather deliveries).run reader
    (∃ messages, outcome.result = .ok messages ∧
      List.Forall₂ Parcel.Arrives parcels messages) ∧
      outcome.state.skipped = reader.skipped ∧
      outcome.state.pending = [] := by
  have decodeEq := decode_parcels framed
  have roomy :
      (decode reader.capacity (parcels.flatMap Parcel.received)).Roomy := by
    rw [decodeEq]
    intro required capacity member
    obtain ⟨parcel, _, isTooSmall⟩ := List.mem_map.1 member
    exact Event.ofMessage_ne_tooSmall _ _ _ isTooSmall
  have gathered := gather_decodes_stream opened delivered fits roomy
  rw [decodeEq] at gathered
  refine ⟨⟨_, gathered.result_eq, ?_⟩, gathered.skipped_eq,
    gathered.pending_eq⟩
  rw [List.map_map]
  exact forall₂_arrives framed

/-- A packet of motor 1 whose code was replaced by a header byte, so that three
header bytes follow each other behind its length, and an intact packet. -/
def misleading : List Parcel :=
  [⟨(Packet.mk 1 2 [0xFF, 0xFF, 0]).encode,
      (Packet.mk 1 2 [0xFF, 0xFF, 0]).encode.set Packet.codePosition 0xFF⟩,
    ⟨(Packet.mk 1 0 []).encode, (Packet.mk 1 0 []).encode⟩]

theorem gather_localizes_damage_of_misleading :
    let reader : Reader := ⟨List.replicate 9 0, 0, 0, 0⟩
    let deliveries : List Delivery :=
      [.feed [0xFF, 0xFF, 1, 5, 0xFF, 0xFF, 0xFF], .receive [0, 0xF9],
        .feed [0xFF, 0xFF, 1, 2, 0], .receive [0xFC]]
    deliveries.flatMap Delivery.bytes =
        misleading.flatMap Parcel.received ∧
      ((gather deliveries).run reader).result =
        .ok [.error (.invalidChecksum 0xF9 0xFC),
          .ok [0xFF, 0xFF, 1, 2, 0]] ∧
      ((gather deliveries).run reader).state.skipped = 0 := by
  intro reader deliveries
  have opened : ofSize (.integer 9) = .ok reader := rfl
  have delivered : deliveries.flatMap Delivery.bytes =
      misleading.flatMap Parcel.received := by decide
  have fits : reader.Fits deliveries := by
    simp only [deliveries, Fits]
    decide +kernel
  have framed : ∀ parcel ∈ misleading, parcel.Framed reader.capacity := by
    intro parcel member
    have builtFirst :
        Packet.build (.integer (1 : UInt8).toNat) (.integer (2 : UInt8).toNat)
          ([0xFF, 0xFF, 0].map fun byte : UInt8 => .integer byte.toNat) =
            .ok (Packet.mk 1 2 [0xFF, 0xFF, 0]).encode := by
      rw [Packet.build_bytes,
        Packet.assemble_bytes _ _ (Nat.le_refl _) (by decide)]
      rfl
    have builtSecond :
        Packet.status (.integer (1 : UInt8).toNat)
          (.integer (0 : UInt8).toNat) [] =
            .ok (Packet.mk 1 0 []).encode :=
      Packet.status_eq 1 0 (by decide)
    rcases List.mem_cons.1 member with rfl | member
    · refine ⟨.instruction builtFirst, by decide, .inr ?_⟩
      exact ⟨4, 0xFF, by decide, by decide, by decide, by decide, rfl⟩
    · obtain rfl := List.mem_singleton.1 member
      exact ⟨.status builtSecond, by decide, .inl rfl⟩
  obtain ⟨⟨messages, resultEq, arrive⟩, skippedEq, _⟩ :=
    gather_localizes_damage opened framed delivered fits
  refine ⟨delivered, ?_, skippedEq⟩
  rw [resultEq]
  obtain ⟨first, _, refused, others, rfl⟩ :=
    List.forall₂_cons_left_iff.1 arrive
  obtain ⟨second, _, intact, nothing, rfl⟩ :=
    List.forall₂_cons_left_iff.1 others
  cases nothing
  have receivedEq :
      (Packet.mk 1 2 [0xFF, 0xFF, 0]).encode.set Packet.codePosition 0xFF =
        Packet.headerByte :: Packet.headerByte ::
          ([1, 5, 0xFF, 0xFF, 0xFF, 0] ++ [0xF9]) := by decide
  have firstEq :
      first = .error (.invalidChecksum 0xF9 0xFC) :=
    refused.eq_error (by decide) receivedEq
  rw [firstEq, intact.eq_ok rfl]
  rfl

end Reader

end ActuatorBus
