import ActuatorBus.Proofs.Packet.Writing
import ActuatorBus.Proofs.Reader.Delivery
import ActuatorBus.Proofs.Stream.Noise

/-!
# Streams of packets

Packets that were built, with noise before each of them, come out of a reader
as they were built, however their stream is cut up. The noise is what is
skipped, and nothing else.
-/

namespace ActuatorBus

/-- Bytes that were built as an instruction or as a status packet. -/
inductive Packet.Built : Bytes → Prop where
  | instruction {motorId code : UInt8} {parameters bytes : Bytes}
    (built : build (.integer motorId.toNat) (.integer code.toNat)
      (parameters.map fun byte => .integer byte.toNat) = .ok bytes) :
    Built bytes
  | status {motorId error : UInt8} {parameters bytes : Bytes}
    (built : status (.integer motorId.toNat) (.integer error.toNat)
      parameters = .ok bytes) :
    Built bytes

theorem Packet.encode_of_build {motorId code : UInt8}
    {parameters bytes : Bytes}
    (built : build (.integer motorId.toNat) (.integer code.toNat)
      (parameters.map fun byte => .integer byte.toNat) = .ok bytes) :
    ∃ packet : Packet,
      (packet.parameters.length : Int) + 2 ≤ maximumLength ∧
        bytes = packet.encode := by
  rw [build_bytes] at built
  obtain ⟨packet, made, rfl⟩ := map_eq_ok_iff.1 built
  obtain ⟨_, countable, _, _, parametersEq⟩ := assembled made
  cases parametersEq
  exact ⟨packet, countable, rfl⟩

theorem Packet.Built.encode_eq {bytes : Bytes} (built : Built bytes) :
    ∃ packet : Packet,
      (packet.parameters.length : Int) + 2 ≤ maximumLength ∧
        bytes = packet.encode := by
  cases built with
  | instruction built => exact encode_of_build built
  | status built => exact encode_of_build built

namespace Stream

/-- A stretch of a stream: noise, and a packet behind it. -/
structure Stretch where
  noise : Bytes
  packet : Bytes
deriving DecidableEq, Repr

namespace Stretch

def bytes (stretch : Stretch) : Bytes := stretch.noise ++ stretch.packet

/-- The noise holds no header, and the packet was built and is not too large
for a receiver. -/
structure Clean (capacity : Nat) (stretch : Stretch) : Prop where
  noise : Noise stretch.noise
  built : Packet.Built stretch.packet
  fits : stretch.packet.length ≤ capacity

end Stretch

theorem decode_stretches {capacity : Nat} (stretches : List Stretch)
    (clean : ∀ stretch ∈ stretches, stretch.Clean capacity) :
    decode capacity (stretches.flatMap Stretch.bytes) =
      ⟨stretches.map fun stretch => .packet stretch.packet.dropLast, [],
        (stretches.flatMap Stretch.noise).length⟩ := by
  induction stretches with
  | nil => exact decode_unheaded rfl rfl
  | cons stretch rest inductionHypothesis =>
      obtain ⟨noise, built, fits⟩ := clean stretch List.mem_cons_self
      obtain ⟨packet, countable, packetEq⟩ := built.encode_eq
      have restEq :=
        inductionHypothesis fun other member =>
          clean other (List.mem_cons_of_mem stretch member)
      rw [packetEq] at fits
      rw [List.flatMap_cons, Stretch.bytes, List.append_assoc,
        decode_noise capacity noise, packetEq, decode_encode countable fits,
        restEq]
      simp [Decoding.after, packetEq]

end Stream

namespace Reader

open ActuatorBus.Stream

/-- A stream of packets with noise before each of them gives back these
packets without their checksums, one by one and in order, in whatever pieces
it is delivered; what is skipped is the noise. -/
theorem gather_returns_packets {size : Value} {reader : Reader}
    (opened : ofSize size = .ok reader) {stretches : List Stretch}
    (clean : ∀ stretch ∈ stretches, stretch.Clean reader.capacity)
    {deliveries : List Delivery}
    (delivered : deliveries.flatMap Delivery.bytes =
      stretches.flatMap Stretch.bytes)
    (fits : reader.Fits deliveries) :
    let outcome := (gather deliveries).run reader
    outcome.result =
        .ok (stretches.map fun stretch => .ok stretch.packet.dropLast) ∧
      outcome.state.skipped = reader.skipped +
        (stretches.flatMap Stretch.noise).length ∧
      outcome.state.pending = [] := by
  obtain ⟨sound, enough, pendingEq⟩ := ofSize_sound opened
  have room : Packet.headerSize ≤ reader.capacity :=
    Nat.le_trans (by decide) enough
  have decodeEq := decode_stretches stretches clean
  have settled :
      decode reader.capacity reader.pending = ⟨[], reader.pending, 0⟩ := by
    rw [pendingEq]
    exact decode_unheaded rfl rfl
  have wholeEq :
      reader.pending ++ deliveries.flatMap Delivery.bytes =
        stretches.flatMap Stretch.bytes := by
    rw [pendingEq, List.nil_append, delivered]
  have roomy : (decode reader.capacity
      (reader.pending ++ deliveries.flatMap Delivery.bytes)).Roomy := by
    rw [wholeEq, decodeEq]
    intro required capacity member
    obtain ⟨_, _, isPacket⟩ := List.mem_map.1 member
    cases isPacket
  have gathered := gather_decodes deliveries sound room fits settled roomy
  rw [wholeEq, decodeEq] at gathered
  refine ⟨?_, gathered.skipped_eq, gathered.pending_eq⟩
  rw [gathered.result_eq, List.map_map]
  rfl

/-- A packet of motor 255 with a header byte as its parameter, behind noise
with a header byte, and another packet right behind it. -/
def crowded : List Stretch :=
  [⟨[0xFF, 7], (Packet.mk 0xFF 1 [0xFF]).encode⟩,
    ⟨[], (Packet.mk 1 0 []).encode⟩]

theorem gather_returns_packets_of_crowded :
    let reader : Reader := ⟨List.replicate 7 0, 0, 0, 0⟩
    let deliveries : List Delivery :=
      [.feed [0xFF, 7, 0xFF], .receive [0xFF, 0xFF, 3, 1, 0xFF],
        .feed [0xFD], .receive [0xFF, 0xFF, 1, 2, 0, 0xFC]]
    deliveries.flatMap Delivery.bytes = crowded.flatMap Stretch.bytes ∧
      ((gather deliveries).run reader).result =
        .ok [.ok [0xFF, 0xFF, 0xFF, 3, 1, 0xFF], .ok [0xFF, 0xFF, 1, 2, 0]] ∧
      ((gather deliveries).run reader).state.skipped = 2 := by
  intro reader deliveries
  have opened : ofSize (.integer 7) = .ok reader := rfl
  have delivered : deliveries.flatMap Delivery.bytes =
      crowded.flatMap Stretch.bytes := by decide
  have fits : reader.Fits deliveries := by
    simp only [deliveries, Fits]
    decide +kernel
  have clean : ∀ stretch ∈ crowded, stretch.Clean reader.capacity := by
    intro stretch member
    have builtFirst :
        Packet.build (.integer (0xFF : UInt8).toNat)
          (.integer (1 : UInt8).toNat)
          ([0xFF].map fun byte : UInt8 => .integer byte.toNat) =
            .ok (Packet.mk 0xFF 1 [0xFF]).encode := by
      rw [Packet.build_bytes,
        Packet.assemble_bytes _ _ (Nat.le_refl _) (by decide)]
      rfl
    have builtSecond :
        Packet.status (.integer (1 : UInt8).toNat)
          (.integer (0 : UInt8).toNat) [] =
            .ok (Packet.mk 1 0 []).encode :=
      Packet.status_eq 1 0 (by decide)
    rcases List.mem_cons.1 member with rfl | member
    · exact ⟨⟨by decide, by decide⟩, .instruction builtFirst, by decide⟩
    · obtain rfl := List.mem_singleton.1 member
      exact ⟨noise_nil, .status builtSecond, by decide⟩
  obtain ⟨resultEq, skippedEq, _⟩ :=
    gather_returns_packets opened clean delivered fits
  exact ⟨delivered, resultEq, skippedEq⟩

end Reader

end ActuatorBus
