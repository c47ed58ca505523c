import ActuatorBus.Packet.Basic

/-!
# Streams

What a whole stream of bytes holds, for a receiver with room for messages of a
given size. The stream is taken apart at once, without a buffer: garbage is
skipped up to the next byte at which a message may begin, and every message
that is complete is an event.
-/

namespace ActuatorBus.Stream

/-- Whether a message may begin at the front: there is a header, possibly cut
off by the end of the stream, and a length byte, if it is there, counts the
code and the checksum. -/
def mayBegin : Bytes → Bool
  | [] => false
  | [b] => b == Packet.headerByte
  | b :: c :: rest =>
    b == Packet.headerByte && c == Packet.headerByte &&
      match rest with
      | _ :: length :: _ => 2 ≤ length
      | _ => true

/-- The position of the first byte at which a message may begin. Without one
it is the length. -/
def start : Bytes → Nat
  | [] => 0
  | b :: rest => if mayBegin (b :: rest) then 0 else start rest + 1

theorem start_le (bytes : Bytes) : start bytes ≤ bytes.length := by
  induction bytes with
  | nil => simp [start]
  | cons b rest bound =>
      unfold start
      split
      · simp
      · simpa using bound

/-- What a receiver gets out of a stream. -/
inductive Event where
  /-- A message, without its checksum. -/
  | packet (bytes : Bytes)
  | badChecksum (received computed : UInt8)
  /-- The announced message is larger than there is room for. It ends the
  reception. -/
  | tooSmall (required capacity : Nat)
deriving DecidableEq, Repr

def Event.ofMessage (message : Bytes) : Event :=
  let body := message.dropLast
  let computed := Packet.checksum (body.drop Packet.idPosition)
  match message.getLast? with
  | some received =>
    if received = computed then packet body
    else badChecksum received computed
  | none => packet body

/-- The events of a stream, what is left over at its end, and how many bytes
were skipped. -/
structure Decoding where
  events : List Event
  rest : Bytes
  skipped : Nat
deriving DecidableEq, Repr

/-- Takes a stream apart. -/
def decode (capacity : Nat) (bytes : Bytes) : Decoding :=
  let position := start bytes
  let live := bytes.drop position
  match live[Packet.lengthPosition]? with
  | none => ⟨[], live, position⟩
  | some length =>
    let size := Packet.headerSize + length.toNat
    if capacity < size then ⟨[.tooSmall size capacity], live, position⟩
    else if live.length < size then ⟨[], live, position⟩
    else
      let later := decode capacity (live.drop size)
      ⟨.ofMessage (live.take size) :: later.events, later.rest,
        position + later.skipped⟩
termination_by bytes.length
decreasing_by
  have dropped : live.length = bytes.length - position := by
    simp [live]
  have positive : 4 ≤ size := by simp only [size, Packet.headerSize]; omega
  simp only [List.length_drop]
  omega

end ActuatorBus.Stream
