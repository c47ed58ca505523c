import ActuatorBus.Act
import ActuatorBus.Packet.Basic

/-!
# The packet reader

A reader recovers packets from a stream of bytes. It owns a buffer of fixed
size. The first `fillLevel` bytes are filled, and of these the first
`handedOut` belong to packets that were already handed out; they are dropped
when the reader looks for the next packet, so that a packet stays in place
until then. What lies behind the filled bytes is left over from earlier.

`poll` brings the next header to the front of the buffer and says whether a
whole message is there; `take` checks its checksum and hands it out.

Bytes can also be claimed back, which a careful caller never does: then the
buffer shrinks, and more bytes may count as filled than it holds.
-/

namespace ActuatorBus

/-- A buffer with the bytes received so far. -/
structure Reader where
  buffer : Bytes
  fillLevel : Nat
  /-- The number of leading bytes that were handed out. -/
  handedOut : Nat
  /-- The bytes that were dropped because they belong to no packet. -/
  skipped : Nat
deriving DecidableEq, Repr

namespace Reader

/-- An empty reader for messages of up to `size` bytes. -/
def ofSize (size : Value) : Except Fault Reader := do
  checkRoom (.integer Packet.minimumSize) size
  return ⟨← Bytes.allocate size, 0, 0, 0⟩

def capacity (reader : Reader) : Nat := reader.buffer.length

/-- The number of bytes that still fit behind the filled ones. -/
def unfilled (reader : Reader) : Nat := reader.capacity - reader.fillLevel

def filled (reader : Reader) : Bytes := reader.buffer.take reader.fillLevel

/-- The filled bytes that were not handed out yet. -/
def pending (reader : Reader) : Bytes :=
  reader.buffer.slice reader.handedOut reader.fillLevel

def reset : Act Reader Unit :=
  Act.modify fun reader => { reader with fillLevel := 0, handedOut := 0 }

/-- Copies as many of the bytes as fit behind the filled ones, and gives their
number. If more bytes count as filled than the buffer holds, the number is
negative: the excess is taken back, and bytes beyond it extend the buffer. -/
def feed (bytes : Bytes) : Act Reader Int := do
  let reader ← Act.get
  if reader.fillLevel ≤ reader.capacity then
    let count := min bytes.length reader.unfilled
    Act.set { reader with
      buffer := reader.buffer.overwrite reader.fillLevel (bytes.take count)
      fillLevel := reader.fillLevel + count }
    return count
  else
    let excess := reader.fillLevel - reader.capacity
    Act.set { reader with
      buffer := reader.buffer ++ bytes.take (bytes.length - excess)
      fillLevel := reader.capacity }
    return -excess

/-- Places bytes behind the filled ones without counting them as filled. -/
def store (bytes : Bytes) : Act Reader Unit := do
  let reader ← Act.get
  Act.require (bytes.length ≤ reader.unfilled) .lengthMismatch
  Act.set { reader with
    buffer := reader.buffer.overwrite reader.fillLevel bytes }

/-- Counts bytes placed by `store` as filled. -/
def commit (given : Value) : Act Reader Unit := do
  let reader ← Act.get
  let count ← Act.ofExcept given.needCount
  Act.require (0 ≤ count && reader.fillLevel + count ≤ reader.capacity)
    (.invalidReadCount given)
  Act.set { reader with fillLevel := reader.fillLevel + count.toNat }

/-- Places bytes behind the filled ones and counts them as filled. -/
def receive (bytes : Bytes) : Act Reader Unit := do
  store bytes
  commit (.integer bytes.length)

/-- Drops the first `count` filled bytes and shifts the others to the
front. -/
def dropFront (count : Nat) : Act Reader Unit := do
  let reader ← Act.get
  Act.require (count ≤ reader.fillLevel)
    (.overconsumed (.integer count) reader.fillLevel)
  Act.set { reader with
    buffer := reader.buffer.slice count reader.fillLevel ++
      reader.buffer.drop (reader.fillLevel - count)
    fillLevel := reader.fillLevel - count
    handedOut := reader.handedOut - count }

/-- Counts `count` more bytes as filled and as handed out. Of the filled bytes
the buffer keeps those that lie among its last `count` ones, and puts them
before what lies behind the new fill level. -/
def claimBack (count : Nat) : Act Reader Unit :=
  Act.modify fun reader =>
    { reader with
      buffer :=
        reader.buffer.slice (reader.capacity - count) reader.fillLevel ++
          reader.buffer.drop (reader.fillLevel + count)
      fillLevel := reader.fillLevel + count
      handedOut := reader.handedOut + count }

/-- Drops filled bytes at the front, or claims bytes back if the number is
negative. -/
def consume (given : Value) : Act Reader Unit := do
  let reader ← Act.get
  let count ← Act.ofExcept given.needCount
  Act.require (count ≤ reader.fillLevel)
    (.overconsumed given reader.fillLevel)
  match count with
  | .ofNat count => dropFront count
  | .negSucc count => claimBack (count + 1)

/-- Drops the bytes handed out and what lies before the next possible header,
and gives the number of the latter. -/
def dropGarbage : Act Reader Nat := do
  let reader ← Act.get
  let garbage := Packet.headerPosition reader.pending
  if 0 < garbage then
    Act.note (.skippingGarbage garbage)
    Act.note (.skippedGarbage (reader.pending.take garbage))
    Act.set { reader with skipped := reader.skipped + garbage }
  dropFront (reader.handedOut + garbage)
  Act.require ((← Act.get).handedOut == 0) .undropped
  return garbage

/-- One look at the front of the buffer. Without a value the header found was
none, and the look has to be repeated. -/
def look : Act Reader (Option (Option Nat)) := do
  let _ ← dropGarbage
  let reader ← Act.get
  if reader.fillLevel < Packet.headerSize then return some none
  match reader.buffer[Packet.lengthPosition]? with
  | none => Act.fail .indexOutOfRange
  | some length =>
    if length < 2 then
      Act.note (.ignoredHeader length.toNat)
      Act.set { reader with skipped := reader.skipped + 1 }
      dropFront 1
      return none
    else
      let size := Packet.headerSize + length.toNat
      Act.ofExcept (checkBufferSize size reader.capacity)
      return some (if size ≤ reader.fillLevel then some size else none)

/-- Brings the next header to the front of the buffer. Gives the size of the
message there if it is complete. Every repetition drops a byte, so that there
are no more of them than filled bytes. -/
def poll : Act Reader (Option Nat) := do
  Act.untilSome ((← Act.get).fillLevel + 1) look

/-- Where a message of `size` bytes at the front of the buffer has its
checksum. Indices go round: the one before the first is the last one. -/
def checksumIndex (reader : Reader) (size : Nat) : Nat :=
  if size = 0 then reader.capacity - 1 else size - 1

@[simp] theorem checksumIndex_of_pos (reader : Reader) {size : Nat}
    (positive : 0 < size) : reader.checksumIndex size = size - 1 :=
  if_neg (Nat.ne_of_gt positive)

/-- Hands out the message of `size` bytes at the front of the buffer, without
its checksum. It counts as handed out even if the checksum is wrong. -/
def take (size : Nat) : Act Reader Bytes := do
  let reader ← Act.get
  Act.note (.readPacket (reader.buffer.take size))
  let index := reader.checksumIndex size
  match reader.buffer[index]? with
  | none => Act.fail .indexOutOfRange
  | some received =>
    let computed :=
      Packet.checksum (reader.buffer.slice Packet.idPosition index)
    Act.set { reader with handedOut := reader.handedOut + size }
    Act.require (received == computed)
      (.invalidChecksum received.toNat computed.toNat)
    return reader.buffer.take index

/-- Hands out the next message if it is complete. -/
def next : Act Reader (Option Bytes) := do
  match ← poll with
  | none => return none
  | some size => return some (← take size)

/-- Hands out messages as long as there is a complete one, at most `limit` of
them. A wrong checksum is part of the result, any other fault ends it. -/
def drainUpTo : (limit : Nat) → Act Reader (List (Except Fault Bytes))
  | 0 => return []
  | limit + 1 => do
    match ← poll with
    | none => return []
    | some size =>
      match ← Act.attempt (take size) with
      | .ok packet => return .ok packet :: (← drainUpTo limit)
      | .error (.invalidChecksum received computed) =>
        return .error (.invalidChecksum received computed) ::
          (← drainUpTo limit)
      | .error fault => Act.fail fault

def drain : Act Reader (List (Except Fault Bytes)) := do
  drainUpTo ((← Act.get).fillLevel + 1)

end Reader

end ActuatorBus
