import ActuatorBus.Proofs.Bus.Exchanging
import ActuatorBus.Proofs.Bus.Reachable
import ActuatorBus.Proofs.Reader.Session

/-!
# Collecting replies

The replies to one instruction are collected one by one: a bus that reads
responses again and again meets one event of the queued bytes after the other,
whatever the chunks are in which the line gives these bytes.
-/

namespace ActuatorBus

namespace Stream

/-! ## One event after the other -/

variable {capacity : Nat}

/-- What is left of a stream when so many events were met. -/
def leftover (capacity : Nat) : (events : Nat) → Bytes → Bytes
  | 0, bytes => bytes
  | events + 1, bytes => leftover capacity events (remainder capacity bytes)

/-- How many bytes were skipped when so many events were met. -/
def skippedBy (capacity : Nat) : (events : Nat) → Bytes → Nat
  | 0, _ => 0
  | events + 1, bytes =>
    start bytes + skippedBy capacity events (remainder capacity bytes)

theorem Decoding.eventAt_after (later : Decoding) {event : Event}
    (skipped place : Nat)
    (goesOn : ∀ required capacity, event ≠ .tooSmall required capacity) :
    (later.after [event] skipped).eventAt (place + 1) =
      later.eventAt place := by
  simp only [eventAt, after, List.singleton_append, List.getElem?_cons_succ]
  cases ends : later.events with
  | nil =>
      cases event with
      | tooSmall required capacity =>
          exact absurd rfl (goesOn required capacity)
      | _ => rfl
  | cons next rest => rw [List.getLast?_cons_cons]

theorem eventAt_zero (bytes : Bytes) :
    (decode capacity bytes).eventAt 0 = firstEvent capacity bytes := by
  rw [Decoding.eventAt, firstEvent]
  cases (decode capacity bytes).events with
  | nil => rfl
  | cons event rest => rfl

/-- What follows an event is met in what the event leaves. -/
theorem eventAt_succ (room : Packet.headerSize ≤ capacity) (bytes : Bytes)
    (place : Nat) :
    (decode capacity bytes).eventAt (place + 1) =
      (decode capacity (remainder capacity bytes)).eventAt place := by
  have skip : remainder capacity (bytes ++ []) = _ :=
    remainder_append_skip bytes []
  rw [List.append_nil, List.append_nil] at skip
  have eventsEq :
      (decode capacity bytes).eventAt (place + 1) =
        (decode capacity (bytes.drop (start bytes))).eventAt (place + 1) := by
    rw [decode_eq_after_skip]
    rfl
  have atFront : start (bytes.drop (start bytes)) = 0 :=
    start_drop_start bytes
  rw [eventsEq, skip]
  -- From here on only the live bytes matter.
  generalize bytes.drop (start bytes) = live at atFront
  rcases announced_cases room atFront with
    ⟨answer, decodeEq, _⟩ | ⟨size, _, complete⟩ | ⟨required, _, refused⟩
  · rw [remainder_incomplete atFront answer, decodeEq]
    rfl
  · have left := complete.remainder_append []
    rw [List.append_nil, List.append_nil] at left
    rw [left, complete.decode_eq]
    exact Decoding.eventAt_after _ _ _ (Event.ofMessage_ne_tooSmall _)
  · have left := refused.remainder_append []
    rw [List.append_nil] at left
    have ends : (decode capacity live).events =
        [] ++ [.tooSmall required capacity] := by
      rw [refused.decode_eq]
      rfl
    rw [left, Decoding.eventAt_of_tooSmall ends (Nat.zero_le _),
      Decoding.eventAt_of_tooSmall ends (Nat.zero_le _)]

end Stream

namespace Bus

open ActuatorBus.Stream (Event decode firstEvent leftover skippedBy)

/-- What comes of a response that is read when the next event is this one. A
sender may be expected. -/
inductive Collected (sender : Option Int) :
    Option Event → Except Fault Response → Prop where
  | silence : Collected sender none (.error (.line .deadline .readTimedOut))
  | tooSmall (required capacity : Nat) :
    Collected sender (some (.tooSmall required capacity))
      (.error (.bufferTooSmall required capacity))
  | badChecksum (received computed : UInt8) :
    Collected sender (some (.badChecksum received computed))
      (.error (.invalidChecksum received.toNat computed.toNat))
  | foreign (source length error : UInt8) (parameters : Bytes) {id : Int}
    (expects : sender = some id) (different : (source.toNat : Int) ≠ id) :
    Collected sender
      (some (.packet (Packet.headerByte :: Packet.headerByte :: source ::
        length :: error :: parameters)))
      (.error (.invalidPacketId source.toNat (some id)))
  | refused (source length error : UInt8) (parameters : Bytes)
    (accepted : ∀ id, sender = some id → (source.toNat : Int) = id)
    (failed : error.toNat &&& ErrorFlags.errorMask ≠ 0) :
    Collected sender
      (some (.packet (Packet.headerByte :: Packet.headerByte :: source ::
        length :: error :: parameters)))
      (.error (.motorError ⟨error.toNat &&& ErrorFlags.definedMask⟩))
  | response (source length error : UInt8) (parameters : Bytes)
    (accepted : ∀ id, sender = some id → (source.toNat : Int) = id)
    (succeeded : error.toNat &&& ErrorFlags.errorMask = 0) :
    Collected sender
      (some (.packet (Packet.headerByte :: Packet.headerByte :: source ::
        length :: error :: parameters)))
      (.ok ⟨source.toNat, ErrorFlags.warningOf error, .raw parameters⟩)

/-! ## Calls -/

/-- A response to be read: how many parameters it is expected to have, and
from which motor it should come, if that matters. -/
structure ReadCall where
  expected : Value
  sender : Option Int

def ReadCall.expectedId (call : ReadCall) : Value :=
  match call.sender with
  | some id => .integer id
  | none => .nothing

def ReadCall.act (discipline : Discipline) (call : ReadCall) :
    Act (Bus MemoryLine) Response :=
  readResponse (MemoryLine.link discipline) call.expected call.expectedId

theorem ReadCall.collected_packet (call : ReadCall)
    (source length error : UInt8) (parameters : Bytes) :
    Collected call.sender
      (some (.packet (Packet.headerByte :: Packet.headerByte :: source ::
        length :: error :: parameters)))
      (Response.judge (Packet.headerByte :: Packet.headerByte :: source ::
        length :: error :: parameters) call.expectedId) := by
  have checked (accepted : ∀ id, call.sender = some id →
      (source.toNat : Int) = id) :
      Collected call.sender
        (some (.packet (Packet.headerByte :: Packet.headerByte :: source ::
          length :: error :: parameters)))
        (do
          (ErrorFlags.mk error.toNat).known.check
          return ⟨source.toNat, ErrorFlags.warningOf error,
            .raw parameters⟩) := by
    rw [ErrorFlags.check_known]
    by_cases succeeded : error.toNat &&& ErrorFlags.errorMask = 0
    · rw [if_pos succeeded]
      exact .response source length error parameters accepted succeeded
    · rw [if_neg succeeded]
      exact .refused source length error parameters accepted succeeded
  cases expects : call.sender with
  | none =>
      rw [expects] at checked
      rw [ReadCall.expectedId, expects]
      simp only [Response.judge_unexpected]
      exact checked (fun _ impossible => nomatch impossible)
  | some id =>
      rw [expects] at checked
      rw [ReadCall.expectedId, expects]
      simp only
      rw [Response.judge_fields _ _ _ _ (by simp), checkSameId_integer,
        checkPacketId]
      by_cases same : (source.toNat : Int) = id
      · rw [if_pos same, ok_bind]
        exact checked fun _ isId => same.trans (Option.some.inj isId)
      · rw [if_neg same]
        exact .foreign source length error parameters rfl same

/-- What a call makes of an event. -/
def ReadCall.judged (call : ReadCall) (event : Option Event) :
    Except Fault Response := do
  Response.judge (← received event) call.expectedId

/-- A stream has no packets but those with all the fields of one. -/
theorem ReadCall.collected_event (call : ReadCall) {capacity : Nat}
    (room : Packet.headerSize ≤ capacity) (bytes : Bytes) :
    Collected call.sender (firstEvent capacity bytes)
      (call.judged (firstEvent capacity bytes)) := by
  rw [Stream.firstEvent_skip]
  rcases Stream.announced_cases room (Stream.start_drop_start bytes) with
    ⟨_, decodeEq, _⟩ | ⟨size, _, complete⟩ | ⟨required, _, refused⟩
  · rw [firstEvent, decodeEq]
    exact .silence
  · rw [complete.firstEvent_eq]
    rcases complete.event_eq with
      ⟨received, computed, eventEq⟩ |
        ⟨source, length, error, parameters, eventEq⟩
    · rw [eventEq]
      exact .badChecksum received computed
    · rw [eventEq]
      exact call.collected_packet source length error parameters
  · rw [refused.firstEvent_eq]
    exact .tooSmall required capacity

/-! ## Calls one after the other -/

/-- A bus that can receive whatever comes in. -/
structure Listening (bus : Bus MemoryLine) : Prop where
  sound : bus.reader.Sound
  room : Packet.headerSize ≤ bus.reader.capacity
  works : bus.line.failures.read = none
  chunked : bus.line.Chunked

variable {bus : Bus MemoryLine} (discipline : Discipline)

theorem Listening.held {final : Bus MemoryLine} (listening : Listening bus)
    (held : Held bus final) : Listening final := by
  obtain ⟨clock, input, lineEq⟩ := held.line_eq
  constructor
  · exact held.sound
  · exact held.capacity_eq ▸ listening.room
  · rw [lineEq]
    exact listening.works
  · rw [lineEq]
    exact listening.chunked

theorem Held.responseTimeout_eq {final : Bus MemoryLine}
    (held : Held bus final) (expected : Value) :
    final.responseTimeout expected = bus.responseTimeout expected := by
  rw [responseTimeout, held.baudRate_eq, held.timeoutMargin_eq]
  rfl

/-- What the call in a place comes to: the event of that place is judged, and
nothing behind it is received. -/
structure Meets (bus : Bus MemoryLine) (place : Nat) (call : ReadCall)
    (outcome : Outcome (Bus MemoryLine) Response) : Prop where
  result_eq :
    outcome.result =
      call.judged ((decode bus.reader.capacity bus.incoming).eventAt place)
  collected :
    Collected call.sender
      ((decode bus.reader.capacity bus.incoming).eventAt place)
      outcome.result
  incoming_eq :
    outcome.state.incoming =
      leftover bus.reader.capacity (place + 1) bus.incoming
  skipped_eq :
    outcome.state.reader.skipped =
      bus.reader.skipped +
        skippedBy bus.reader.capacity (place + 1) bus.incoming

theorem transcript_meets (calls : List ReadCall) :
    ∀ {bus : Bus MemoryLine}, Listening bus →
      (∀ call ∈ calls, ∃ timeout,
        bus.responseTimeout call.expected = .ok timeout) →
      ∀ {place : Nat} {call : ReadCall}
        {outcome : Outcome (Bus MemoryLine) Response},
        calls[place]? = some call →
        (Act.transcript (calls.map (ReadCall.act discipline)) bus)[place]? =
          some outcome →
        Meets bus place call outcome := by
  induction calls with
  | nil =>
      intro bus _ _ place call outcome called _
      cases called
  | cons first rest restMeets =>
      intro bus listening timely place call outcome called comes
      obtain ⟨timeout, computed⟩ := timely first List.mem_cons_self
      obtain ⟨final, notes, held, consumed, run⟩ :=
        readResponse_follows discipline computed first.expectedId
          listening.sound listening.room listening.works listening.chunked
      have ran : (first.act discipline).run bus =
          ⟨first.judged (firstEvent bus.reader.capacity bus.incoming), final,
            notes⟩ := run
      rw [List.map_cons, Act.transcript, ran] at comes
      cases place with
      | zero =>
          cases called
          cases comes
          constructor
          · rw [Stream.eventAt_zero]
          · rw [Stream.eventAt_zero]
            exact first.collected_event listening.room bus.incoming
          · exact consumed.incoming_eq
          · exact consumed.skipped_eq
      | succ place =>
          -- The other calls find what the first one left of the stream.
          have restTimely : ∀ call ∈ rest, ∃ timeout,
              final.responseTimeout call.expected = .ok timeout := by
            intro call member
            rw [held.responseTimeout_eq]
            exact timely call (List.mem_cons_of_mem first member)
          have meets :=
            restMeets (listening.held held) restTimely called comes
          have capacityEq := held.capacity_eq
          have incomingEq := consumed.incoming_eq
          constructor
          · rw [Stream.eventAt_succ listening.room, ← incomingEq,
              ← capacityEq]
            exact meets.result_eq
          · rw [Stream.eventAt_succ listening.room, ← incomingEq,
              ← capacityEq]
            exact meets.collected
          · rw [meets.incoming_eq, capacityEq, incomingEq]
            rfl
          · rw [meets.skipped_eq, capacityEq, incomingEq, consumed.skipped_eq,
              Nat.add_assoc]
            rfl

/-- The result of a call, and how many bytes were skipped then. -/
def seen (outcome : Outcome (Bus MemoryLine) Response) :
    Except Fault Response × Nat :=
  (outcome.result, outcome.state.reader.skipped)

/-- What is seen of the calls is decided by the stream that comes in and by
the capacity. -/
theorem transcript_seen (calls : List ReadCall) (listening : Listening bus)
    (timely : ∀ call ∈ calls, ∃ timeout,
      bus.responseTimeout call.expected = .ok timeout) :
    (Act.transcript (calls.map (ReadCall.act discipline)) bus).map seen =
      calls.mapIdx fun place call =>
        (call.judged
            ((decode bus.reader.capacity bus.incoming).eventAt place),
          bus.reader.skipped +
            skippedBy bus.reader.capacity (place + 1) bus.incoming) := by
  apply List.ext_getElem
  · rw [List.length_map, Act.length_transcript, List.length_map,
      List.length_mapIdx]
  · intro place inside inside'
    rw [List.length_mapIdx] at inside'
    rw [List.length_map] at inside
    have meets :=
      transcript_meets discipline calls listening timely
        (List.getElem?_eq_getElem inside') (List.getElem?_eq_getElem inside)
    rw [List.getElem_map, List.getElem_mapIdx]
    exact Prod.ext meets.result_eq meets.skipped_eq

/-! ## After an instruction -/

/-- An instruction was sent, and nothing comes in but the replies to it. -/
structure Awaits (bus sent : Bus MemoryLine) : Prop where
  listening : Listening sent
  capacity_eq : sent.reader.capacity = bus.reader.capacity
  incoming_eq : sent.incoming = bus.line.replies
  skipped_eq : sent.reader.skipped = bus.reader.skipped
  responseTimeout_eq (expected : Value) :
    sent.responseTimeout expected = bus.responseTimeout expected

theorem Awaits.timely {sent : Bus MemoryLine} (awaits : Awaits bus sent)
    {calls : List ReadCall}
    (timely : ∀ call ∈ calls, ∃ timeout,
      bus.responseTimeout call.expected = .ok timeout) :
    ∀ call ∈ calls, ∃ timeout,
      sent.responseTimeout call.expected = .ok timeout := by
  intro call member
  rw [awaits.responseTimeout_eq]
  exact timely call member

variable {motorId code address : Value} {bytes : Bytes}

/-- The request that writing raw bytes is. -/
def rawRequest (code address : Value) (bytes : Bytes) : Request :=
  ⟨code, bytes.length + 1, .integer 0, some (Filler.data address bytes)⟩

theorem rawRequest_fills (motorId code address : Value) (bytes : Bytes) :
    (rawRequest code address bytes).Fills
      (Operation.writeRaw motorId code address bytes).image := by
  have asks :
      (Operation.writeRaw motorId code address bytes).asked =
        some (motorId, .ok (rawRequest code address bytes)) := rfl
  exact Operation.asked_fills_image asks

theorem writeRaw_eq {σ : Type} (link : Link σ)
    (motorId code address : Value) (bytes : Bytes) :
    writeRaw link motorId code address bytes =
      let request := rawRequest code address bytes
      writePacket link motorId request.code (.integer request.parameterCount)
        request.fill :=
  writeRaw_eq_writePacket link motorId code address bytes

theorem writeRaw_made
    (sends : ((writeRaw (MemoryLine.link discipline) motorId code address
      bytes).run bus).result = .ok ()) :
    ∃ packet,
      (rawRequest code address bytes).packet bus.writeBuffer.length motorId
        (Operation.writeRaw motorId code address bytes).image =
          .ok packet := by
  cases made : (rawRequest code address bytes).packet bus.writeBuffer.length
      motorId (Operation.writeRaw motorId code address bytes).image with
  | ok packet => exact ⟨packet, rfl⟩
  | error fault =>
      obtain ⟨left, _, run⟩ :=
        writePacket_error (MemoryLine.link discipline)
          (rawRequest_fills motorId code address bytes) made
      rw [writeRaw_eq, run] at sends
      cases sends

theorem writeRaw_awaits (ready : bus.Ready)
    (unattended : bus.line.motors = []) (works : bus.line.failures = .none)
    (chunked : bus.line.Chunked) {packet : Packet}
    (made : (rawRequest code address bytes).packet bus.writeBuffer.length
      motorId (Operation.writeRaw motorId code address bytes).image =
        .ok packet) :
    ∃ sent notes, Awaits bus sent ∧
      (writeRaw (MemoryLine.link discipline) motorId code address bytes).run
        bus = ⟨.ok (), sent, notes⟩ := by
  have answers :
      Motor.answers packet.encode bus.line.motors = ⟨.ok [], [], []⟩ := by
    rw [unattended]
    rfl
  have run :=
    writePacket_ok (MemoryLine.link discipline)
      (rawRequest_fills motorId code address bytes) made
  have transmits :
      (transmit (MemoryLine.link discipline) packet.encode).run
        (bus.prepared packet) = _ :=
    transmit_run discipline (congrArg LineFailures.discard works)
      (congrArg LineFailures.write works) answers
  rw [transmits] at run
  have room : Packet.headerSize ≤ bus.reader.capacity :=
    Nat.le_trans (by decide) ready.room
  have reads : bus.line.failures.read = none :=
    congrArg LineFailures.read works
  rw [writeRaw_eq]
  refine ⟨_, _, ?_, run⟩
  constructor
  · exact ⟨⟨Nat.le_refl 0, Nat.zero_le _⟩, room, reads, chunked⟩
  · rfl
  · exact List.append_nil bus.line.replies
  · rfl
  · exact fun _ => rfl

/-- After an instruction that is answered by the queued replies alone,
successive calls meet one event of the replies after the other, and each takes
its own event only. The chunks make no difference. The calls are those for
which there is a deadline, as there is for every count of parameters at every
positive baud rate (`Timed.responseTimeout`). -/
theorem readResponses_collect
    (reachable : Reachable (MemoryLine.link discipline) bus)
    (unattended : bus.line.motors = []) (works : bus.line.failures = .none)
    (chunked : bus.line.Chunked)
    (sends : ((writeRaw (MemoryLine.link discipline) motorId code address
      bytes).run bus).result = .ok ())
    (calls : List ReadCall)
    (timely : ∀ call ∈ calls, ∃ timeout,
      bus.responseTimeout call.expected = .ok timeout) :
    let collect (bus : Bus MemoryLine) :=
      Act.transcript (calls.map (ReadCall.act discipline))
        ((writeRaw (MemoryLine.link discipline) motorId code address
          bytes).run bus).state
    (collect bus).length = calls.length ∧
    (∀ place call outcome, calls[place]? = some call →
      (collect bus)[place]? = some outcome →
        Collected call.sender
          ((decode bus.reader.capacity bus.line.replies).eventAt place)
          outcome.result ∧
        outcome.state.incoming =
          leftover bus.reader.capacity (place + 1) bus.line.replies ∧
        outcome.state.reader.skipped =
          bus.reader.skipped +
            skippedBy bus.reader.capacity (place + 1) bus.line.replies) ∧
    ∀ chunkSize, { bus.line with chunkSize }.Chunked →
      (collect { bus with line := { bus.line with chunkSize } }).map seen =
        (collect bus).map seen := by
  intro collect
  obtain ⟨packet, made⟩ := writeRaw_made discipline sends
  obtain ⟨sent, notes, awaits, run⟩ :=
    writeRaw_awaits discipline reachable.ready unattended works chunked made
  have collectEq :
      collect bus =
        Act.transcript (calls.map (ReadCall.act discipline)) sent := by
    simp only [collect, run]
  refine ⟨?_, ?_, ?_⟩
  · rw [collectEq, Act.length_transcript, List.length_map]
  · intro place call outcome called comes
    rw [collectEq] at comes
    have meets :=
      transcript_meets discipline calls awaits.listening (awaits.timely timely)
        called comes
    rw [← awaits.capacity_eq, ← awaits.incoming_eq, ← awaits.skipped_eq]
    exact ⟨meets.collected, meets.incoming_eq, meets.skipped_eq⟩
  · intro chunkSize rechunked
    have ready : Ready { bus with line := { bus.line with chunkSize } } :=
      ⟨reachable.ready.sound, reachable.ready.room⟩
    obtain ⟨other, _, awaitsOther, runOther⟩ :=
      writeRaw_awaits discipline ready unattended works rechunked made
    have collectOther :
        collect { bus with line := { bus.line with chunkSize } } =
          Act.transcript (calls.map (ReadCall.act discipline)) other := by
      simp only [collect, runOther]
    rw [collectEq, collectOther,
      transcript_seen discipline calls awaits.listening (awaits.timely timely),
      transcript_seen discipline calls awaitsOther.listening
        (awaitsOther.timely timely),
      awaits.capacity_eq, awaits.incoming_eq, awaits.skipped_eq,
      awaitsOther.capacity_eq, awaitsOther.incoming_eq,
      awaitsOther.skipped_eq]

/-- A bus with room for messages of eight bytes. Behind a byte of noise the
replies of two motors are queued, and a message of 13 bytes. -/
def crowded : Bus MemoryLine where
  line :=
    { MemoryLine.create (.integer 8000000) (.integer 4) [] with
      replies :=
        [0x55] ++ (Packet.mk 1 2 [7]).encode ++ (Packet.mk 2 0 []).encode ++
          [0xFF, 0xFF, 1, 9] }
  reader := ⟨List.replicate 8 0, 0, 0, 0⟩
  writeBuffer := [0xFF, 0xFF, 0, 0, 0, 0, 0, 0]
  baudRate := .integer 8000000
  timeoutMargin := .real .zero

theorem readResponses_collect_crowded :
    let calls := List.replicate 4 (ReadCall.mk (.integer 1) (some 1))
    let collect (bus : Bus MemoryLine) :=
      Act.transcript (calls.map (ReadCall.act .blocking))
        ((writeRaw (MemoryLine.link .blocking) (.integer 1) (.integer 3)
          (.integer 0) []).run bus).state
    let other :=
      { crowded with line := { crowded.line with chunkSize := .nothing } }
    (collect other).map seen =
      [(.ok ⟨1, some ⟨2⟩, .raw [7]⟩, 1),
        (.error (.invalidPacketId 2 (some 1)), 1),
        (.error (.bufferTooSmall 13 8), 1),
        (.error (.bufferTooSmall 13 8), 1)] := by
  intro calls collect other
  have started :
      Bus.start (MemoryLine.link .blocking) crowded.line
        ⟨.integer 8, .integer 8, .integer 8000000, .real .zero⟩ =
          .ok crowded := by
    rfl
  have sends :
      ((writeRaw (MemoryLine.link .blocking) (.integer 1) (.integer 3)
        (.integer 0) []).run crowded).result = .ok () := by
    decide +kernel
  have timed : crowded.Timed :=
    ⟨⟨.integer 8000000, rfl, rfl⟩, ⟨.real .zero, .zero, rfl, rfl⟩⟩
  have timely : ∀ call ∈ calls, ∃ timeout,
      crowded.responseTimeout call.expected = .ok timeout := by
    intro call member
    rw [List.eq_of_mem_replicate member]
    exact @Timed.responseTimeout _ crowded timed 1 (by decide)
  obtain ⟨_, _, independent⟩ :=
    readResponses_collect .blocking (.start started) rfl rfl
      (Or.inr ⟨4, by decide, rfl⟩) sends calls timely
  rw [independent .nothing (Or.inl rfl)]
  decide +kernel

end Bus

end ActuatorBus
