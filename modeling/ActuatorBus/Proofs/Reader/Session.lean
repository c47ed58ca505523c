import ActuatorBus.Proofs.Reader.Poll
import Mathlib.Control.Monad.Basic

/-!
# Reading a stream in pieces

A session is a reader together with what a careful driver has done with it: the
bytes delivered so far, the message that the last poll announced, and what
taking messages came to. However the stream is cut up and whenever the reader
is polled, the session follows the decoding of the whole stream at once
(`run_follows_decode`).
-/

namespace ActuatorBus

namespace Stream

/-- The event that a receiver meets in a place of their order. It meets a
message without room for it again and again. -/
def Decoding.eventAt (decoding : Decoding) (place : Nat) : Option Event :=
  match decoding.events[place]?, decoding.events.getLast? with
  | some event, _ => some event
  | none, some (.tooSmall required capacity) =>
    some (.tooSmall required capacity)
  | none, _ => none

theorem Decoding.eventAt_of_lt {decoding : Decoding} {place : Nat}
    (inside : place < decoding.events.length) :
    decoding.eventAt place = some (decoding.events[place]) := by
  rw [eventAt, List.getElem?_eq_getElem inside]

theorem Decoding.eventAt_of_tooSmall {decoding : Decoding} {place : Nat}
    {events : List Event} {required capacity : Nat}
    (ends : decoding.events = events ++ [.tooSmall required capacity])
    (late : events.length ≤ place) :
    decoding.eventAt place = some (.tooSmall required capacity) := by
  rcases Nat.lt_or_eq_of_le late with later | rfl
  · have beyond : decoding.events[place]? = none := by
      rw [List.getElem?_eq_none_iff, ends, List.length_append]
      exact later
    rw [eventAt, beyond, ends, List.getLast?_concat]
  · rw [eventAt, ends, List.getElem?_concat_length]

end Stream

namespace Reader

open ActuatorBus.Stream

/-- Something that a driver does with a reader. -/
inductive Move where
  | feed (bytes : Bytes)
  /-- Bytes are placed behind the filled ones, and then counted. -/
  | receive (bytes : Bytes)
  | poll
  /-- The message that the last poll announced is taken. -/
  | take
deriving DecidableEq, Repr

/-- A reader at work. -/
structure Session where
  reader : Reader
  /-- All bytes that were delivered, in order. -/
  delivered : Bytes
  /-- The size of the message that the last poll announced, until it is
  taken. -/
  awaited : Option Nat
  /-- What taking messages came to, and every other fault. -/
  outcomes : List (Except Fault Bytes)

namespace Session

/-- The session that begins with a reader. -/
def fresh (reader : Reader) : Session := ⟨reader, [], none, []⟩

/-- The fault of a result, if it is one, as an outcome. -/
def faultOf {α : Type} : Except Fault α → List (Except Fault Bytes)
  | .ok _ => []
  | .error fault => [.error fault]

/-- The session after bytes were handed to the reader. -/
def deliver {α : Type} (session : Session) (bytes : Bytes)
    (outcome : Outcome Reader α) : Session :=
  { session with
    reader := outcome.state
    delivered := session.delivered ++ bytes
    outcomes := session.outcomes ++ faultOf outcome.result }

/-- The session after a move. -/
def advance (session : Session) : Move → Session
  | .feed bytes =>
    session.deliver bytes ((Reader.feed bytes).run session.reader)
  | .receive bytes =>
    session.deliver bytes ((Reader.receive bytes).run session.reader)
  | .poll =>
    let outcome := Reader.poll.run session.reader
    { session with
      reader := outcome.state
      awaited := outcome.result.toOption.join
      outcomes := session.outcomes ++ faultOf outcome.result }
  | .take =>
    match session.awaited with
    | none => session
    | some size =>
      let outcome := (Reader.take size).run session.reader
      { session with
        reader := outcome.state
        awaited := none
        outcomes := session.outcomes ++ [outcome.result] }

/-- The session after some moves. -/
def run (session : Session) (moves : List Move) : Session :=
  moves.foldl advance session

/-- Whether a driver may make a move: bytes must fit behind the filled ones,
and a message must have been announced to be taken. -/
def Admits (session : Session) : Move → Prop
  | .feed bytes | .receive bytes => bytes.length ≤ session.reader.unfilled
  | .poll => True
  | .take => session.awaited.isSome

/-- Whether every one of some moves may be made when it is its turn. -/
def Careful (session : Session) : List Move → Prop
  | [] => True
  | move :: rest => session.Admits move ∧ (session.advance move).Careful rest

/-- What holds in every session. Decoding what was delivered, whatever
follows, comes to the events met so far and then to decoding the pending
bytes. -/
structure Tracks (capacity : Nat) (session : Session) (events : List Event)
    (refusals : List (Except Fault Bytes)) : Prop where
  sound : session.reader.Sound
  capacity_eq : session.reader.capacity = capacity
  decode_eq : ∀ later,
    decode capacity (session.delivered ++ later) =
      (decode capacity (session.reader.pending ++ later)).after events
        session.reader.skipped
  complete : ∀ size, session.awaited = some size →
    session.reader.handedOut = 0 ∧
      Complete capacity session.reader.pending size
  outcomes_eq : session.outcomes = events.map Event.outcome ++ refusals
  refused : ∀ refusal ∈ refusals, ∃ required : Nat,
    refusal = .error (.bufferTooSmall required capacity) ∧
      Refused capacity session.reader.pending required

variable {capacity : Nat} {session : Session} {events : List Event}
  {refusals : List (Except Fault Bytes)}

theorem Tracks.deliver {α : Type} {outcome : Outcome Reader α} {value : α}
    {bytes : Bytes} (tracks : Tracks capacity session events refusals)
    (reaches : Reaches outcome (.ok value)
      { session.reader.window with
        filled := session.reader.filled ++ bytes }) :
    Tracks capacity (session.deliver bytes outcome) events refusals := by
  have pendingEq := tracks.sound.pending_append reaches.window_eq
  have skippedEq : outcome.state.skipped = session.reader.skipped :=
    congrArg Window.skipped reaches.window_eq
  have handedOutEq : outcome.state.handedOut = session.reader.handedOut :=
    congrArg Window.handedOut reaches.window_eq
  constructor
  · exact reaches.sound
  · exact (congrArg Window.capacity reaches.window_eq).trans
      tracks.capacity_eq
  · intro later
    simp only [Session.deliver, pendingEq, skippedEq, List.append_assoc]
    exact tracks.decode_eq (bytes ++ later)
  · intro size awaitedEq
    obtain ⟨fresh, complete⟩ := tracks.complete size awaitedEq
    simp only [Session.deliver, pendingEq, handedOutEq]
    exact ⟨fresh, complete.append bytes⟩
  · simp [Session.deliver, reaches.result_eq, faultOf, tracks.outcomes_eq]
  · intro refusal member
    obtain ⟨required, refusalEq, refused⟩ := tracks.refused refusal member
    simp only [Session.deliver, pendingEq]
    exact ⟨required, refusalEq, refused.append bytes⟩

/-- The session whose reader was polled, apart from the answer. -/
def polled (session : Session) : Session :=
  { session with
    reader := (Reader.poll.run session.reader).state
    awaited := none }

/-- A poll keeps track, brings the first byte at which a message may begin to
the front, and answers what is announced there. -/
theorem Tracks.polled (tracks : Tracks capacity session events refusals) :
    Tracks capacity session.polled events refusals ∧
      start session.polled.reader.pending = 0 ∧
      session.polled.reader.handedOut = 0 ∧
      (Reader.poll.run session.reader).result =
        announced capacity session.polled.reader.pending := by
  have reaches := poll_reaches tracks.sound
  rw [tracks.capacity_eq] at reaches
  have skippedEq : session.polled.reader.skipped =
      session.reader.skipped + start session.reader.pending :=
    congrArg Window.skipped reaches.window_eq
  have pendingEq : session.polled.reader.pending =
      session.reader.pending.drop (start session.reader.pending) :=
    congrArg Window.pending reaches.window_eq
  refine ⟨⟨reaches.sound, ?_, ?_, ?_, tracks.outcomes_eq, ?_⟩, ?_,
    congrArg Window.handedOut reaches.window_eq, ?_⟩
  · exact (congrArg Window.capacity reaches.window_eq).trans
      tracks.capacity_eq
  · intro later
    rw [pendingEq, skippedEq]
    exact (tracks.decode_eq later).trans (by
      rw [decode_append_skip, Decoding.after_after, List.append_nil])
  · intro size awaitedEq
    exact absurd awaitedEq (by simp [Session.polled])
  · intro refusal member
    obtain ⟨required, refusalEq, refused⟩ := tracks.refused refusal member
    rw [pendingEq, refused.atFront, List.drop_zero]
    exact ⟨required, refusalEq, refused⟩
  · rw [pendingEq, start_drop_start]
  · rw [pendingEq]
    exact reaches.result_eq

/-- After a refusal nothing but refusals is announced. -/
theorem Tracks.refusals_eq_nil
    (tracks : Tracks capacity session events refusals)
    {answer : Option Nat}
    (answered : announced capacity session.reader.pending = .ok answer) :
    refusals = [] := by
  by_cases none : refusals = []
  · exact none
  · obtain ⟨refusal, member⟩ := List.exists_mem_of_ne_nil refusals none
    obtain ⟨required, _, refused⟩ := tracks.refused refusal member
    exact absurd (answered.symm.trans refused.announced_eq) (by simp)

theorem Tracks.poll (room : Packet.headerSize ≤ capacity)
    (tracks : Tracks capacity session events refusals) :
    ∃ more, Tracks capacity (session.advance .poll) events
      (refusals ++ more) := by
  obtain ⟨next, atFront, fresh, resultEq⟩ := tracks.polled
  obtain ⟨sound, capacityEq, decodeEq, _, outcomesEq, refused⟩ := next
  rcases announced_cases room atFront with
    ⟨answer, _, _⟩ | ⟨size, answer, complete⟩ | ⟨required, answer, tooLarge⟩
  · refine ⟨[], sound, capacityEq, decodeEq, ?_, ?_, ?_⟩
    · intro size awaitedEq
      simp [advance, resultEq, answer, Except.toOption] at awaitedEq
    · simp [advance, resultEq, answer, faultOf, tracks.outcomes_eq]
    · rw [List.append_nil]
      exact refused
  · refine ⟨[], sound, capacityEq, decodeEq, ?_, ?_, ?_⟩
    · intro found awaitedEq
      simp only [advance, resultEq, answer, Except.toOption, Option.join_some,
        Option.some.injEq] at awaitedEq
      exact ⟨fresh, awaitedEq ▸ complete⟩
    · simp [advance, resultEq, answer, faultOf, tracks.outcomes_eq]
    · rw [List.append_nil]
      exact refused
  · refine ⟨[.error (.bufferTooSmall required capacity)], sound, capacityEq,
      decodeEq, ?_, ?_, ?_⟩
    · intro size awaitedEq
      simp [advance, resultEq, answer, Except.toOption] at awaitedEq
    · simp [advance, resultEq, answer, faultOf, tracks.outcomes_eq]
    · intro refusal member
      rcases List.mem_append.1 member with earlier | latest
      · exact refused refusal earlier
      · exact ⟨required, List.mem_singleton.1 latest, tooLarge⟩

theorem Tracks.take {size : Nat}
    (tracks : Tracks capacity session events refusals)
    (awaitedEq : session.awaited = some size) :
    ∃ event, Tracks capacity (session.advance .take) (events ++ [event])
      refusals := by
  obtain ⟨fresh, complete⟩ := tracks.complete size awaitedEq
  have noRefusals := tracks.refusals_eq_nil complete.announced_eq
  subst noRefusals
  have pendingEq : session.reader.pending = session.reader.filled := by
    rw [pending_eq, Window.pending]
    exact congrArg (session.reader.filled.drop ·) fresh
  have buffered :
      session.reader.handedOut + size ≤ session.reader.fillLevel := by
    have enough := complete.complete
    rw [tracks.sound.length_pending] at enough
    omega
  have reaches := take_reaches tracks.sound complete.positive buffered
  have nextPending :
      ((Reader.take size).run session.reader).state.pending =
        session.reader.pending.drop size := by
    rw [pending_eq, reaches.window_eq, Window.pending, pendingEq]
    simp [fresh, window]
  have nextSkipped :
      ((Reader.take size).run session.reader).state.skipped =
        session.reader.skipped :=
    congrArg Window.skipped reaches.window_eq
  refine ⟨.ofMessage (session.reader.pending.take size), ?_⟩
  constructor
  · simpa [advance, awaitedEq] using reaches.sound
  · have capacityEq :
        ((Reader.take size).run session.reader).state.capacity = capacity :=
      (congrArg Window.capacity reaches.window_eq).trans tracks.capacity_eq
    simpa [advance, awaitedEq] using capacityEq
  · intro later
    simp only [advance, awaitedEq, nextPending, nextSkipped]
    rw [tracks.decode_eq later, complete.decode_append later,
      Decoding.after_after, Nat.add_zero]
  · intro next nextAwaited
    simp [advance, awaitedEq] at nextAwaited
  · simp [advance, awaitedEq, tracks.outcomes_eq, reaches.result_eq,
      pendingEq]
  · simp

theorem Tracks.advance (room : Packet.headerSize ≤ capacity) {move : Move}
    (tracks : Tracks capacity session events refusals)
    (admitted : session.Admits move) :
    ∃ events refusals,
      Tracks capacity (session.advance move) events refusals := by
  cases move with
  | feed bytes =>
      exact ⟨_, _, tracks.deliver (feed_reaches tracks.sound admitted)⟩
  | receive bytes =>
      exact ⟨_, _, tracks.deliver (receive_reaches tracks.sound admitted)⟩
  | poll =>
      obtain ⟨more, next⟩ := tracks.poll room
      exact ⟨_, _, next⟩
  | take =>
      obtain ⟨size, awaitedEq⟩ := Option.isSome_iff_exists.1 admitted
      obtain ⟨event, next⟩ := tracks.take awaitedEq
      exact ⟨_, _, next⟩

theorem Tracks.run (room : Packet.headerSize ≤ capacity) :
    ∀ {moves : List Move} {session : Session} {events : List Event}
      {refusals : List (Except Fault Bytes)},
      Tracks capacity session events refusals → session.Careful moves →
        ∃ events refusals,
          Tracks capacity (session.run moves) events refusals
  | [], _, _, _, tracks, _ => ⟨_, _, tracks⟩
  | move :: rest, session, _, _, tracks, careful => by
      obtain ⟨_, _, next⟩ := tracks.advance room careful.1
      have reached := Tracks.run room next careful.2
      exact reached

theorem tracks_fresh {size : Value} {reader : Reader}
    (opened : ofSize size = .ok reader) :
    Packet.headerSize ≤ reader.capacity ∧
      Tracks reader.capacity (fresh reader) [] [] := by
  obtain ⟨room, enough, rfl⟩ := ofSize_eq opened
  refine ⟨?_, ⟨Nat.le_refl 0, Nat.zero_le _⟩, rfl, ?_, ?_, rfl, ?_⟩
  · simp only [capacity, List.length_replicate, Packet.headerSize]
    simp only [Packet.minimumSize] at enough
    omega
  · intro later
    exact (Decoding.after_nil_zero _).symm
  · intro size awaitedEq
    exact absurd awaitedEq (by simp [fresh])
  · intro refusal member
    exact absurd member (List.not_mem_nil)

/-- Every outcome so far is the one of the event in its place, whatever is
still to be delivered. -/
theorem Tracks.outcomes_follow
    (tracks : Tracks capacity session events refusals) (later : Bytes)
    {place : Nat} {outcome : Except Fault Bytes}
    (met : session.outcomes[place]? = some outcome) :
    ((decode capacity (session.delivered ++ later)).eventAt place).map
        Event.outcome = some outcome := by
  have wholeEvents :
      (decode capacity (session.delivered ++ later)).events =
        events ++
          (decode capacity (session.reader.pending ++ later)).events := by
    rw [tracks.decode_eq later, Decoding.after]
  rw [tracks.outcomes_eq] at met
  by_cases early : place < events.length
  · have inside :
        place <
          (decode capacity (session.delivered ++ later)).events.length := by
      rw [wholeEvents, List.length_append]
      omega
    have earlyOutcome : (events.map Event.outcome)[place]? = some outcome := by
      rwa [List.getElem?_append_left (by simpa using early)] at met
    rw [Decoding.eventAt_of_lt inside, ← List.getElem?_eq_getElem inside,
      wholeEvents, List.getElem?_append_left early, ← List.getElem?_map]
    exact earlyOutcome
  · have member : outcome ∈ refusals := by
      rw [List.getElem?_append_right (by simpa using early)] at met
      exact List.mem_of_getElem? met
    obtain ⟨required, rfl, refused⟩ := tracks.refused outcome member
    rw [refused.decode_append later] at wholeEvents
    rw [Decoding.eventAt_of_tooSmall wholeEvents (Nat.not_lt.1 early)]
    rfl

/-! ## Answers of polls -/

/-- Decoding all that was delivered goes on where a poll stopped. -/
theorem Tracks.decode_polled
    (tracks : Tracks capacity session events refusals) :
    decode capacity session.delivered =
      (decode capacity session.polled.reader.pending).after events
        session.polled.reader.skipped := by
  have atEnd := tracks.polled.1.decode_eq []
  rwa [List.append_nil, List.append_nil] at atEnd

/-- A poll that finds nothing has met all events. -/
theorem Tracks.poll_nothing (room : Packet.headerSize ≤ capacity)
    (tracks : Tracks capacity session events refusals)
    (nothing : (Reader.poll.run session.reader).result = .ok none) :
    session.outcomes =
        (decode capacity session.delivered).events.map Event.outcome ∧
      session.polled.reader.pending =
        (decode capacity session.delivered).rest ∧
      session.polled.reader.skipped =
        (decode capacity session.delivered).skipped ∧
      0 < session.polled.reader.unfilled := by
  obtain ⟨next, atFront, freshMark, resultEq⟩ := tracks.polled
  have answer := resultEq.symm.trans nothing
  obtain ⟨decodeEq, space⟩ := incomplete_of_announced room atFront answer
  have wholeEq := tracks.decode_polled
  rw [decodeEq] at wholeEq
  rw [wholeEq, tracks.outcomes_eq, next.refusals_eq_nil answer]
  refine ⟨by simp [Decoding.after], rfl, rfl, ?_⟩
  rw [next.sound.length_pending, freshMark] at space
  rw [unfilled, next.capacity_eq]
  omega

/-- A poll that announces a message announces the next event. -/
theorem Tracks.poll_message (room : Packet.headerSize ≤ capacity)
    (tracks : Tracks capacity session events refusals) {size : Nat}
    (announces : (Reader.poll.run session.reader).result = .ok (some size)) :
    size ≤ session.polled.reader.pending.length ∧
      (decode capacity session.delivered).eventAt session.outcomes.length =
        some (.ofMessage (session.polled.reader.pending.take size)) := by
  obtain ⟨next, atFront, _, resultEq⟩ := tracks.polled
  have answer := resultEq.symm.trans announces
  have complete := complete_of_announced room atFront answer
  have nextEvent := complete.decode_append []
  rw [List.append_nil] at nextEvent
  refine ⟨complete.complete, ?_⟩
  rw [tracks.decode_polled, nextEvent, tracks.outcomes_eq,
    next.refusals_eq_nil answer]
  simp [Decoding.eventAt, Decoding.after]

/-- A poll fails only at a message without room, which is the last event. -/
theorem Tracks.poll_refusal (room : Packet.headerSize ≤ capacity)
    (tracks : Tracks capacity session events refusals) {fault : Fault}
    (failed : (Reader.poll.run session.reader).result = .error fault) :
    ∃ required : Nat, fault = .bufferTooSmall required capacity ∧
      (decode capacity session.delivered).events =
        events ++ [.tooSmall required capacity] ∧
      events.map Event.outcome <+: session.outcomes ∧
      session.polled.reader.pending =
        (decode capacity session.delivered).rest ∧
      session.polled.reader.skipped =
        (decode capacity session.delivered).skipped := by
  obtain ⟨_, atFront, _, resultEq⟩ := tracks.polled
  have answer := resultEq.symm.trans failed
  obtain ⟨required, faultEq, refused⟩ :=
    refused_of_announced room atFront answer
  have lastEvent := refused.decode_append []
  rw [List.append_nil] at lastEvent
  rw [tracks.decode_polled, lastEvent, tracks.outcomes_eq]
  exact ⟨required, faultEq, rfl, List.prefix_append _ _, rfl, rfl⟩

end Session

open Session in
/-- However a stream is cut up, and whenever the reader is polled: what taking
messages comes to are the events of the stream in their order. A poll that
finds nothing has met all events of what was delivered, with the same rest and
as many bytes skipped, and leaves room to go on; a poll that announces a
message announces the next event; and a poll fails only at a message without
room, which is the last event. -/
theorem run_follows_decode {size : Value} {reader : Reader}
    {moves : List Move}
    (opened : ofSize size = .ok reader)
    (careful : (fresh reader).Careful moves) :
    let session := (fresh reader).run moves
    let whole := decode reader.capacity session.delivered
    let polled := Reader.poll.run session.reader
    (∀ later place outcome, session.outcomes[place]? = some outcome →
      ((decode reader.capacity (session.delivered ++ later)).eventAt
        place).map Event.outcome = some outcome) ∧
    (polled.result = .ok none →
      session.outcomes = whole.events.map Event.outcome ∧
        polled.state.pending = whole.rest ∧
        polled.state.skipped = whole.skipped ∧
        0 < polled.state.unfilled) ∧
    (∀ size, polled.result = .ok (some size) →
      size ≤ polled.state.pending.length ∧
        whole.eventAt session.outcomes.length =
          some (.ofMessage (polled.state.pending.take size))) ∧
    (∀ fault, polled.result = .error fault →
      ∃ events, ∃ required : Nat,
        fault = .bufferTooSmall required reader.capacity ∧
        whole.events = events ++ [.tooSmall required reader.capacity] ∧
        events.map Event.outcome <+: session.outcomes ∧
        polled.state.pending = whole.rest ∧
        polled.state.skipped = whole.skipped) := by
  intro session whole polled
  obtain ⟨room, start⟩ := tracks_fresh opened
  obtain ⟨events, refusals, tracks⟩ := start.run room careful
  refine ⟨?_, ?_, ?_, ?_⟩
  · intro later place outcome met
    exact tracks.outcomes_follow later met
  · intro nothing
    exact tracks.poll_nothing room nothing
  · intro size announces
    exact tracks.poll_message room announces
  · intro fault failed
    exact ⟨events, tracks.poll_refusal room failed⟩

open Session in
/-- A header that is cut in two, after a byte of garbage. -/
theorem run_follows_decode_of_cut_header :
    let reader : Reader := ⟨List.replicate 8 0, 0, 0, 0⟩
    let moves : List Move := [.feed [0x00, 0xFF], .poll,
      .receive [0xFF, 0x01, 0x02], .poll, .feed [0x00, 0xFC], .poll, .take]
    ofSize (.integer 8) = .ok reader ∧ (fresh reader).Careful moves ∧
      (decode 8 [0x00, 0xFF, 0xFF, 0x01, 0x02, 0x00, 0xFC]).events.map
        Event.outcome = [.ok [0xFF, 0xFF, 0x01, 0x02, 0x00]] := by
  intro reader moves
  have opened : ofSize (.integer 8) = .ok reader := rfl
  have careful : (fresh reader).Careful moves := by
    simp only [moves, Careful, Admits]
    decide
  have last : (Reader.poll.run ((fresh reader).run moves).reader).result =
    .ok none := by decide +kernel
  have outcomes : ((fresh reader).run moves).outcomes =
      [.ok [0xFF, 0xFF, 0x01, 0x02, 0x00]] := by decide +kernel
  have delivered : ((fresh reader).run moves).delivered =
      [0x00, 0xFF, 0xFF, 0x01, 0x02, 0x00, 0xFC] := by decide +kernel
  have met := ((run_follows_decode opened careful).2.1 last).1
  rw [outcomes, delivered] at met
  exact ⟨opened, careful, met.symm⟩

end Reader

end ActuatorBus
