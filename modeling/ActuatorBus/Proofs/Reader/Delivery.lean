import ActuatorBus.Proofs.Reader.Poll
import ActuatorBus.Proofs.Stream.Resumption

/-!
# Deliveries

A stream is delivered to a reader piece by piece, and after every piece all
complete messages are taken. What is taken then is what decoding the whole
stream gives, wherever it was cut (`gather_decodes`).
-/

namespace ActuatorBus.Reader

open ActuatorBus.Stream

variable {reader : Reader}

/-! ## Taking all messages -/

/-- The reader after the message was taken that is the first one among the
pending bytes. -/
structure Passed (reader : Reader) (size : Nat) (next : Reader) : Prop where
  sound : next.Sound
  capacity_eq : next.capacity = reader.capacity
  pending_eq : next.pending =
    (reader.pending.drop (start reader.pending)).drop size
  skipped_eq : next.skipped = reader.skipped + start reader.pending

theorem poll_take_run (sound : reader.Sound) {size : Nat}
    (complete : Complete reader.capacity
      (reader.pending.drop (start reader.pending)) size) :
    ∃ middle next notes more, Passed reader size next ∧
      poll.run reader = ⟨.ok (some size), middle, notes⟩ ∧
      (take size).run middle =
        ⟨(Event.ofMessage ((reader.pending.drop
          (start reader.pending)).take size)).outcome, next, more⟩ := by
  have polls := poll_reaches sound
  rw [complete.announced_eq] at polls
  rcases polled : poll.run reader with ⟨found, middle, notes⟩
  rw [polled] at polls
  obtain ⟨foundEq, windowEq, soundMiddle⟩ := polls
  have filledEq : middle.filled = reader.pending.drop (start reader.pending) :=
    congrArg Window.filled windowEq
  have nothingOut : middle.handedOut = 0 := congrArg Window.handedOut windowEq
  have buffered : middle.handedOut + size ≤ middle.fillLevel := by
    rw [nothingOut, ← soundMiddle.length_filled, filledEq]
    have enough := complete.complete
    omega
  have takes := take_reaches soundMiddle complete.positive buffered
  rcases taken : (take size).run middle with ⟨given, next, more⟩
  rw [taken] at takes
  obtain ⟨givenEq, nextWindow, soundNext⟩ := takes
  rw [filledEq] at givenEq
  refine ⟨middle, next, notes, more, ⟨soundNext, ?_, ?_, ?_⟩, ?_, ?_⟩
  · exact (congrArg Window.capacity nextWindow).trans
      (congrArg Window.capacity windowEq)
  · rw [pending_eq, nextWindow, Window.pending]
    simp only [window, filledEq, nothingOut, Nat.zero_add]
  · exact (congrArg Window.skipped nextWindow).trans
      (congrArg Window.skipped windowEq)
  · exact congrArg (Outcome.mk · middle notes) foundEq
  · exact taken.trans (congrArg (Outcome.mk · next more) givenEq)

/-- Taking messages came to a decoding of the pending bytes. -/
structure Decodes (outcome : Outcome Reader (List (Except Fault Bytes)))
    (reader : Reader) (decoding : Decoding) : Prop where
  result_eq : outcome.result = .ok (decoding.events.map Event.outcome)
  sound : outcome.state.Sound
  capacity_eq : outcome.state.capacity = reader.capacity
  pending_eq : outcome.state.pending = decoding.rest
  skipped_eq : outcome.state.skipped = reader.skipped + decoding.skipped

theorem drainUpTo_run {limit size : Nat} {middle next : Reader}
    {notes more : List Note} {event : Event}
    (polled : poll.run reader = ⟨.ok (some size), middle, notes⟩)
    (taken : (take size).run middle = ⟨event.outcome, next, more⟩)
    (fits : ∀ required capacity, event ≠ .tooSmall required capacity) :
    (drainUpTo (limit + 1)).run reader =
      let outcome := (drainUpTo limit).run next
      ⟨outcome.result.map (event.outcome :: ·), outcome.state,
        notes ++ (more ++ outcome.notes)⟩ := by
  rcases drained : (drainUpTo limit).run next with ⟨_ | messages, last, rest⟩
  · cases event with
    | packet bytes =>
        simp [drainUpTo, polled, taken, drained, Event.outcome, Except.map]
    | badChecksum received computed =>
        simp [drainUpTo, polled, taken, drained, Event.outcome, Except.map]
    | tooSmall required capacity => exact absurd rfl (fits required capacity)
  · cases event with
    | packet bytes =>
        simp [drainUpTo, polled, taken, drained, Event.outcome, Except.map]
    | badChecksum received computed =>
        simp [drainUpTo, polled, taken, drained, Event.outcome, Except.map]
    | tooSmall required capacity => exact absurd rfl (fits required capacity)

theorem drainUpTo_of_incomplete (limit : Nat) (sound : reader.Sound)
    (nothing : announced reader.capacity
      (reader.pending.drop (start reader.pending)) = .ok none) :
    Decodes ((drainUpTo (limit + 1)).run reader) reader
      ⟨[], reader.pending.drop (start reader.pending),
        start reader.pending⟩ := by
  have polls := poll_reaches sound
  rw [nothing] at polls
  rcases polled : poll.run reader with ⟨found, middle, notes⟩
  rw [polled] at polls
  obtain ⟨foundEq, windowEq, soundMiddle⟩ := polls
  cases foundEq
  have run : (drainUpTo (limit + 1)).run reader = ⟨.ok [], middle, notes⟩ := by
    simp [drainUpTo, polled]
  rw [run]
  exact ⟨rfl, soundMiddle, congrArg Window.capacity windowEq,
    congrArg Window.pending windowEq, congrArg Window.skipped windowEq⟩

theorem drainUpTo_of_complete {limit size : Nat} (sound : reader.Sound)
    (complete : Complete reader.capacity
      (reader.pending.drop (start reader.pending)) size)
    {decoding : Decoding}
    (drained : ∀ next, Passed reader size next →
      Decodes ((drainUpTo limit).run next) next decoding) :
    Decodes ((drainUpTo (limit + 1)).run reader) reader
      (decoding.after [.ofMessage ((reader.pending.drop
        (start reader.pending)).take size)] (start reader.pending)) := by
  obtain ⟨middle, next, notes, more, passed, polled, taken⟩ :=
    poll_take_run sound complete
  obtain ⟨resultEq, soundLast, capacityEq, pendingEq, skippedEq⟩ :=
    drained next passed
  rw [drainUpTo_run polled taken (Event.ofMessage_ne_tooSmall _)]
  refine ⟨?_, soundLast, capacityEq.trans passed.capacity_eq, pendingEq, ?_⟩
  · simp [resultEq, Except.map]
  · simp only [skippedEq, passed.skipped_eq, Decoding.skipped_after]
    omega

theorem drainUpTo_decodes (limit : Nat) :
    ∀ {reader : Reader}, reader.Sound →
      Packet.headerSize ≤ reader.capacity → reader.pending.length < limit →
        (decode reader.capacity reader.pending).Roomy →
          Decodes ((drainUpTo limit).run reader) reader
            (decode reader.capacity reader.pending) := by
  -- Every message that is taken leaves fewer bytes pending.
  induction limit with
  | zero => exact fun _ _ few => absurd few (Nat.not_lt_zero _)
  | succ limit inductionHypothesis =>
      intro reader sound room few roomy
      have decodeEq := decode_eq_after_skip reader.capacity reader.pending
      rw [decodeEq] at roomy ⊢
      rcases announced_cases room (start_drop_start reader.pending) with
        ⟨nothing, liveEq, _⟩ | ⟨size, _, complete⟩ | ⟨required, _, refused⟩
      · rw [liveEq]
        exact drainUpTo_of_incomplete limit sound nothing
      · rw [complete.decode_eq, Decoding.after_after] at roomy ⊢
        apply drainUpTo_of_complete sound complete
        intro next passed
        have fewer : next.pending.length < limit := by
          have positive := complete.positive
          have enough := complete.complete
          rw [List.length_drop] at enough
          rw [passed.pending_eq, List.length_drop, List.length_drop]
          omega
        rw [← passed.capacity_eq, ← passed.pending_eq] at roomy ⊢
        rw [← passed.capacity_eq] at room
        exact inductionHypothesis passed.sound room fewer roomy.of_after
      · rw [refused.decode_eq] at roomy
        exact absurd (List.mem_singleton.2 rfl)
          (roomy.of_after required reader.capacity)

theorem drain_decodes (sound : reader.Sound)
    (room : Packet.headerSize ≤ reader.capacity)
    (roomy : (decode reader.capacity reader.pending).Roomy) :
    Decodes (drain.run reader) reader
      (decode reader.capacity reader.pending) := by
  have few : reader.pending.length < reader.fillLevel + 1 := by
    rw [sound.length_pending]
    omega
  exact drainUpTo_decodes (reader.fillLevel + 1) sound room few roomy

/-! ## Deliveries -/

/-- A piece of a stream, and how a reader gets it. -/
inductive Delivery where
  | feed (bytes : Bytes)
  /-- The bytes are placed behind the filled ones, and then counted. -/
  | receive (bytes : Bytes)
deriving DecidableEq, Repr

namespace Delivery

def bytes : Delivery → Bytes
  | feed bytes | receive bytes => bytes

/-- Hands over a piece. -/
def deliver : Delivery → Act Reader Unit
  | feed bytes => do
    let _ ← Reader.feed bytes
  | receive bytes => Reader.receive bytes

theorem deliver_reaches {delivery : Delivery} (sound : reader.Sound)
    (fits : delivery.bytes.length ≤ reader.unfilled) :
    Reaches (delivery.deliver.run reader) (.ok ())
      { reader.window with filled := reader.filled ++ delivery.bytes } := by
  cases delivery with
  | feed bytes =>
      refine (feed_reaches sound fits).bind fun state soundNext windowEq => ?_
      exact ⟨rfl, windowEq, soundNext⟩
  | receive bytes => exact receive_reaches sound fits

/-- Hands over a piece, and takes all messages that are complete then. -/
def accept (delivery : Delivery) : Act Reader (List (Except Fault Bytes)) := do
  delivery.deliver
  drain

theorem accept_decodes {delivery : Delivery} (sound : reader.Sound)
    (room : Packet.headerSize ≤ reader.capacity)
    (fits : delivery.bytes.length ≤ reader.unfilled)
    (roomy :
      (decode reader.capacity (reader.pending ++ delivery.bytes)).Roomy) :
    Decodes (delivery.accept.run reader) reader
      (decode reader.capacity (reader.pending ++ delivery.bytes)) := by
  have delivers := deliver_reaches sound fits
  rcases delivered : delivery.deliver.run reader with ⟨given, next, notes⟩
  rw [delivered] at delivers
  obtain ⟨givenEq, windowEq, soundNext⟩ := delivers
  cases givenEq
  have pendingNext := sound.pending_append windowEq
  have capacityNext : next.capacity = reader.capacity :=
    congrArg Window.capacity windowEq
  have skippedNext : next.skipped = reader.skipped :=
    congrArg Window.skipped windowEq
  rw [← capacityNext] at room roomy ⊢
  rw [← pendingNext] at roomy ⊢
  have drained := drain_decodes soundNext room roomy
  constructor
  · simp [accept, delivered, drained.result_eq]
  · simpa [accept, delivered] using drained.sound
  · simp [accept, delivered, drained.capacity_eq, capacityNext]
  · simp [accept, delivered, drained.pending_eq]
  · simp [accept, delivered, drained.skipped_eq, skippedNext]

end Delivery

/-- Takes all complete messages after each of some deliveries. -/
def gather : List Delivery → Act Reader (List (Except Fault Bytes))
  | [] => return []
  | delivery :: rest => do
    let messages ← delivery.accept
    return messages ++ (← gather rest)

/-- Every delivery finds the space that it needs. -/
def Fits (reader : Reader) : List Delivery → Prop
  | [] => True
  | delivery :: rest =>
    delivery.bytes.length ≤ reader.unfilled ∧
      Fits (delivery.accept.run reader).state rest

theorem Decodes.append {first second : Act Reader (List (Except Fault Bytes))}
    {one two : Decoding} (early : Decodes (first.run reader) reader one)
    (late : Decodes (second.run (first.run reader).state)
      (first.run reader).state two) :
    Decodes
      ((do
        let messages ← first
        return messages ++ (← second)).run reader)
      reader (two.after one.events one.skipped) := by
  rcases ran : first.run reader with ⟨given, next, notes⟩
  rw [ran] at early late
  obtain ⟨givenEq, _, capacityEq, _, skippedEq⟩ := early
  cases givenEq
  rcases ranNext : second.run next with ⟨found, last, more⟩
  rw [ranNext] at late
  obtain ⟨foundEq, sound, capacityNext, pendingEq, skippedNext⟩ := late
  cases foundEq
  constructor
  · simp [ran, ranNext]
  · simpa [ran, ranNext] using sound
  · simpa [ran, ranNext] using capacityNext.trans capacityEq
  · simpa [ran, ranNext] using pendingEq
  · simp only [Act.run_bind, ran, ranNext, Outcome.andThen_ok, Act.run_pure,
      Decoding.skipped_after]
    simp only at skippedEq skippedNext
    omega

/-- What is taken during deliveries comes to the decoding of all that was
delivered. -/
theorem gather_decodes (deliveries : List Delivery) :
    ∀ {reader : Reader}, reader.Sound →
      Packet.headerSize ≤ reader.capacity → reader.Fits deliveries →
        decode reader.capacity reader.pending = ⟨[], reader.pending, 0⟩ →
          (decode reader.capacity
            (reader.pending ++ deliveries.flatMap Delivery.bytes)).Roomy →
              Decodes ((gather deliveries).run reader) reader
                (decode reader.capacity
                  (reader.pending ++ deliveries.flatMap Delivery.bytes)) := by
  induction deliveries with
  | nil =>
      intro reader sound _ _ settled _
      rw [List.flatMap_nil, List.append_nil, settled]
      exact ⟨rfl, sound, rfl, rfl, rfl⟩
  | cons delivery rest inductionHypothesis =>
      intro reader sound room fits _ roomy
      obtain ⟨fitsFirst, fitsRest⟩ := fits
      rw [List.flatMap_cons, ← List.append_assoc] at roomy ⊢
      have resumed := decode_resumes room _ _ roomy
      have frontRoomy := roomy_of_append room roomy
      rw [resumed] at roomy ⊢
      have early := Delivery.accept_decodes sound room fitsFirst frontRoomy
      have settled := decode_rest room _ frontRoomy
      have late :=
        inductionHypothesis early.sound
          (by rw [early.capacity_eq]; exact room) fitsRest
          (by rw [early.capacity_eq, early.pending_eq]; exact settled)
          (by rw [early.capacity_eq, early.pending_eq]; exact roomy.of_after)
      rw [early.capacity_eq, early.pending_eq] at late
      exact early.append late

/-- A new reader takes apart whatever is delivered to it, if there is room for
every message. -/
theorem gather_decodes_stream {size : Value} {reader : Reader}
    (opened : ofSize size = .ok reader) {deliveries : List Delivery}
    {stream : Bytes}
    (delivered : deliveries.flatMap Delivery.bytes = stream)
    (fits : reader.Fits deliveries)
    (roomy : (decode reader.capacity stream).Roomy) :
    Decodes ((gather deliveries).run reader) reader
      (decode reader.capacity stream) := by
  obtain ⟨sound, enough, pendingEq⟩ := ofSize_sound opened
  have room : Packet.headerSize ≤ reader.capacity :=
    Nat.le_trans (by decide) enough
  have settled :
      decode reader.capacity reader.pending = ⟨[], reader.pending, 0⟩ := by
    rw [pendingEq]
    exact decode_unheaded rfl rfl
  have wholeEq :
      reader.pending ++ deliveries.flatMap Delivery.bytes = stream := by
    rw [pendingEq, List.nil_append, delivered]
  rw [← wholeEq] at roomy ⊢
  exact gather_decodes deliveries sound room fits settled roomy

end ActuatorBus.Reader
