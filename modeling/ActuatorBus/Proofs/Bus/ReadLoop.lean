import ActuatorBus.Proofs.Bus.Reachable

/-!
# The read loop

Whatever a line delivers, the loop that reads a packet never ends up where it
can neither read on nor stop: a turn of it hands out a complete message, or
refuses one that is too large, or asks the line for bytes that there is room
for. The only thing that is expected of the line is that it keeps to that room.
-/

namespace ActuatorBus

/-- A line that gives no more bytes than there is room for, or reports a
failure that concerns the line. -/
structure Link.Honest {σ : Type} (link : Link σ) : Prop where
  read_cases (line : σ) (space : Nat) (deadline : Double) :
    (∃ bytes, ((link.read space deadline).run line).result = .ok bytes ∧
      bytes.length ≤ space) ∨
    ∃ error,
      ((link.read space deadline).run line).result = .error (.device error) ∧
        error.concernsLine = true

namespace Bus

variable {σ : Type} {link : Link σ} {deadline : Double} {bus : Bus σ}

/-- The buses that there can be: instructions are sent with any parameters,
packets and responses are read, and the line and what deadlines are made of
become something else in between. -/
inductive InUse (link : Link σ) : Bus σ → Prop where
  | start {line : σ} {options : BusOptions} {bus : Bus σ}
    (started : Bus.start link line options = .ok bus) : InUse link bus
  | writePacket {bus : Bus σ} (motorId code count : Value)
    (fill : Option Filler) (used : InUse link bus) :
    InUse link ((writePacket link motorId code count fill).run bus).state
  | readPacket {bus : Bus σ} (deadline : Double) (used : InUse link bus) :
    InUse link ((readPacket link deadline).run bus).state
  | readResponse {bus : Bus σ} (expected expectedId : Value)
    (used : InUse link bus) :
    InUse link ((readResponse link expected expectedId).run bus).state
  | replace {bus : Bus σ} (line : σ) (baudRate timeoutMargin : Value)
    (used : InUse link bus) :
    InUse link { bus with line, baudRate, timeoutMargin }

theorem InUse.ready (used : InUse link bus) : bus.Ready := by
  induction used with
  | start started => exact ready_start started
  | writePacket motorId code count fill used ready =>
      exact writePacket_keeps motorId code count fill _ ready
  | readPacket deadline used ready =>
      exact readPacket_keeps deadline _ ready
  | readResponse expected expectedId used ready =>
      exact readResponse_keeps expected expectedId _ ready
  | replace line baudRate timeoutMargin used ready =>
      exact ⟨ready.sound, ready.room⟩

/-- Every operation sends, reads and sets, and does nothing else to a bus. -/
theorem InUse.perform (operation : Operation) :
    Act.Keeps (InUse link) (perform link operation) :=
  perform_keeps_of (fun _ _ _ _ _ _ used => used.writePacket _ _ _ _)
    (fun _ _ _ used => used.readResponse _ _)
    (fun baudRate bus used => used.replace _ baudRate bus.timeoutMargin)
    operation

theorem Reachable.inUse (reachable : Reachable link bus) :
    InUse link bus := by
  induction reachable with
  | start started => exact .start started
  | perform operation reached used => exact InUse.perform operation _ used
  | readPacket deadline reached used => exact used.readPacket deadline
  | replace line baudRate timeoutMargin reached used =>
      exact used.replace line baudRate timeoutMargin

/-! ## A turn -/

/-- What comes of checking a message: it is handed out, or its checksum is
wrong. -/
inductive Checked : Except Fault Bytes → Prop where
  | packet (bytes : Bytes) : Checked (.ok bytes)
  | badChecksum (received computed : Nat) :
    Checked (.error (.invalidChecksum received computed))

theorem checked_outcome {message : Bytes} {size capacity : Nat}
    (complete : Stream.Complete capacity message size) :
    Checked (Stream.Event.ofMessage (message.take size)).outcome := by
  rcases complete.event_eq with
    ⟨received, computed, isBad⟩ | ⟨_, _, _, _, isPacket⟩
  · rw [isBad]
    exact .badChecksum received.toNat computed.toNat
  · rw [isPacket]
    exact .packet _

/-- What a turn of the read loop can be. If it reads, the reader takes what
the line gives, and if it hands out a message, that is at the front. -/
inductive Turn (link : Link σ) (deadline : Double) (bus : Bus σ) : Prop where
  | refuses {reader : Reader} {notes : List Note} {required : Nat}
    (polled : Reader.poll.run bus.reader =
      ⟨.error (.bufferTooSmall required bus.reader.capacity), reader, notes⟩)
  | takes {reader : Reader} {notes : List Note} {size : Nat}
    (polled : Reader.poll.run bus.reader = ⟨.ok (some size), reader, notes⟩)
    (least : Packet.minimumSize ≤ size) (buffered : size ≤ reader.fillLevel)
    (atFront : reader.handedOut = 0)
    (checked : Checked ((Reader.take size).run reader).result)
  | reads {reader : Reader} {notes : List Note}
    (polled : Reader.poll.run bus.reader = ⟨.ok none, reader, notes⟩)
    (room : 0 < reader.unfilled)
    (receives : ∀ bytes,
      ((link.read reader.unfilled deadline).run bus.line).result = .ok bytes →
        ((Reader.receive bytes).run reader).result = .ok ())

theorem Ready.turn (ready : bus.Ready) (honest : link.Honest) :
    Turn link deadline bus := by
  obtain ⟨reader, notes, polled, run⟩ := poll_polled ready.sound
  have room : Packet.headerSize ≤ bus.reader.capacity :=
    Nat.le_trans (by decide) ready.room
  have levelEq : reader.fillLevel = bus.live.length := by
    rw [← polled.sound.length_filled, polled.filled_eq]
  rcases Stream.announced_cases room (Stream.start_drop_start _) with
    ⟨answer, _, more⟩ | ⟨size, answer, complete⟩ | ⟨required, answer, _⟩
  · -- As long as nothing is announced, the buffer is not full.
    refine .reads (answer ▸ run) ?_ ?_
    · rw [Reader.unfilled, polled.capacity_eq, levelEq]
      exact Nat.sub_pos_of_lt more
    · intro bytes given
      rcases honest.read_cases bus.line reader.unfilled deadline with
        ⟨other, otherEq, fits⟩ | ⟨error, failed, _⟩
      · obtain rfl := Except.ok.inj (given.symm.trans otherEq)
        exact (Reader.receive_reaches polled.sound fits).result_eq
      · cases given.symm.trans failed
  · refine .takes (answer ▸ run) complete.minimumSize_le ?_
      polled.handedOut_eq ?_
    · rw [levelEq]
      exact complete.complete
    · have taken :=
        Reader.take_reaches polled.sound complete.positive
          (polled.buffered complete.complete)
      rw [taken.result_eq, polled.filled_eq]
      exact checked_outcome complete
  · exact .refuses (answer ▸ run)

/-! ## The loop -/

/-- What can come of reading a packet. -/
inductive Receipt : Except Fault Bytes → Prop where
  | checked {result : Except Fault Bytes} (checked : Checked result) :
    Receipt result
  | tooSmall (required capacity : Nat) :
    Receipt (.error (.bufferTooSmall required capacity))
  | failed (stage : Stage) (error : DeviceError) :
    Receipt (.error (.line stage error))
  /-- The line gave too little as often as the bus is willing to ask. -/
  | stalled : Receipt (.error .stalled)

theorem Turn.receipt (turn : Turn link deadline bus) (honest : link.Honest)
    {result : Except Fault Bytes}
    (ends : ((readStep link deadline).run bus).result = result.map some) :
    Receipt result := by
  have of_step {found : Except Fault Bytes} (receipt : Receipt found)
      (stepEq : ((readStep link deadline).run bus).result = found.map some) :
      Receipt result := by
    rwa [map_some_injective (ends.symm.trans stepEq)]
  cases turn with
  | @refuses reader _ required polled =>
      apply of_step (.tooSmall required bus.reader.capacity)
      simp [readStep, onReader, polled, Except.map]
  | @takes reader _ size polled _ _ _ checked =>
      apply of_step (.checked checked)
      rcases taken : (Reader.take size).run reader with ⟨_ | _, _, _⟩ <;>
        simp [readStep, onReader, polled, taken, Except.map]
  | @reads reader _ polled _ receives =>
      rcases asked : (link.read reader.unfilled deadline).run bus.line with
        ⟨fault | bytes, line, more⟩
      · rcases honest.read_cases bus.line reader.unfilled deadline with
          ⟨_, given, _⟩ | ⟨error, failed, concerns⟩
        · rw [asked] at given
          cases given
        · rw [asked] at failed
          cases failed
          apply of_step (.failed (readStage error) error)
          simp [readStep, onReader, onLine, polled, asked, atStage, concerns,
            Except.map]
      · have received := receives bytes (by rw [asked])
        rcases ran : (Reader.receive bytes).run reader
          with ⟨nothing, final, last⟩
        rw [ran] at received
        cases received
        cases result <;>
          simp [readStep, onReader, onLine, polled, asked, ran, Except.map]
            at ends

/-- Every turn of a read loop is one of those that `Turn` lists, on every bus
that is in use, and so the loop ends with a packet, with one of the faults
that `Receipt` lists, or with the patience of the bus. -/
theorem readPacket_not_cornered (honest : link.Honest)
    (used : InUse link bus) (deadline : Double) :
    (∀ turn, Act.Turns (readStep link deadline) bus turn →
      Turn link deadline turn) ∧
    Receipt ((readPacket link deadline).run bus).result := by
  have turns : ∀ turn, Act.Turns (readStep link deadline) bus turn →
      Turn link deadline turn := by
    intro turn reached
    have ready := (readStep_keeps deadline).turns used.ready reached
    exact ready.turn honest
  refine ⟨turns, ?_⟩
  obtain ⟨last, reached, stalled | ends⟩ :=
    Act.untilSome_turns (readStep link deadline)
      (link.patience bus.line + 1) bus
  · have resultEq :
        ((readPacket link deadline).run bus).result = .error .stalled :=
      stalled
    rw [resultEq]
    exact .stalled
  · exact (turns last reached).receipt honest ends

/-- A line that gives its bytes in portions, some of which may be empty. -/
def portioned : Link (List Bytes) where
  now _ := .zero
  baudRate _ := .integer 8000000
  setBaudRate _ portions := portions
  discardInput := pure ()
  writeAll _ := pure ()
  read space _ := {
    run := fun
      | [] => ⟨.error (.device .readTimedOut), [], []⟩
      | portion :: rest =>
        ⟨.ok (portion.take space), portion.drop space :: rest, []⟩ }
  close := pure ()
  patience portions := portions.flatten.length + portions.length

theorem portioned_honest : portioned.Honest := by
  constructor
  intro portions space deadline
  cases portions with
  | nil => exact Or.inr ⟨.readTimedOut, rfl, rfl⟩
  | cons portion rest => exact Or.inl ⟨_, rfl, List.length_take_le _ _⟩

/-- The buffer is full of a header that is none and of a part of a packet. -/
theorem readPacket_not_cornered_portioned :
    let bus : Bus (List Bytes) :=
      { line := [[0xFF, 0xFF, 0xFF, 1, 2, 0, 0xFC]]
        reader := ⟨List.replicate 6 0, 0, 0, 0⟩
        writeBuffer := [0xFF, 0xFF, 0, 0, 0, 0, 0, 0]
        baudRate := .integer 8000000
        timeoutMargin := .real .zero }
    let turn := ((readStep portioned .zero).run bus).state
    turn.reader.unfilled = 0 ∧ Turn portioned .zero turn ∧
      ((readPacket portioned .zero).run bus).result =
        .ok [0xFF, 0xFF, 1, 2, 0] := by
  intro bus turn
  have started :
      Bus.start portioned bus.line
        ⟨.integer 6, .integer 8, .integer 8000000, .real .zero⟩ = .ok bus := by
    rfl
  obtain ⟨turns, _⟩ :=
    readPacket_not_cornered portioned_honest (.start started) .zero
  have nothing : ((readStep portioned .zero).run bus).result = .ok none := by
    decide +kernel
  refine ⟨?_, turns turn (.next .first nothing), ?_⟩
  · decide +kernel
  · decide +kernel

end Bus

end ActuatorBus
