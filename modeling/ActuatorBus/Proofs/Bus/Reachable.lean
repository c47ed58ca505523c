import ActuatorBus.Proofs.Bus.Keeping
import ActuatorBus.Proofs.Bus.Receiving

/-!
# Reachable buses

What holds of every bus, whatever was done with it and whatever became of its
line: the marks of its reader are in order, and there is room for a header and
more.
-/

namespace ActuatorBus.Bus

variable {σ : Type} {link : Link σ}

/-- The buses that there can be over a kind of line. The line is not of the
bus alone, and what deadlines are made of can be replaced. -/
inductive Reachable (link : Link σ) : Bus σ → Prop where
  | start {line : σ} {options : BusOptions} {bus : Bus σ}
    (started : Bus.start link line options = .ok bus) : Reachable link bus
  | perform {bus : Bus σ} (operation : Operation)
    (reached : Reachable link bus) :
    Reachable link ((perform link operation).run bus).state
  | readPacket {bus : Bus σ} (deadline : Double)
    (reached : Reachable link bus) :
    Reachable link ((readPacket link deadline).run bus).state
  | replace {bus : Bus σ} (line : σ) (baudRate timeoutMargin : Value)
    (reached : Reachable link bus) :
    Reachable link { bus with line, baudRate, timeoutMargin }

/-- The reader of a bus is sound and has room for a packet. -/
structure Ready (bus : Bus σ) : Prop where
  sound : bus.reader.Sound
  room : Packet.minimumSize ≤ bus.reader.capacity

theorem ready_start {line : σ} {options : BusOptions} {bus : Bus σ}
    (started : Bus.start link line options = .ok bus) : bus.Ready := by
  obtain ⟨_, _, rest⟩ := bind_eq_ok_iff.1 started
  obtain ⟨reader, opened, rest⟩ := bind_eq_ok_iff.1 rest
  obtain ⟨buffer, _, returned⟩ := bind_eq_ok_iff.1 rest
  obtain ⟨sound, enough, _⟩ := Reader.ofSize_sound opened
  cases returned
  exact ⟨sound, enough⟩

theorem onLine_keeps {α : Type} (action : Act σ α) :
    Act.Keeps Ready (onLine action) :=
  fun _ ready => ⟨ready.sound, ready.room⟩

theorem onWriteBuffer_keeps {α : Type} (action : Act Bytes α) :
    Act.Keeps Ready (onWriteBuffer action : Act (Bus σ) α) :=
  fun _ ready => ⟨ready.sound, ready.room⟩

theorem Ready.onReader {α : Type} {bus : Bus σ} {action : Act Reader α}
    {result : Except Fault α} {filled : Bytes} {handedOut skipped : Nat}
    (ready : bus.Ready)
    (reaches : Reader.Reaches (action.run bus.reader) result
      ⟨bus.reader.capacity, filled, handedOut, skipped⟩) :
    ((Bus.onReader action).run bus).state.Ready := by
  constructor
  · exact reaches.sound
  · have capacityEq := congrArg Reader.Window.capacity reaches.window_eq
    exact Nat.le_trans ready.room (Nat.le_of_eq capacityEq.symm)

theorem reset_keeps :
    Act.Keeps Ready (onReader Reader.reset : Act (Bus σ) Unit) :=
  fun bus ready => ready.onReader (Reader.reset_reaches bus.reader)

theorem receive_keeps (bytes : Bytes) :
    Act.Keeps Ready (onReader (Reader.receive bytes) : Act (Bus σ) Unit) := by
  intro bus ready
  by_cases fits : bytes.length ≤ bus.reader.unfilled
  · exact ready.onReader (Reader.receive_reaches ready.sound fits)
  · simp only [onReader, Act.run_on, Reader.receive_refused fits]
    exact ready

theorem Ready.take {bus : Bus σ} {reader : Reader} {size : Nat}
    (ready : bus.Ready) (polled : Polled bus reader)
    (complete : Stream.announced bus.reader.capacity bus.live =
      .ok (some size)) :
    ((Bus.onReader (Reader.take size)).run
      { bus with reader }).state.Ready := by
  obtain ⟨positive, whole⟩ := Stream.announced_some complete
  have looked : ({ bus with reader } : Bus σ).Ready :=
    ⟨polled.sound, Nat.le_trans ready.room
      (Nat.le_of_eq polled.capacity_eq.symm)⟩
  exact looked.onReader
    (Reader.take_reaches polled.sound positive (polled.buffered whole))

theorem readStep_keeps (deadline : Double) :
    Act.Keeps Ready (readStep link deadline) := by
  intro bus ready
  obtain ⟨reader, notes, polled, run⟩ := poll_polled ready.sound
  have looked : ({ bus with reader } : Bus σ).Ready :=
    ⟨polled.sound, Nat.le_trans ready.room
      (Nat.le_of_eq polled.capacity_eq.symm)⟩
  rw [readStep, Act.run_bind]
  simp only [onReader, Act.run_on, run]
  cases answer : Stream.announced bus.reader.capacity bus.live with
  | error fault => exact looked
  | ok found =>
      cases found with
      | some size =>
          exact Act.run_bind_keeps (ready.take polled answer)
            fun packet => Act.keeps_pure (some packet)
      | none =>
          have reads :
              Act.Keeps Ready (do
                let bytes ←
                  Act.mapFault (atStage readStage)
                    (onLine (link.read reader.unfilled deadline))
                onReader (Reader.receive bytes)
                return none : Act (Bus σ) (Option Bytes)) := by
            refine ((onLine_keeps _).mapFault _).bind fun bytes => ?_
            refine (receive_keeps bytes).bind fun _ => ?_
            exact Act.keeps_pure none
          exact reads _ looked

theorem readPacket_keeps (deadline : Double) :
    Act.Keeps Ready (Bus.readPacket link deadline) := by
  refine Act.keeps_get.bind fun bus => ?_
  exact (readStep_keeps deadline).untilSome _

theorem readResponse_keeps (expected expectedId : Value) :
    Act.Keeps Ready (readResponse link expected expectedId) :=
  readResponse_keeps_of readPacket_keeps expected expectedId

theorem writePacket_keeps (motorId code count : Value)
    (fill : Option Filler) :
    Act.Keeps Ready (writePacket link motorId code count fill) := by
  have prepares :
      Act.Keeps Ready (prepare motorId code count fill : Act (Bus σ) _) := by
    refine (onWriteBuffer_keeps _).bind fun size => ?_
    refine reset_keeps.bind fun _ => ?_
    refine Act.keeps_get.bind fun bus => ?_
    exact (Act.keeps_note _).bind fun _ => Act.keeps_pure _
  refine prepares.bind fun packet => ?_
  refine ((onLine_keeps _).mapFault _).bind fun _ => ?_
  exact (onLine_keeps _).mapFault _

theorem perform_keeps (operation : Operation) :
    Act.Keeps Ready (perform link operation) :=
  perform_keeps_of (fun _ _ _ _ _ => writePacket_keeps _ _ _ _)
    readResponse_keeps (fun _ _ ready => ⟨ready.sound, ready.room⟩) operation

theorem Reachable.ready {bus : Bus σ} (reachable : Reachable link bus) :
    bus.Ready := by
  induction reachable with
  | start started => exact ready_start started
  | perform operation reached ready =>
      exact perform_keeps operation _ ready
  | readPacket deadline reached ready =>
      exact readPacket_keeps deadline _ ready
  | replace line baudRate timeoutMargin reached ready =>
      exact ⟨ready.sound, ready.room⟩

end ActuatorBus.Bus
