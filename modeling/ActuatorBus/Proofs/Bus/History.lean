import ActuatorBus.Proofs.Bus.Keeping
import ActuatorBus.Proofs.Bus.Sending
import ActuatorBus.Proofs.Reader.Window

/-!
# Histories

What became of a bus since it was opened. Whatever was done with it, and
however that ended, its write buffer has the size that it was opened with.
What the buffer holds is anything that was left there.
-/

namespace ActuatorBus.Bus

variable {σ : Type} {link : Link σ}

/-- What becomes of a bus. The line is not of the bus alone, and what
deadlines are made of can be replaced. -/
inductive Later (link : Link σ) (origin : Bus σ) : Bus σ → Prop where
  | origin : Later link origin origin
  | perform {bus : Bus σ} (operation : Operation)
    (history : Later link origin bus) :
    Later link origin ((perform link operation).run bus).state
  | readPacket {bus : Bus σ} (deadline : Double)
    (history : Later link origin bus) :
    Later link origin ((readPacket link deadline).run bus).state
  | replace {bus : Bus σ} (line : σ) (baudRate timeoutMargin : Value)
    (history : Later link origin bus) :
    Later link origin { bus with line, baudRate, timeoutMargin }

/-! ## Room for instructions -/

/-- There is room for instructions of the given size. -/
def HasRoom (size : Nat) (bus : Bus σ) : Prop := bus.writeBuffer.length = size

variable {size : Nat}

theorem hasRoom_start {line : σ} {options : BusOptions} {bus : Bus σ}
    (started : Bus.start link line options = .ok bus)
    (sized : options.writeBufferSize = .integer size) : bus.HasRoom size := by
  obtain ⟨_, checked, rest⟩ := bind_eq_ok_iff.1 started
  obtain ⟨reader, _, rest⟩ := bind_eq_ok_iff.1 rest
  obtain ⟨buffer, allocated, returned⟩ := bind_eq_ok_iff.1 rest
  rw [sized] at checked allocated
  have bufferEq := Reader.allocate_integer allocated
  obtain ⟨room, enough, bufferEq'⟩ :=
    Reader.allocate_eq (by decide) checked allocated
  cases returned
  subst bufferEq
  have sizes := congrArg List.length bufferEq'
  simp only [List.length_replicate, Int.toNat_natCast] at sizes
  simp only [HasRoom, List.length_cons, List.length_drop,
    List.length_replicate, Int.toNat_natCast]
  simp only [Packet.headerSize] at enough
  omega

theorem readPacket_keeps_room (deadline : Double) :
    Act.Keeps (HasRoom size) (Bus.readPacket link deadline) :=
  readPacket_retains (fun _ _ room => room) (fun _ _ _ room => room) deadline

theorem readResponse_keeps_room (expected expectedId : Value) :
    Act.Keeps (HasRoom size) (readResponse link expected expectedId) :=
  readResponse_retains (fun _ _ room => room) (fun _ _ _ room => room)
    expected expectedId

theorem writePacket_keeps_room {motorId code count : Value}
    {fill : Option Filler}
    (steady : Filler.Steady (Packet.write motorId code count fill)) :
    Act.Keeps (HasRoom size) (writePacket link motorId code count fill) := by
  have prepares :
      Act.Keeps (HasRoom size)
        (prepare motorId code count fill : Act (Bus σ) _) := by
    refine Act.Keeps.bind (fun bus room => steady size _ room) fun _ => ?_
    refine Act.Keeps.bind (fun _ room => room) fun _ => ?_
    refine Act.keeps_get.bind fun bus => ?_
    exact (Act.keeps_note _).bind fun _ => Act.keeps_pure _
  refine prepares.bind fun packet => ?_
  refine Act.Keeps.bind (fun _ room => room) fun _ => ?_
  exact fun _ room => room

theorem perform_keeps_room (operation : Operation) :
    Act.Keeps (HasRoom size) (perform link operation) :=
  perform_keeps_of (fun _ _ _ _ steady => writePacket_keeps_room steady)
    readResponse_keeps_room (fun _ _ room => room) operation

/-- Every instruction finds the room that the bus was opened with. -/
theorem Later.room {line : σ} {options : BusOptions} {origin bus : Bus σ}
    (history : Later link origin bus)
    (started : Bus.start link line options = .ok origin)
    (sized : options.writeBufferSize = .integer size) : bus.HasRoom size := by
  induction history with
  | origin => exact hasRoom_start started sized
  | perform operation history room => exact perform_keeps_room operation _ room
  | readPacket deadline history room =>
      exact readPacket_keeps_room deadline _ room
  | replace line baudRate timeoutMargin history room => exact room

end ActuatorBus.Bus
