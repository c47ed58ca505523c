import ActuatorBus.Proofs.Bus.Asking
import ActuatorBus.Proofs.Packet.Room
import ActuatorBus.Proofs.Response

/-!
# What operations keep

A property of buses is kept by every operation if sending, reading a reply and
setting the baud rate keep it. Whatever is sent, its packet is written without
changing the size of the write buffer.
-/

namespace ActuatorBus.Bus

variable {σ : Type} {link : Link σ} {property : Bus σ → Prop}

theorem readResponse_keeps_of
    (receives : ∀ deadline,
      Act.Keeps property (Bus.readPacket link deadline))
    (expected expectedId : Value) :
    Act.Keeps property (readResponse link expected expectedId) := by
  refine Act.keeps_get.bind fun bus => ?_
  refine (Act.keeps_ofExcept _).bind fun timeout => ?_
  refine (receives _).bind fun packet => ?_
  obtain ⟨notes, judged⟩ :=
    Response.ofPacket_run (σ := Bus σ) packet expectedId
  intro state holds
  rw [judged]
  exact holds

section Reading

variable (looks : ∀ {α : Type} (action : Act Reader α),
    Act.Keeps property (onReader action))
  (reads : ∀ space deadline,
    Act.Keeps property (onLine (link.read space deadline)))

include looks reads

/-- A property that neither the reader nor reading from the line is about is
kept while a packet is awaited. -/
theorem readPacket_retains (deadline : Double) :
    Act.Keeps property (Bus.readPacket link deadline) := by
  refine Act.keeps_get.bind fun bus => ?_
  apply Act.Keeps.untilSome
  refine (looks Reader.poll).bind fun found => ?_
  cases found with
  | some size =>
      refine (looks (Reader.take size)).bind fun packet => ?_
      exact Act.keeps_pure (some packet)
  | none =>
      refine Act.keeps_get.bind fun bus => ?_
      refine ((reads bus.reader.unfilled deadline).mapFault _).bind
        fun bytes => ?_
      refine (looks (Reader.receive bytes)).bind fun _ => ?_
      exact Act.keeps_pure none

theorem readResponse_retains (expected expectedId : Value) :
    Act.Keeps property (readResponse link expected expectedId) :=
  readResponse_keeps_of (readPacket_retains looks reads) expected expectedId

end Reading

/-! ## Operations -/

section Operations

variable (writes : ∀ motorId code count fill,
    Filler.Steady (Packet.write motorId code count fill) →
      Act.Keeps property (writePacket link motorId code count fill))
  (reads : ∀ expected expectedId,
    Act.Keeps property (readResponse link expected expectedId))

include writes reads

theorem keeps_of_asked {operation : Operation} {motorId : Value}
    {asked : Except Fault Request}
    (asks : operation.asked = some (motorId, asked)) :
    Act.Keeps property (perform link operation) := by
  rw [perform_eq link asks]
  cases asked with
  | error fault => exact fun _ holds => holds
  | ok request =>
      obtain ⟨count, countEq, fills⟩ := Operation.asked_fills_image asks
      have steady := Packet.steady_write_filled fills motorId request.code
      rw [← countEq] at steady
      rw [Act.ofExcept_ok, pure_bind]
      refine (writes _ _ _ _ steady).bind fun _ => ?_
      by_cases awaits : operation.awaitsReply = true
      · rw [if_pos awaits]
        refine (reads _ _).bind fun response => ?_
        exact (Act.keeps_ofExcept _).bind fun _ => Act.keeps_pure _
      · rw [if_neg awaits]
        exact Act.keeps_pure none

theorem transfer_keeps_of {motorId code count : Value} {fill : Option Filler}
    (expected : Value)
    (steady : Filler.Steady (Packet.write motorId code count fill)) :
    Act.Keeps property (transfer link motorId code count expected fill) := by
  refine (writes _ _ _ _ steady).bind fun _ => ?_
  by_cases everyone : motorId.same (.integer broadcastId) = true
  · rw [if_pos everyone]
    exact Act.keeps_pure none
  · rw [if_neg everyone]
    refine (reads expected motorId).bind fun response => ?_
    exact Act.keeps_pure (some response)

theorem perform_keeps_of
    (sets : ∀ baudRate, Act.Keeps property (setBaudRate link baudRate))
    (operation : Operation) :
    Act.Keeps property (perform link operation) := by
  have steady (motorId code count : Value) (parameters : Option Bytes) :
      Filler.Steady
        (Packet.write motorId code count
          (parameters.map Filler.putAll)) := by
    apply Packet.steady_write
    intro filler member
    obtain ⟨bytes, _, rfl⟩ := Option.map_eq_some_iff.1 member
    exact Filler.steady_putAll bytes
  cases asks : operation.asked with
  | some asked => exact keeps_of_asked writes reads asks
  | none =>
      cases operation with
      | readResponse expected expectedId =>
          exact (reads expected expectedId).bind fun response =>
            Act.keeps_pure (some response)
      | setBaudRate baudRate =>
          exact (sets baudRate).bind fun _ => Act.keeps_pure none
      | writePacket motorId code count parameters =>
          exact (writes _ _ _ _ (steady motorId code count parameters)).bind
            fun _ => Act.keeps_pure none
      | transfer motorId code count expected parameters =>
          exact transfer_keeps_of writes reads expected
            (steady motorId code count parameters)
      | _ => cases asks

end Operations

end ActuatorBus.Bus
