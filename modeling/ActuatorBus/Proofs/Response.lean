import ActuatorBus.Proofs.Results
import ActuatorBus.Response

/-!
# Judging replies

A response is made of a packet without looking at the state of the bus.
-/

namespace ActuatorBus

namespace ErrorFlags

/-- The warnings of an error byte, if there are any. -/
def warningOf (error : UInt8) : Option ErrorFlags :=
  if error.toNat &&& warningMask = 0 then none
  else some ⟨error.toNat &&& warningMask⟩

theorem check_known (error : UInt8) :
    (ErrorFlags.mk error.toNat).known.check =
      if error.toNat &&& errorMask = 0 then .ok ()
      else .error (.motorError ⟨error.toNat &&& definedMask⟩) := by
  have errorsEq :
      (ErrorFlags.mk error.toNat).known.errors =
        ⟨error.toNat &&& errorMask⟩ := by
    simp only [known, errors, Nat.and_assoc]
    rfl
  simp only [check, errorsEq, isEmpty, beq_iff_eq]
  rfl

theorem warnings_known (error : UInt8) :
    (ErrorFlags.mk error.toNat).known.warnings =
      ⟨error.toNat &&& warningMask⟩ := by
  simp only [known, warnings, Nat.and_assoc]
  rfl

end ErrorFlags

namespace Response

/-- The response of a packet from a motor, unless the motor is not the one
expected or reports an error. -/
def judge (packet : Bytes) (expectedId : Value) : Except Fault Response :=
  match packet[Packet.idPosition]?, packet[Packet.codePosition]? with
  | some motorId, some error => do
    match expectedId with
    | .nothing => pure ()
    | expected => checkSameId (.integer motorId.toNat) expected
    let flags := (ErrorFlags.mk error.toNat).known
    flags.check
    return {
      motorId := motorId.toNat
      warning := if flags.warnings.isEmpty then none else flags.warnings
      data := .raw (packet.drop Packet.parametersPosition) }
  | _, _ => .error .indexOutOfRange

private theorem noted_run {σ : Type} (noteworthy : Prop)
    [Decidable noteworthy] (note : Note) (checked accepted : Except Fault Unit)
    (response : Response) (state : σ) :
    ((do
      if noteworthy then Act.note note
      Act.ofExcept checked
      Act.ofExcept accepted
      return response) : Act σ Response).run state =
      ⟨(do
        checked
        accepted
        return response), state, if noteworthy then [note] else []⟩ := by
  by_cases noted : noteworthy <;>
    rcases checked with fault | _ <;>
    rcases accepted with fault | _ <;>
    simp [noted]

theorem ofPacket_run {σ : Type} (packet : Bytes) (expectedId : Value) :
    ∃ notes, ∀ state : σ,
      (ofPacket packet expectedId).run state =
        ⟨judge packet expectedId, state, notes⟩ := by
  unfold ofPacket judge
  cases packet[Packet.idPosition]? with
  | none => exact ⟨[], fun _ => rfl⟩
  | some motorId =>
      cases packet[Packet.codePosition]? with
      | none => exact ⟨[], fun _ => rfl⟩
      | some error =>
          refine ⟨if ErrorFlags.definedMask < error.toNat then
            [.undefinedErrorBits motorId error] else [], ?_⟩
          intro state
          cases expectedId with
          | nothing => exact noted_run _ _ (.ok ()) _ _ state
          | _ => exact noted_run _ _ (checkSameId _ _) _ _ state

/-- The checks of a packet, in their order. -/
theorem judge_message (sender length error : UInt8) (parameters : Bytes)
    (expectedId : Value) :
    judge (Packet.headerByte :: Packet.headerByte :: sender :: length ::
        error :: parameters) expectedId = (do
      match expectedId with
      | .nothing => pure ()
      | expected => checkSameId (.integer sender.toNat) expected
      (ErrorFlags.mk error.toNat).known.check
      return ⟨sender.toNat, ErrorFlags.warningOf error,
        .raw parameters⟩) := by
  have senderAt :
      (Packet.headerByte :: Packet.headerByte :: sender :: length ::
        error :: parameters)[Packet.idPosition]? = some sender := rfl
  have errorAt :
      (Packet.headerByte :: Packet.headerByte :: sender :: length ::
        error :: parameters)[Packet.codePosition]? = some error := rfl
  simp only [judge, senderAt, errorAt, ErrorFlags.warnings_known,
    ErrorFlags.isEmpty, ErrorFlags.warningOf, beq_iff_eq]
  rfl

theorem judge_fields (sender length error : UInt8) (parameters : Bytes)
    {expectedId : Value} (expected : expectedId ≠ .nothing) :
    judge (Packet.headerByte :: Packet.headerByte :: sender :: length ::
        error :: parameters) expectedId = (do
      checkSameId (.integer sender.toNat) expectedId
      (ErrorFlags.mk error.toNat).known.check
      return ⟨sender.toNat, ErrorFlags.warningOf error,
        .raw parameters⟩) := by
  rw [judge_message]
  cases expectedId with
  | nothing => exact absurd rfl expected
  | _ => rfl

/-- Without an expected motor only the errors are checked. -/
theorem judge_unexpected (sender length error : UInt8) (parameters : Bytes) :
    judge (Packet.headerByte :: Packet.headerByte :: sender :: length ::
        error :: parameters) .nothing = (do
      (ErrorFlags.mk error.toNat).known.check
      return ⟨sender.toNat, ErrorFlags.warningOf error,
        .raw parameters⟩) :=
  judge_message sender length error parameters .nothing

theorem decode_raw (motorId : Int) (warning : Option ErrorFlags)
    (bytes : Bytes) (register : Register) :
    decode ⟨motorId, warning, .raw bytes⟩ register =
      (register.decode bytes).map fun value =>
        ⟨motorId, warning, .value (.number value)⟩ := by
  cases decoded : register.decode bytes <;> simp [decode, decoded, Except.map]

end Response

end ActuatorBus
