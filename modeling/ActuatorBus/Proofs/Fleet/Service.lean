import ActuatorBus.Proofs.Fleet.Answers

/-!
# How a bus serves a fleet

A bus over a line with simulated motors does what the calls mean for the fleet
of these motors, and gives the same answers.
-/

namespace ActuatorBus

/-! ## Replies -/

/-- A reply of the motor that was asked, which reports no error. -/
theorem Bus.judge_encode {motorId : Value} {id error : UInt8}
    {parameters : Bytes} (isByte : motorId.needByte = .ok id)
    (harmless : error.toNat &&& ErrorFlags.errorMask = 0)
    (countable : (parameters.length : Int) + 2 ≤ Packet.maximumLength)
    {capacity : Nat}
    (fits : (Packet.mk id error parameters).encode.length ≤ capacity) :
    (do
      let packet ← received (Stream.firstEvent capacity
        (Packet.mk id error parameters).encode)
      Response.judge packet motorId) =
        .ok ⟨id.toNat, ErrorFlags.warningOf error, .raw parameters⟩ := by
  have receives :
      received (Stream.firstEvent capacity
        (Packet.mk id error parameters).encode) = _ :=
    received_encode countable fits
  obtain ⟨named, sameId⟩ := Value.sameId_of_needByte isByte
  rw [receives, ok_bind, Response.judge_fields _ _ _ _ named, sameId, ok_bind,
    ErrorFlags.check_known, if_pos harmless]
  rfl

/-! ## Tasks of operations -/

/-- An operation on a motor asks for a task. -/
inductive Operation.Means (motorId : Value) : Operation → Task → Prop where
  | ping : Means motorId (.ping motorId) .ping
  | read (slot : Slot) :
    Means motorId (.read motorId slot.register) (.read slot)
  | write (register : Register) (value : Value) {space : AddressSpace}
    {entries : List (String × Number)} :
    Means motorId (.write motorId register value) (.write space entries)
  | multiWrite (given : List WriteEntry) {space : AddressSpace}
    {entries : List (String × Number)} :
    Means motorId (.multiWrite motorId given) (.write space entries)
  | saveConfig : Means motorId (.saveConfig motorId) .save

namespace Fleet

variable {fleet : Fleet} {operation : Operation} {motorId : Value}
  {task : Task} {target : UInt8}

theorem awaitsReply_eq (means : operation.Means motorId task)
    (isByte : motorId.needByte = .ok target) :
    operation.awaitsReply =
      (!isEveryone target && match task with
        | .save => false
        | _ => true) := by
  have everyone : motorId.same (.integer broadcastId) = isEveryone target :=
    Value.same_of_needByte isByte broadcastId
  cases means <;> simp [Operation.awaitsReply, everyone]

/-- What an operation makes of the response with the parameters of a reply is
the response of the motor. -/
theorem conclude_eq (means : operation.Means motorId task)
    {station : Station} {parameters : Bytes}
    (replies : station.reply task = .ok (some parameters)) :
    (operation.conclude ⟨station.id.toNat,
      ErrorFlags.warningOf station.error, .raw parameters⟩).map some =
        station.response task := by
  cases means with
  | ping =>
      cases replies
      rfl
  | write register value =>
      cases replies
      rfl
  | multiWrite entries =>
      cases replies
      rfl
  | saveConfig => cases replies
  | read slot =>
      obtain ⟨bytes, replyEq, encoded⟩ := Motor.reply_read station replies
      cases replyEq
      have counted := Register.length_encodeNumber encoded
      have stored := Register.stored_of_encodeNumber encoded
      rw [Operation.conclude, Response.decode_raw,
        Register.decode_of_counted counted, Station.response, Station.data]
      simp only [stored]
      rfl

/-- The reply of a motor becomes its response. -/
theorem judge_reply (sound : fleet.Sound) {station : Station}
    (member : station ∈ fleet) (isByte : motorId.needByte = .ok station.id)
    (single : isEveryone station.id = false) {parameters : Bytes}
    (replies : station.reply task = .ok (some parameters)) {capacity : Nat}
    (room : 10 ≤ capacity) :
    (do
      let packet ← Bus.received (Stream.firstEvent capacity
        (answerOf station.id task station))
      Response.judge packet motorId) =
        .ok ⟨station.id.toNat, ErrorFlags.warningOf station.error,
          .raw parameters⟩ := by
  have short := Motor.length_reply station replies
  have countable := Motor.countable_of_short short
  have answered :
      answerOf station.id task station =
        (Packet.mk station.id station.error parameters).encode := by
    simp [answerOf, replies, Motor.replyBytes, single]
  have fits :
      (Packet.mk station.id station.error parameters).encode.length ≤
        capacity := by
    simp only [Packet.length_encode, Packet.minimumSize]
    omega
  rw [answered]
  exact Bus.judge_encode isByte (sound.harmless station member) countable fits

/-- What is received from a motor is its response. -/
theorem concluded_station (sound : fleet.Sound)
    (means : operation.Means motorId task) {station : Station}
    (member : station ∈ fleet) (isByte : motorId.needByte = .ok station.id)
    (single : isEveryone station.id = false) {capacity : Nat}
    (room : 10 ≤ capacity) :
    Bus.concluded operation motorId (Bus.received (Stream.firstEvent capacity
        (answerOf station.id task station))) =
      station.response task := by
  have awaits := awaitsReply_eq means isByte
  obtain ⟨reply, replies⟩ := sound.replies task member
  cases reply with
  | none =>
      have saves := Motor.eq_save_of_reply station replies
      subst saves
      simp only [Bus.concluded, awaits, Bool.and_false, Bool.false_eq_true,
        if_false]
      rfl
  | some parameters =>
      have answers : operation.awaitsReply = true := by
        rw [awaits, single]
        cases task with
        | save => cases replies
        | _ => rfl
      have judged := judge_reply sound member isByte single replies room
      have concludes := conclude_eq means replies
      rw [Bus.concluded, if_pos answers, ← bind_assoc, judged, ok_bind,
        ← concludes]
      cases operation.conclude ⟨station.id.toNat,
        ErrorFlags.warningOf station.error, .raw parameters⟩ <;> rfl

/-- What is received for an operation is the response of the fleet. -/
theorem concluded_eq (sound : fleet.Sound)
    (means : operation.Means motorId task)
    (isByte : motorId.needByte = .ok target) {capacity : Nat}
    (room : 10 ≤ capacity) :
    Bus.concluded operation motorId (Bus.received
        (Stream.firstEvent capacity (fleet.answer target task))) =
      fleet.response target task := by
  have awaits := awaitsReply_eq means isByte
  unfold response
  by_cases everyone : isEveryone target = true
  · simp [Bus.concluded, awaits, everyone]
  · have single : isEveryone target = false := by simpa using everyone
    rw [answer_single single task sound.distinct]
    cases found : fleet.find? fun station => station.id == target with
    | none =>
        simp only [Bus.received_nothing]
        cases task <;> simp [Bus.concluded, awaits, single]
    | some station =>
        have member := List.mem_of_find?_eq_some found
        have own : station.id = target := by
          simpa using List.find?_some found
        subst own
        have concluded :=
          concluded_station sound means member isByte single room
        simp only [single, Bool.false_eq_true, if_false]
        cases task <;> exact concluded

end Fleet

end ActuatorBus
