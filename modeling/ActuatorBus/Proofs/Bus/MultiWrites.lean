import ActuatorBus.Proofs.Fleet.Hearing
import ActuatorBus.Proofs.Fleet.Simulation

/-!
# Writing several registers

One instruction that writes several registers leaves the motors with what they
would hold if each register was written by an instruction of its own, in the
same order. Only the logs of the motors tell the difference.
-/

namespace ActuatorBus

/-! ## Values -/

/-- Values for registers of a space, with the parameters of the instruction
that writes them and what the registers hold of them. -/
inductive Stores (space : AddressSpace) : List (Slot × Value) → Bytes →
    List (String × Number) → Prop where
  | nil : Stores space [] [] []
  | cons {slot : Slot} {value : Value} (ofSpace : slot.space = space)
    (writable : slot.register.writable = true) {data : Bytes}
    (encoded : slot.register.encode value = .ok data)
    (four : data.length = 4) {given : List (Slot × Value)} {rest : Bytes}
    {numbers : List (String × Number)}
    (more : Stores space given rest numbers) :
    Stores space ((slot, value) :: given) (slot.address :: (data ++ rest))
      ((slot.register.label, slot.register.format.value data) :: numbers)

theorem Stores.entries {space : AddressSpace} {given : List (Slot × Value)}
    {parameters : Bytes} {numbers : List (String × Number)}
    (stores : Stores space given parameters numbers) :
    Entries space parameters numbers := by
  induction stores with
  | nil => exact .nil
  | cons ofSpace _ _ four _ entries => exact .cons _ ofSpace four entries

/-- The bytes of an entry for a slot are its address and four bytes. -/
theorem WriteEntry.image_slot {slot : Slot} {data bytes : Bytes}
    (made : image ⟨slot.register, data⟩ = .ok bytes) :
    data.length = 4 ∧ bytes = slot.address :: data := by
  obtain ⟨address, located, made⟩ := bind_eq_ok_iff.1 made
  cases slot.needByte_address.symm.trans located
  by_cases four : data.length = 4
  · simp only [Filler.fitting, if_pos four] at made
    cases made
    exact ⟨four, rfl⟩
  · simp only [Filler.fitting, if_neg four] at made
    cases made

theorem Stores.five_le {space : AddressSpace} {given : List (Slot × Value)}
    {parameters : Bytes} {numbers : List (String × Number)}
    (stores : Stores space given parameters numbers) (several : given ≠ []) :
    5 ≤ parameters.length := by
  cases stores with
  | nil => exact absurd rfl several
  | cons _ _ _ four _ =>
      rw [List.length_cons, List.length_append, four]
      omega

/-- The parameters for one value are those of a write. -/
theorem Stores.instructs_write {space : AddressSpace} {slot : Slot}
    {motorId value : Value} {target : UInt8} {parameters : Bytes}
    {numbers : List (String × Number)} {size : Nat}
    (stores : Stores space [(slot, value)] parameters numbers)
    (isByte : motorId.needByte = .ok target)
    (fits : Packet.minimumSize + 5 ≤ size) :
    (Operation.write motorId slot.register value).Instructs size
      ⟨target, space.writeInstruction.code, parameters⟩ := by
  cases stores with
  | @cons _ _ ofSpace writable data encoded four _ rest _ more =>
      cases more
      subst ofSpace
      have tells :
          (Operation.write motorId slot.register value).Tells motorId
            slot.space.writeInstruction.code
            (slot.address :: (data ++ [])) := by
        rw [List.append_nil]
        exact .write writable slot.space_eq slot.needByte_address encoded
          (four.trans slot.width_eq.symm)
      refine ⟨⟨motorId, tells, isByte⟩, ?_, ?_⟩
      · simp [four, Packet.maximumLength]
      · simpa [Packet.length_encode, four, Nat.add_comm] using fits

theorem exists_stores {space : AddressSpace} {given : List (Slot × Value)} :
    ∀ {entries : List WriteEntry} {parameters : Bytes},
      Call.entriesOf given = .ok entries →
      (∀ entry ∈ entries, entry.register.space = some space) →
      WriteEntry.images entries = .ok parameters →
      ∃ numbers, Stores space given parameters numbers := by
  induction given with
  | nil =>
      intro entries parameters made _ encoded
      cases made
      cases encoded
      exact ⟨[], .nil⟩
  | cons first given storesRest =>
      intro entries parameters made common encoded
      obtain ⟨slot, value⟩ := first
      rw [Call.entriesOf, List.mapM_cons] at made
      obtain ⟨entry, ofValue, made⟩ := bind_eq_ok_iff.1 made
      obtain ⟨rest, restMade, returned⟩ := bind_eq_ok_iff.1 made
      cases returned
      obtain ⟨writable, data, dataEq, rfl⟩ := WriteEntry.ofValue_eq ofValue
      obtain ⟨bytes, imageEq, encoded⟩ := bind_eq_ok_iff.1 encoded
      obtain ⟨more, moreEq, returned⟩ := bind_eq_ok_iff.1 encoded
      cases returned
      obtain ⟨four, rfl⟩ := WriteEntry.image_slot imageEq
      have ofSpace : slot.space = space :=
        Option.some.inj
          (slot.space_eq.symm.trans (common _ List.mem_cons_self))
      obtain ⟨numbers, stores⟩ := storesRest restMade
        (fun other member => common other (List.mem_cons_of_mem _ member))
        moreEq
      exact ⟨_, .cons ofSpace writable dataEq four stores⟩

/-! ## Motors -/

namespace Motor

/-- The motor with an empty log. -/
def unlogged (motor : Motor) : Motor := { motor with instructions := [] }

/-- The motor after it heard of entries for the same motor one by one. -/
def hearEach (motor : Motor) (target : UInt8) (space : AddressSpace)
    (entries : List (String × Number)) : Motor :=
  entries.foldl
    (fun motor entry => motor.hear target (.write space [entry])) motor

variable {target : UInt8} {space : AddressSpace}

theorem unlogged_carryOut (space : AddressSpace)
    (entries : List (String × Number)) :
    ∀ motor : Motor,
      (motor.carryOut (.write space entries)).unlogged =
        motor.unlogged.carryOut (.write space entries) := by
  induction entries with
  | nil => exact fun _ => rfl
  | cons entry rest unloggedRest =>
      intro motor
      have first :
          (motor.withValue space entry.1 (.number entry.2)).unlogged =
            motor.unlogged.withValue space entry.1 (.number entry.2) := by
        cases space <;> rfl
      have later :=
        unloggedRest (motor.withValue space entry.1 (.number entry.2))
      rw [first] at later
      exact later

theorem saved_carryOut (space : AddressSpace)
    (entries : List (String × Number)) :
    ∀ motor : Motor,
      (motor.carryOut (.write space entries)).saved = motor.saved := by
  induction entries with
  | nil => exact fun _ => rfl
  | cons entry rest savedRest =>
      intro motor
      have first :
          (motor.withValue space entry.1 (.number entry.2)).saved =
            motor.saved := by
        cases space <;> rfl
      exact (savedRest _).trans first

theorem saved_hear (motor : Motor) (target : UInt8) (space : AddressSpace)
    (entries : List (String × Number)) :
    (motor.hear target (.write space entries)).saved = motor.saved := by
  rw [hear]
  split
  · exact saved_carryOut space entries _
  · rfl

theorem unlogged_hear (motor : Motor) (target : UInt8)
    (space : AddressSpace) (entries : List (String × Number)) :
    (motor.hear target (.write space entries)).unlogged =
      if motor.listens target then
        motor.unlogged.carryOut (.write space entries)
      else motor.unlogged := by
  rw [hear]
  split
  · exact unlogged_carryOut space entries _
  · rfl

theorem listens_hear (motor : Motor) (target : UInt8) (task : Task) :
    (motor.hear target task).listens target = motor.listens target := by
  obtain ⟨_, _, _, _, heardEq⟩ := motor.hear_eq target task
  rw [heardEq]
  rfl

theorem unlogged_hearEach_listening (entries : List (String × Number)) :
    ∀ {motor : Motor}, motor.listens target = true →
      (motor.hearEach target space entries).unlogged =
        motor.unlogged.carryOut (.write space entries) := by
  induction entries with
  | nil => exact fun _ => rfl
  | cons entry rest heardRest =>
      intro motor heard
      have later := heardRest ((motor.listens_hear target
        (.write space [entry])).trans heard)
      rw [unlogged_hear, if_pos heard] at later
      exact later

theorem hearEach_unheard (entries : List (String × Number)) {motor : Motor}
    (unheard : motor.listens target = false) :
    motor.hearEach target space entries = motor := by
  induction entries with
  | nil => rfl
  | cons entry rest heardRest =>
      rw [hearEach, List.foldl_cons, hear, unheard,
        if_neg Bool.false_ne_true]
      exact heardRest

/-- Entries one by one come to what they come to together. -/
theorem unlogged_hearEach (motor : Motor) (target : UInt8)
    (space : AddressSpace) (entries : List (String × Number)) :
    (motor.hearEach target space entries).unlogged =
      (motor.hear target (.write space entries)).unlogged := by
  rw [unlogged_hear]
  cases heard : motor.listens target with
  | true => exact unlogged_hearEach_listening entries heard
  | false => rw [hearEach_unheard entries heard, if_neg Bool.false_ne_true]

end Motor

/-! ## The bus -/

namespace Bus

/-- The line of a bus has motors that report no error; nothing is queued on it
and nothing fails. -/
structure Quiet (ids : List UInt8) (bus : Bus MemoryLine) : Prop where
  row : Motor.Row ids bus.line.motors
  harmless : ∀ motor ∈ bus.line.motors, motor.error = .integer 0
  works : bus.line.failures = .none
  unqueued : bus.line.replies = []
  chunked : bus.line.Chunked
  timed : bus.Timed

/-- The line of a simulated connection is quiet. -/
theorem quiet_simulated (discipline : Discipline) {setup : Value}
    {chosen : Setup} (known : Setup.named setup = .ok chosen)
    {ids : List UInt8} (distinct : ids.Nodup)
    (single : ∀ id ∈ ids, Fleet.isEveryone id = false) :
    ∃ bus,
      Bus.simulate discipline setup
          (.several (ids.map fun id => .integer id.toNat)) = .ok bus ∧
        Reachable (MemoryLine.link discipline) bus ∧ bus.Quiet ids ∧
        bus.writeBuffer.length = Fleet.room := by
  obtain ⟨bus, simulated, reached, lineEq, _, roomEq, timed⟩ :=
    exists_simulated discipline known distinct
  refine ⟨bus, simulated, reached, ?_, roomEq⟩
  constructor
  · refine ⟨?_, distinct, single⟩
    rw [lineEq]
    refine List.forall₂_map_right_iff.2 (List.forall₂_same.2 ?_)
    exact fun id _ => .create 0 Motor.defaultPingData
  · rw [lineEq]
    intro motor member
    obtain ⟨id, _, rfl⟩ := List.mem_map.1 member
    rfl
  · rw [lineEq]
    rfl
  · rw [lineEq]
    rfl
  · rw [lineEq]
    exact Or.inl rfl
  · exact timed

/-- What a write to motors that report no error returns. -/
def acknowledgement (target : UInt8) : Option Response :=
  if Fleet.isEveryone target then none
  else some ⟨target.toNat, none, .raw []⟩

theorem concluded_acknowledgement {operation : Operation} {motorId : Value}
    {space : AddressSpace} {entries : List (String × Number)}
    {target : UInt8} {answer : Bytes} {capacity : Nat}
    (means : operation.Means motorId (.write space entries))
    (isByte : motorId.needByte = .ok target)
    (room : Packet.minimumSize ≤ capacity)
    (answered : Fleet.isEveryone target = false →
      answer = (Packet.mk target 0 []).encode) :
    concluded operation motorId
        (received (Stream.firstEvent capacity answer)) =
      .ok (acknowledgement target) := by
  have awaits := Fleet.awaitsReply_eq means isByte
  cases everyone : Fleet.isEveryone target with
  | true => simp [concluded, acknowledgement, awaits, everyone]
  | false =>
      have harmless : (0 : UInt8).toNat &&& ErrorFlags.errorMask = 0 := by
        decide
      have judged := judge_encode isByte harmless
        (show (([] : Bytes).length : Int) + 2 ≤ Packet.maximumLength by decide)
        room
      have kept (response : Response) :
          operation.conclude response = .ok response := by
        cases means <;> rfl
      have awaited : operation.awaitsReply = true := by
        simp [awaits, everyone]
      rw [concluded, if_pos awaited, answered everyone, ← bind_assoc, judged,
        ok_bind, kept, acknowledgement, everyone]
      rfl

variable {ids : List UInt8} {bus : Bus MemoryLine} (discipline : Discipline)

theorem Quiet.exchanged (quiet : bus.Quiet ids) {packet : Packet}
    {task : Task} (asks : Asks packet task)
    (countable :
      (packet.parameters.length : Int) + 2 ≤ Packet.maximumLength)
    {final : Bus MemoryLine}
    (exchanged : Exchanged bus
      (bus.line.motors.map fun motor => motor.hear packet.motorId task)
      final) :
    final.Quiet ids := by
  constructor
  · rw [exchanged.motors_eq]
    exact quiet.row.hear asks countable
  · rw [exchanged.motors_eq]
    intro later member
    obtain ⟨motor, before, rfl⟩ := List.mem_map.1 member
    obtain ⟨_, _, _, _, heardEq⟩ := motor.hear_eq packet.motorId task
    rw [heardEq]
    exact quiet.harmless motor before
  · rw [exchanged.failures_eq]
    exact quiet.works
  · exact exchanged.replies_eq
  · exact exchanged.chunked quiet.chunked
  · exact exchanged.timed quiet.timed

/-- A motor that was asked for a write, and reports no error, answers with
nothing else. -/
theorem Quiet.answers (quiet : bus.Quiet ids) {packet : Packet}
    {space : AddressSpace} {entries : List (String × Number)}
    (asks : Asks packet (.write space entries))
    (countable :
      (packet.parameters.length : Int) + 2 ≤ Packet.maximumLength)
    (known : packet.motorId ∈ ids ∨
      Fleet.isEveryone packet.motorId = true) :
    ∃ answer, Motor.answers packet.encode bus.line.motors =
        ⟨.ok answer, bus.line.motors.map fun motor =>
          motor.hear packet.motorId (.write space entries), []⟩ ∧
      (Fleet.isEveryone packet.motorId = false →
        answer = (Packet.mk packet.motorId 0 []).encode) := by
  have replies : ∀ motor ∈ bus.line.motors,
      motor.Replies (.write space entries) :=
    fun motor _ => motor.replies_write space entries
  cases everyone : Fleet.isEveryone packet.motorId with
  | true =>
      exact ⟨[], Motor.answers_everyone asks countable everyone replies,
        fun single => nomatch single⟩
  | false =>
      obtain ⟨answer, answersEq, _, present⟩ :=
        Motor.answers_single asks countable everyone quiet.row.settled
          quiet.row.distinct replies
      have among : packet.motorId ∈ ids :=
        known.resolve_right (by simp [everyone])
      obtain ⟨motor, member, own, answered⟩ := present among
      have harmless : motor.error = .integer (0 : UInt8).toNat :=
        quiet.harmless motor member
      have replyEq : motor.reply (.write space entries) = .ok (some []) := rfl
      have said := own.say_own harmless everyone replyEq
        (by rintro parameters ⟨⟩; decide)
      cases said.symm.trans answered
      exact ⟨_, answersEq, fun _ => rfl⟩

/-- A write is acknowledged, and the motors hear it. -/
theorem Quiet.perform_write (quiet : bus.Quiet ids) (ready : bus.Ready)
    {operation : Operation} {motorId : Value} {packet : Packet}
    {space : AddressSpace} {entries : List (String × Number)}
    (means : operation.Means motorId (.write space entries))
    (instructs : operation.Instructs bus.writeBuffer.length packet)
    (asksFor : Asks packet (.write space entries))
    (known : packet.motorId ∈ ids ∨
      Fleet.isEveryone packet.motorId = true) :
    ∃ final notes,
      (perform (MemoryLine.link discipline) operation).run bus =
        ⟨.ok (acknowledgement packet.motorId), final, notes⟩ ∧
      final.Ready ∧ final.Quiet ids ∧
      final.writeBuffer.length = bus.writeBuffer.length ∧
      final.line.motors = bus.line.motors.map fun motor =>
        motor.hear packet.motorId (.write space entries) := by
  obtain ⟨given, tells, isByte⟩ := instructs.tells
  obtain ⟨request, asks, _⟩ := tells.asked_eq
  have sameId : motorId = given := by
    cases means <;> exact congrArg Prod.fst (Option.some.inj asks)
  subst sameId
  have made := (Operation.instructs_iff asks).1 instructs
  obtain ⟨answer, answers, answered⟩ :=
    quiet.answers asksFor instructs.countable known
  have asked : bus.Asked motorId request answer
      (bus.line.motors.map fun motor =>
        motor.hear packet.motorId (.write space entries)) :=
    ⟨quiet.works, _, packet, [], Operation.asked_fills_image asks, made,
      answers⟩
  obtain ⟨expected, expects, small⟩ := means.expects asks
  have header : Packet.headerSize ≤ bus.reader.capacity :=
    Nat.le_trans (by decide) ready.room
  obtain ⟨final, notes, exchanged, run⟩ :=
    perform_follows discipline asks asked expects small quiet.timed header
      quiet.chunked
  rw [quiet.unqueued, List.nil_append,
    concluded_acknowledgement means isByte ready.room answered] at run
  have readyLater :
      ((perform (MemoryLine.link discipline) operation).run bus).state.Ready :=
    perform_keeps operation bus ready
  rw [run] at readyLater
  exact ⟨final, notes, run, readyLater,
    quiet.exchanged asksFor instructs.countable exchanged,
    exchanged.room_eq, exchanged.motors_eq⟩

/-- One write after the other. -/
theorem Quiet.perform_each {space : AddressSpace}
    {given : List (Slot × Value)} {parameters : Bytes}
    {numbers : List (String × Number)} {motorId : Value} {target : UInt8}
    (isByte : motorId.needByte = .ok target)
    (known : target ∈ ids ∨ Fleet.isEveryone target = true)
    (stores : Stores space given parameters numbers) :
    ∀ {bus : Bus MemoryLine}, bus.Quiet ids → bus.Ready →
      Packet.minimumSize + 5 ≤ bus.writeBuffer.length →
      ∃ final notes,
        (given.mapM fun one =>
          Bus.write (MemoryLine.link discipline) motorId one.1.register
            one.2).run bus =
          ⟨.ok (List.replicate given.length (acknowledgement target)), final,
            notes⟩ ∧
        final.line.motors = bus.line.motors.map fun motor =>
          motor.hearEach target space numbers := by
  induction stores with
  | nil =>
      intro bus _ _ _
      exact ⟨bus, [], rfl, by simp [Motor.hearEach]⟩
  | @cons slot value ofSpace writable data encoded four given rest numbers
      more eachRest =>
      intro bus quiet ready fits
      have single : Stores space [(slot, value)] _ _ :=
        .cons ofSpace writable encoded four .nil
      obtain ⟨middle, notes, run, readyLater, quietLater, roomEq, motorsEq⟩ :=
        quiet.perform_write discipline ready (.write slot.register value)
          (single.instructs_write isByte fits) (.write target single.entries)
          known
      obtain ⟨final, moreNotes, restRun, restMotors⟩ :=
        eachRest quietLater readyLater (roomEq ▸ fits)
      have wrote :
          (Bus.write (MemoryLine.link discipline) motorId slot.register
            value).run bus = _ := run
      refine ⟨final, notes ++ moreNotes, ?_, ?_⟩
      · simp [wrote, restRun, List.replicate_succ]
      · rw [restMotors, motorsEq, List.map_map]
        rfl

variable {discipline}

/-- One value is sent in the same packet either way. -/
theorem Quiet.written_alone (quiet : bus.Quiet ids) {space : AddressSpace}
    {slot : Slot} {motorId value : Value} {target : UInt8}
    {parameters : Bytes} {numbers : List (String × Number)}
    {entries : List WriteEntry}
    (stores : Stores space [(slot, value)] parameters numbers)
    (isByte : motorId.needByte = .ok target)
    (instructs : (Operation.multiWrite motorId entries).Instructs
      bus.writeBuffer.length
      ⟨target, space.writeInstruction.code, parameters⟩)
    (fits : Packet.minimumSize + 5 ≤ bus.writeBuffer.length) :
    let link := MemoryLine.link discipline
    ((Bus.multiWrite link motorId entries).run bus).state.line.written =
      ((Bus.write link motorId slot.register value).run
        bus).state.line.written := by
  have room : bus.HasRoom bus.writeBuffer.length := rfl
  have discards := congrArg LineFailures.discard quiet.works
  have writes := congrArg LineFailures.write quiet.works
  have together :=
    perform_writes_instruction discipline room discards writes instructs
  have alone :=
    perform_writes_instruction discipline room discards writes
      (stores.instructs_write isByte fits)
  exact together.trans alone.symm

/-- Writing several registers with one instruction returns what each single
write returns, and leaves the motors with the same values as single writes do:
in the motors that listen, the registers hold the numbers that they were given,
the last one if there are several, and what was saved stays. For one register
the instructions are the same. -/
theorem multiWrite_matches_writes
    (reached : Reachable (MemoryLine.link discipline) bus)
    (quiet : bus.Quiet ids) {motorId : Value} {given : List (Slot × Value)}
    {entries : List WriteEntry} (made : Call.entriesOf given = .ok entries)
    {packet : Packet}
    (instructs : (Operation.multiWrite motorId entries).Instructs
      bus.writeBuffer.length packet)
    (known : packet.motorId ∈ ids ∨
      Fleet.isEveryone packet.motorId = true) :
    let link := MemoryLine.link discipline
    let together := (Bus.multiWrite link motorId entries).run bus
    let apart := (given.mapM fun one =>
      Bus.write link motorId one.1.register one.2).run bus
    let response := if Fleet.isEveryone packet.motorId then none
      else some (Response.mk packet.motorId.toNat none (.raw []))
    together.result = .ok response ∧
    apart.result = .ok (List.replicate given.length response) ∧
    together.state.line.motors.map Motor.unlogged =
      apart.state.line.motors.map Motor.unlogged ∧
    (∃ space numbers, Stores space given packet.parameters numbers ∧
      together.state.line.motors.map Motor.unlogged =
        bus.line.motors.map fun motor =>
          if motor.listens packet.motorId then
            motor.unlogged.carryOut (.write space numbers)
          else motor.unlogged) ∧
    together.state.line.motors.map Motor.saved =
      bus.line.motors.map Motor.saved ∧
    apart.state.line.motors.map Motor.saved =
      bus.line.motors.map Motor.saved ∧
    (given.length = 1 →
      together.state.line.written = apart.state.line.written) := by
  intro link together apart response
  obtain ⟨_, tells, isByte⟩ := instructs.tells
  obtain ⟨target, code, parameters⟩ := packet
  cases tells with
  | @multiWrite _ _ space _ several placed encoded =>
  obtain ⟨numbers, stores⟩ := exists_stores made placed encoded
  have fits : Packet.minimumSize + 5 ≤ bus.writeBuffer.length := by
    have nonempty : given ≠ [] := by
      rintro rfl
      cases made
      exact several rfl
    have five := stores.five_le nonempty
    have whole := instructs.fits
    rw [Packet.length_encode] at whole
    omega
  have asksFor : Asks _ (.write space numbers) := .write target stores.entries
  obtain ⟨_, _, run, _, _, _, motorsEq⟩ :=
    quiet.perform_write discipline reached.ready (.multiWrite entries)
      instructs asksFor known
  obtain ⟨_, _, runEach, motorsEachEq⟩ :=
    Quiet.perform_each discipline isByte known stores quiet reached.ready fits
  have togetherEq : together = _ := run
  have apartEq : apart = _ := runEach
  have savedEq : together.state.line.motors.map Motor.saved =
      bus.line.motors.map Motor.saved := by
    rw [togetherEq, motorsEq, List.map_map]
    exact List.map_congr_left fun motor _ => motor.saved_hear target space _
  have unloggedEq : together.state.line.motors.map Motor.unlogged =
      apart.state.line.motors.map Motor.unlogged := by
    rw [togetherEq, apartEq, motorsEq, motorsEachEq, List.map_map,
      List.map_map]
    exact List.map_congr_left fun motor _ =>
      (motor.unlogged_hearEach target space numbers).symm
  refine ⟨congrArg Outcome.result run, congrArg Outcome.result runEach,
    unloggedEq, ⟨space, numbers, stores, ?_⟩, savedEq, ?_, ?_⟩
  · rw [togetherEq, motorsEq, List.map_map]
    exact List.map_congr_left fun motor _ =>
      motor.unlogged_hear target space numbers
  · have savedOf (motors : List Motor) : motors.map Motor.saved =
        (motors.map Motor.unlogged).map Motor.saved := by
      rw [List.map_map]
      rfl
    rw [savedOf, ← unloggedEq, ← savedOf, savedEq]
  · intro single
    obtain ⟨⟨slot, value⟩, rfl⟩ := List.length_eq_one_iff.1 single
    have alone : apart.state =
        ((Bus.write link motorId slot.register value).run bus).state := by
      subst apart
      rw [List.mapM_cons, Act.run_bind]
      rcases (Bus.write link motorId slot.register value).run bus with
        ⟨_ | _, _, _⟩ <;> rfl
    rw [alone]
    exact quiet.written_alone stores isByte instructs fits

/-- Setting the mode of one of two motors twice with one instruction. -/
theorem multiWrite_matches_writes_repeated :
    let link := MemoryLine.link .blocking
    let given := [(Slot.mode, Value.integer 3), (Slot.mode, .integer 4)]
    let entries : List WriteEntry := [
      ⟨Slot.mode.register, [3, 0, 0, 0]⟩, ⟨Slot.mode.register, [4, 0, 0, 0]⟩]
    Call.entriesOf given = .ok entries ∧
      ∃ bus, Bus.simulate .blocking (.words "bear_default")
          (.several [.integer 1, .integer 2]) = .ok bus ∧
        ((Bus.multiWrite link (.integer 2) entries).run bus).result =
          .ok (some ⟨2, none, .raw []⟩) ∧
        ((given.mapM fun one =>
          Bus.write link (.integer 2) one.1.register one.2).run bus).result =
            .ok [some ⟨2, none, .raw []⟩, some ⟨2, none, .raw []⟩] := by
  intro link given entries
  have made : Call.entriesOf given = .ok entries := by decide +kernel
  have known :
      Setup.named (.words "bear_default") = .ok Setup.fullSpeed := by
    rfl
  obtain ⟨bus, simulated, reached, quiet, roomEq⟩ :=
    quiet_simulated .blocking known (show [1, 2].Nodup by decide)
      (by decide +kernel)
  have tells : (Operation.multiWrite (.integer 2) entries).Tells (.integer 2)
      AddressSpace.config.writeInstruction.code
      [1, 3, 0, 0, 0, 1, 4, 0, 0, 0] :=
    .multiWrite (List.cons_ne_nil _ _) (by decide +kernel) rfl
  have instructs : (Operation.multiWrite (.integer 2) entries).Instructs
      bus.writeBuffer.length
      ⟨2, AddressSpace.config.writeInstruction.code,
        [1, 3, 0, 0, 0, 1, 4, 0, 0, 0]⟩ := by
    rw [roomEq]
    exact ⟨⟨_, tells, rfl⟩, by decide, by decide⟩
  obtain ⟨together, apart, _⟩ :=
    multiWrite_matches_writes reached quiet made instructs
      (Or.inl (by decide))
  exact ⟨made, bus, simulated, together, apart⟩

end Bus

end ActuatorBus
