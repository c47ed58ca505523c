import ActuatorBus.Connection.Open
import ActuatorBus.Proofs.Bus.Reachable
import ActuatorBus.Proofs.Bus.Verdict
import ActuatorBus.Proofs.Fleet.Fresh
import ActuatorBus.Proofs.Fleet.Plans
import Mathlib.Control.Monad.Basic

/-!
# Simulated connections

A bus with simulated motors does what the calls on it mean for the fleet of its
motors, and gives the same answers. An operation takes a bus that serves a
fleet to a bus that serves what the fleet has become; the rest is an induction
on the calls.
-/

namespace ActuatorBus

open Act (agree_attempt agree_bind agree_map agree_mapM agree_ofExcept
  agree_pure)

namespace Bus

/-- A bus over a line with the simulated motors of a fleet, on which nothing is
queued and nothing fails. What was received before does not matter. -/
structure Serves (bus : Bus MemoryLine) (fleet : Fleet) : Prop where
  shown : Fleet.Shown fleet bus.line.motors
  sound : fleet.Sound
  works : bus.line.failures = .none
  unqueued : bus.line.replies = []
  chunked : bus.line.Chunked
  timed : bus.Timed
  capacity : 10 ≤ bus.reader.capacity
  room : bus.writeBuffer.length = Fleet.room

variable {bus : Bus MemoryLine} {fleet : Fleet}

theorem Serves.exchanged {later : Fleet} {motors : List Motor}
    {final : Bus MemoryLine} (serves : bus.Serves fleet)
    (exchanged : Exchanged bus motors final)
    (shown : Fleet.Shown later motors) (sound : later.Sound) :
    final.Serves later := by
  constructor
  · rw [exchanged.motors_eq]
    exact shown
  · exact sound
  · rw [exchanged.failures_eq]
    exact serves.works
  · exact exchanged.replies_eq
  · exact exchanged.chunked serves.chunked
  · exact exchanged.timed serves.timed
  · rw [exchanged.capacity_eq]
    exact serves.capacity
  · rw [exchanged.room_eq]
    exact serves.room

end Bus

theorem Operation.Means.expects {operation : Operation} {motorId : Value}
    {request : Request} {task : Task} (means : operation.Means motorId task)
    (asks : operation.asked = some (motorId, .ok request)) :
    ∃ expected : Nat, request.expected = .integer expected ∧
      (expected : Int) + 2 ≤ Packet.maximumLength := by
  cases means with
  | saveConfig =>
      cases asks
      exact ⟨0, rfl, by decide⟩
  | ping => exact (Typed.ping motorId).expected_eq asks
  | read slot => exact (Typed.read motorId slot.register).expected_eq asks
  | write register value =>
      exact (Typed.write motorId register value).expected_eq asks
  | multiWrite entries =>
      exact (Typed.multiWrite motorId entries).expected_eq asks

namespace Fleet

/-- Asks for what a plan says. -/
def follow (plan : Except Fault (UInt8 × Task)) :
    Act Fleet (Option Response) := do
  let planned ← Act.ofExcept plan
  ask planned.1 planned.2

variable (motorId : Value) (slot : Slot)

theorem ping_eq :
    ping motorId = follow (do
      Request.checkAddressable motorId
      return (← motorId.needByte, .ping)) := by
  simp [ping, follow, Act.ofExcept_bind]

theorem read_eq :
    read motorId slot = follow (do
      Request.checkAddressable motorId
      return (← motorId.needByte, .read slot)) := by
  simp [read, follow, Act.ofExcept_bind]

theorem write_eq (value : Value) :
    write motorId slot value = follow (do
      slot.register.checkWritable
      let target ← motorId.needByte
      let held ← slot.register.stored value
      return (target, .write slot.space [(slot.register.label, held)])) := by
  simp [write, follow, Act.ofExcept_bind]

theorem multiWrite_eq (entries : List WriteEntry) :
    multiWrite motorId entries = follow (do
      let space ← WriteEntry.commonSpace entries
      checkBufferSize (Packet.size (entries.length * WriteEntry.width)) room
      let target ← motorId.needByte
      let held ← entries.mapM WriteEntry.held
      return (target, .write space held)) := by
  simp [multiWrite, follow, Act.ofExcept_bind]

theorem saveConfig_eq :
    saveConfig motorId =
      (fun _ => ()) <$> follow (do return (← motorId.needByte, .save)) := by
  simp [saveConfig, follow, Act.ofExcept_bind]

end Fleet

namespace Bus

variable {bus : Bus MemoryLine} {fleet : Fleet} (discipline : Discipline)

/-- An operation does what its plan says. -/
theorem Serves.perform (serves : bus.Serves fleet) {operation : Operation}
    {plan : Except Fault (UInt8 × Task)} (plans : operation.Plans plan) :
    Outcome.Agree Serves
      ((Bus.perform (MemoryLine.link discipline) operation).run bus)
      ((Fleet.follow plan).run fleet) := by
  cases plans with
  | refused asks =>
      rw [perform_eq _ asks]
      exact ⟨rfl, serves⟩
  | @unmade motorId request image fault asks fills unmade =>
      rw [← serves.room] at unmade
      obtain ⟨left, lengthEq, run⟩ :=
        writePacket_error (MemoryLine.link discipline) fills unmade
      rw [perform_eq _ asks, Act.ofExcept_ok, pure_bind, Act.run_bind, run]
      refine ⟨rfl, ?_⟩
      exact
        { serves with
          timed := ⟨serves.timed.rate, serves.timed.margin⟩
          room := lengthEq.trans serves.room }
  | @made motorId request image packet task asks fills made means asksFor =>
      have isByte := (Packet.assembled made).motorId_eq
      have countable := (Request.counted_packet fills made).2
      rw [← serves.room] at made
      obtain ⟨motors, answers, shown⟩ :=
        serves.shown.answers_run asksFor countable fun station member =>
          serves.sound.replies task member
      have asked :
          bus.Asked motorId request (fleet.answer packet.motorId task)
            motors :=
        ⟨serves.works, image, packet, [], fills, made, answers⟩
      obtain ⟨expected, expects, small⟩ := means.expects asks
      have header : Packet.headerSize ≤ bus.reader.capacity :=
        Nat.le_trans (by decide) serves.capacity
      obtain ⟨final, notes, exchanged, run⟩ :=
        perform_follows discipline asks asked expects small serves.timed
          header serves.chunked
      have concludes :=
        Fleet.concluded_eq serves.sound means isByte serves.capacity
      rw [serves.unqueued, List.nil_append, concludes] at run
      rw [run]
      exact ⟨rfl, serves.exchanged exchanged shown
        (serves.sound.carryOut asksFor)⟩

variable (serves : bus.Serves fleet) (motorId : Value)

include serves

theorem Serves.read (slot : Slot) :
    Outcome.Agree Serves
      ((Bus.read (MemoryLine.link discipline) motorId slot.register).run bus)
      ((Fleet.read motorId slot).run fleet) := by
  rw [Fleet.read_eq]
  exact serves.perform discipline (Operation.plans_read motorId slot)

theorem Serves.write (slot : Slot) (value : Value) :
    Outcome.Agree Serves
      ((Bus.write (MemoryLine.link discipline) motorId slot.register
        value).run bus)
      ((Fleet.write motorId slot value).run fleet) := by
  rw [Fleet.write_eq]
  exact serves.perform discipline (Operation.plans_write motorId slot value)

theorem Serves.multiWrite {entries : List WriteEntry}
    (slotted : ∀ entry ∈ entries, entry.Slotted) :
    Outcome.Agree Serves
      ((Bus.multiWrite (MemoryLine.link discipline) motorId entries).run bus)
      ((Fleet.multiWrite motorId entries).run fleet) := by
  rw [Fleet.multiWrite_eq]
  exact serves.perform discipline (Operation.plans_multiWrite motorId slotted)

theorem Serves.saveConfig :
    Outcome.Agree Serves
      ((Bus.saveConfig (MemoryLine.link discipline) motorId).run bus)
      ((Fleet.saveConfig motorId).run fleet) := by
  have performed :=
    agree_map (fun _ => ())
      (serves.perform discipline (Operation.plans_save motorId))
  have saved :
      Bus.saveConfig (MemoryLine.link discipline) motorId =
        (fun _ => ()) <$>
          Bus.perform (MemoryLine.link discipline) (.saveConfig motorId) := by
    simp [Bus.perform]
  rw [Fleet.saveConfig_eq, saved]
  exact performed

theorem Serves.readAll (space : AddressSpace) :
    Outcome.Agree Serves
      ((Bus.readAll (MemoryLine.link discipline) .blocking motorId
        (RegisterMap.registers space)).run bus)
      ((Fleet.readAll motorId space).run fleet) := by
  rw [Bus.readAll, ← Slot.map_register_all, List.mapM_map, Fleet.readAll]
  apply agree_mapM
  · intro slot _ bus fleet serves
    apply agree_bind (serves.read discipline motorId slot)
    intro response _ states
    exact agree_pure _ states
  · exact serves

end Bus

/-! ## Calls -/

namespace WriteEntry

theorem slotted_ofValue {slot : Slot} {value : Value} {entry : WriteEntry}
    (made : ofValue slot.register value = .ok entry) : entry.Slotted := by
  obtain ⟨_, data, _, rfl⟩ := ofValue_eq made
  exact ⟨slot, rfl⟩

theorem slotted_entriesOf {values : List (Slot × Value)}
    {entries : List WriteEntry} (made : Call.entriesOf values = .ok entries) :
    ∀ entry ∈ entries, entry.Slotted := by
  intro entry member
  obtain ⟨given, _, made⟩ := exists_of_mem_mapM made member
  exact slotted_ofValue made

theorem slotted_gainEntries {loop : Value} {gains : List Value}
    {entries : List WriteEntry}
    (made : ControlLoop.gainEntries loop gains = .ok entries) :
    ∀ entry ∈ entries, entry.Slotted := by
  intro entry member
  unfold ControlLoop.gainEntries at made
  split at made
  · cases made
  obtain ⟨loop, _, made⟩ := bind_eq_ok_iff.1 made
  obtain ⟨⟨name, value⟩, _, made⟩ := exists_of_mem_mapM made member
  simp only [← Slot.named?_register] at made
  cases found : Slot.named? .config name with
  | none =>
      rw [found] at made
      cases made
  | some slot =>
      rw [found] at made
      exact slotted_ofValue made

end WriteEntry

namespace Bus

variable {bus : Bus MemoryLine} {fleet : Fleet} (discipline : Discipline)

/-- A call does what it means for the fleet. -/
theorem Serves.call (serves : bus.Serves fleet) (call : Call) :
    Outcome.Agree Serves
      ((call.perform (MemoryLine.link discipline)).run bus)
      (call.meaning.run fleet) := by
  cases call with
  | ping motorId =>
      apply agree_map
      rw [Fleet.ping_eq]
      exact serves.perform discipline (Operation.plans_ping motorId)
  | read motorId slot =>
      exact agree_map _ (serves.read discipline motorId slot)
  | write motorId slot value =>
      exact agree_map _ (serves.write discipline motorId slot value)
  | multiWrite motorId values =>
      apply agree_bind (agree_ofExcept _ serves)
      intro entries made states
      exact agree_map _ (states.multiWrite discipline motorId
        (WriteEntry.slotted_entriesOf made))
  | saveConfig motorId =>
      apply agree_bind (serves.saveConfig discipline motorId)
      intro _ _ states
      exact agree_pure _ states
  | readNamed motorId name =>
      rw [Call.perform, Bus.readNamed, ← Slot.named_register,
        Act.ofExcept_map, bind_map_left, map_bind]
      apply agree_bind (agree_ofExcept _ serves)
      intro slot _ states
      exact agree_map _ (states.read discipline motorId slot)
  | writeNamed motorId name value =>
      rw [Call.perform, Bus.writeNamed, ← Slot.named_register,
        Act.ofExcept_map, bind_map_left, map_bind]
      apply agree_bind (agree_ofExcept _ serves)
      intro slot _ states
      exact agree_map _ (states.write discipline motorId slot value)
  | writeGains motorId loop gains =>
      rw [Call.perform, Bus.writeGains, map_bind]
      apply agree_bind (agree_ofExcept _ serves)
      intro entries made states
      exact agree_map _ (states.multiWrite discipline motorId
        (WriteEntry.slotted_gainEntries made))
  | readAll motorId space =>
      exact agree_map _ (serves.readAll discipline motorId space)

/-- Calls one after the other do what they mean for the fleet. -/
theorem Serves.each (serves : bus.Serves fleet) (calls : List Call) :
    Outcome.Agree Serves
      ((Call.each (Call.perform (MemoryLine.link discipline)) calls).run bus)
      ((Call.each Call.meaning calls).run fleet) := by
  apply agree_mapM
  · intro call _ bus fleet serves
    exact agree_attempt (serves.call discipline call)
  · exact serves

end Bus

/-! ## Connections -/

theorem Setup.named_cases {name : Value} {setup : Setup}
    (known : named name = .ok setup) :
    setup = fullSpeed ∨ setup = lowSpeed := by
  obtain ⟨_, _, found⟩ := bind_eq_ok_iff.1 known
  split at found
  · rename_i entry first
    cases found
    have member := List.mem_of_find?_eq_some first
    simp only [List.mem_cons, List.not_mem_nil, or_false] at member
    rcases member with rfl | rfl
    · exact Or.inl rfl
    · exact Or.inr rfl
  · cases found

namespace Bus

/-- What a bus is opened with, as far as exchanges go. -/
theorem exists_start {name : Value} {setup : Setup}
    (known : Setup.named name = .ok setup) (link : Link MemoryLine)
    (line : MemoryLine) :
    ∃ bus, Bus.start link line setup.busOptions = .ok bus ∧
      bus.line = line ∧ bus.reader.capacity = 128 ∧
      bus.writeBuffer.length = Fleet.room ∧ bus.Timed := by
  rcases Setup.named_cases known with rfl | rfl
  · refine ⟨_, rfl, rfl, ?_, ?_, ?_, ?_⟩
    · exact List.length_replicate
    · rfl
    · exact ⟨.integer 8000000, rfl, rfl⟩
    · exact ⟨_, _, rfl, rfl⟩
  · refine ⟨_, rfl, rfl, ?_, ?_, ?_, ?_⟩
    · exact List.length_replicate
    · rfl
    · exact ⟨.integer 115200, rfl, rfl⟩
    · exact ⟨_, _, rfl, rfl⟩

/-- A simulated connection is a bus over a line with new motors. -/
theorem exists_simulated (discipline : Discipline) {setup : Value}
    {chosen : Setup} (known : Setup.named setup = .ok chosen)
    {ids : List UInt8} (distinct : ids.Nodup) :
    ∃ bus,
      Bus.simulate discipline setup
          (.several (ids.map fun id => .integer id.toNat)) = .ok bus ∧
        Reachable (MemoryLine.link discipline) bus ∧
        bus.line = MemoryLine.create chosen.baudRate .nothing
          (ids.map Motor.simulated) ∧
        bus.reader.capacity = 128 ∧
        bus.writeBuffer.length = Fleet.room ∧ bus.Timed := by
  obtain ⟨bus, started, lineEq, capacityEq, roomEq, timed⟩ :=
    exists_start known (MemoryLine.link discipline)
      (MemoryLine.create chosen.baudRate .nothing (ids.map Motor.simulated))
  refine ⟨bus, ?_, .start started, lineEq, capacityEq, roomEq, timed⟩
  have made :
      (ids.map fun id => Value.integer id.toNat).map (fun id =>
        Motor.create id (.integer 0) Motor.defaultPingData) =
          ids.map Motor.simulated :=
    List.map_map
  have items :
      (Value.several (ids.map fun id => .integer id.toNat)).itemsNeeded =
        .ok (ids.map fun id => .integer id.toNat) := rfl
  rw [Bus.simulate, known, ok_bind, items, ok_bind, made,
    Motor.distinct_simulated distinct, ok_bind]
  exact started

/-- The bus where the motors have error bytes, in their order. -/
def reporting (errors : List UInt8) (bus : Bus MemoryLine) :
    Bus MemoryLine :=
  { bus with
    line :=
      { bus.line with
        motors := List.zipWith Motor.reporting errors bus.line.motors } }

/-- A simulated connection serves a new fleet. -/
theorem serves_simulated (discipline : Discipline) {setup : Value}
    {chosen : Setup} (known : Setup.named setup = .ok chosen)
    {ids : List UInt8} (distinct : ids.Nodup) {errors : UInt8 → UInt8}
    (harmless : ∀ id ∈ ids,
      (errors id).toNat &&& ErrorFlags.errorMask = 0) :
    ∃ bus,
      Bus.simulate discipline setup
          (.several (ids.map fun id => .integer id.toNat)) = .ok bus ∧
        (bus.reporting (ids.map errors)).Serves (Fleet.fresh ids errors) := by
  obtain ⟨bus, simulated, _, lineEq, capacityEq, roomEq, timed⟩ :=
    exists_simulated discipline known distinct
  refine ⟨bus, simulated, ?_⟩
  have motors :
      (bus.reporting (ids.map errors)).line.motors =
        ids.map fun id => (Motor.simulated id).reporting (errors id) := by
    simp only [reporting, lineEq, MemoryLine.create, List.zipWith_map,
      List.zipWith_self]
  constructor
  · rw [motors]
    exact Fleet.shown_fresh ids errors
  · exact Fleet.sound_fresh distinct harmless
  · simp [reporting, lineEq, MemoryLine.create]
  · simp [reporting, lineEq, MemoryLine.create]
  · left
    simp [reporting, lineEq, MemoryLine.create]
  · exact ⟨timed.rate, timed.margin⟩
  · simp [reporting, capacityEq]
  · exact roomEq

/-- Calls on a simulated connection do what they mean for the fleet of its
motors: they give the same answers, and the motors hold afterwards what the
fleet holds. -/
theorem simulate_refines {setup : Value} {chosen : Setup}
    (known : Setup.named setup = .ok chosen) {ids : List UInt8}
    (distinct : ids.Nodup) {errors : UInt8 → UInt8}
    (harmless : ∀ id ∈ ids, (errors id).toNat &&& ErrorFlags.errorMask = 0)
    (calls : List Call) :
    ∃ bus,
      Bus.simulate .blocking setup
          (.several (ids.map fun id => .integer id.toNat)) = .ok bus ∧
        Outcome.Agree Serves
          ((Call.each (Call.perform (MemoryLine.link .blocking)) calls).run
            (bus.reporting (ids.map errors)))
          ((Call.each Call.meaning calls).run (Fleet.fresh ids errors)) := by
  obtain ⟨bus, simulated, serves⟩ :=
    serves_simulated .blocking known distinct harmless
  exact ⟨bus, simulated, serves.each .blocking calls⟩

/-- Two motors, of which the second one warns. -/
def pair : List UInt8 × (UInt8 → UInt8) :=
  ([1, 2], fun id => if id = 2 then 2 else 0x80)

/-- Calls for one of the motors, for both, and for a third one. -/
def pairCalls : List Call := [
  .writeNamed (.integer 0xFE) "mode" (.integer 3),
  .writeNamed (.flag true) "mode" (.integer 4),
  .writeGains (.integer 2) (.words "vel") [.integer 1, .integer 2, .integer 3],
  .saveConfig (.integer 2),
  .readNamed (.integer 1) "mode",
  .readNamed (.integer 2) "mode",
  .readNamed (.integer 2) "d_gain_vel",
  .ping (.integer 3)]

theorem simulate_refines_pair :
    ∃ bus,
      Bus.simulate .blocking (.words "bear_default")
          (.several [.integer 1, .integer 2]) = .ok bus ∧
        ((Call.each (Call.perform (MemoryLine.link .blocking)) pairCalls).run
          (bus.reporting [0x80, 2])).result =
            .ok [
              .ok (.response none),
              .ok (.response (some ⟨1, none, .raw []⟩)),
              .ok (.response (some ⟨2, some ⟨2⟩, .raw []⟩)),
              .ok .nothing,
              .ok (.response (some ⟨1, none, .value (.integer 4)⟩)),
              .ok (.response (some ⟨2, some ⟨2⟩, .value (.integer 3)⟩)),
              .ok (.response
                (some ⟨2, some ⟨2⟩, .value (.real ⟨0x4008000000000000⟩)⟩)),
              .error (.line .deadline .readTimedOut)] := by
  have known :
      Setup.named (.words "bear_default") = .ok Setup.fullSpeed := by
    rfl
  have distinct : pair.1.Nodup := by decide
  have harmless : ∀ id ∈ pair.1,
      (pair.2 id).toNat &&& ErrorFlags.errorMask = 0 := by
    decide +kernel
  obtain ⟨bus, simulated, agree⟩ :=
    simulate_refines known distinct harmless pairCalls
  refine ⟨bus, simulated, ?_⟩
  apply agree.result_eq.trans
  decide +kernel

end Bus

end ActuatorBus
