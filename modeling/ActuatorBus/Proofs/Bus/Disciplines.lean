import ActuatorBus.Proofs.Bus.Agreement
import ActuatorBus.Proofs.Bus.Suspending
import ActuatorBus.Proofs.Line.Disciplines

/-!
# Two disciplines, one protocol

A session is a sequence of operations between which the line can be prepared
in every way. A blocking bus performs them as actions over a line that blocks,
a suspending bus as coroutines over one that gives way. Buses that are in step
come out of every step of a session with the same result and in step, also if
the step fails.
-/

namespace ActuatorBus

namespace Bus

/-- Two buses that differ in nothing but the clocks of their lines, which show
the same time. -/
structure InStep (same : Double → Double → Prop) (bus bus' : Bus MemoryLine) :
    Prop where
  line : bus.line.InStep same bus'.line
  rest_eq : bus' = { bus with line := bus'.line }

variable {same : Double → Double → Prop} {bus bus' : Bus MemoryLine}
  {α : Type}

theorem inStep_refl (times : same bus.line.clock bus.line.clock) :
    InStep same bus bus :=
  ⟨⟨times, rfl⟩, rfl⟩

theorem InStep.eq_with (inStep : InStep same bus bus') :
    ∃ line, bus.line.InStep same line ∧ bus' = { bus with line } :=
  ⟨bus'.line, inStep.line, inStep.rest_eq⟩

theorem InStep.onLine (inStep : InStep same bus bus')
    {first second : Act MemoryLine α}
    (agree : Outcome.Agree (MemoryLine.InStep same) (first.run bus.line)
      (second.run bus'.line)) :
    Outcome.Agree (InStep same) ((Bus.onLine first).run bus)
      ((Bus.onLine second).run bus') := by
  obtain ⟨line, _, rfl⟩ := inStep.eq_with
  exact ⟨agree.result_eq, agree.related, rfl⟩

theorem InStep.onReader (inStep : InStep same bus bus')
    (action : Act Reader α) :
    Outcome.Agree (InStep same) ((Bus.onReader action).run bus)
      ((Bus.onReader action).run bus') := by
  obtain ⟨line, lines, rfl⟩ := inStep.eq_with
  exact ⟨rfl, lines, rfl⟩

theorem InStep.onWriteBuffer (inStep : InStep same bus bus')
    (action : Act Bytes α) :
    Outcome.Agree (InStep same) ((Bus.onWriteBuffer action).run bus)
      ((Bus.onWriteBuffer action).run bus') := by
  obtain ⟨line, lines, rfl⟩ := inStep.eq_with
  exact ⟨rfl, lines, rfl⟩

/-! ## Exchanges -/

theorem InStep.prepare (inStep : InStep same bus bus')
    (motorId code count : Value) (fill : Option Filler) :
    Outcome.Agree (InStep same) ((prepare motorId code count fill).run bus)
      ((prepare motorId code count fill).run bus') := by
  apply Act.agree_bind (inStep.onWriteBuffer _)
  intro size _ written
  apply Act.agree_bind (written.onReader _)
  intro _ _ reset
  apply Act.agree_get
  obtain ⟨line, lines, restEq⟩ := reset.eq_with
  rw [restEq]
  exact ⟨rfl, lines, rfl⟩

theorem InStep.writePacket (inStep : InStep same bus bus')
    (synchronous : Synchronous same) (motorId code count : Value)
    (fill : Option Filler) :
    Outcome.Agree (InStep same)
      ((writePacket (MemoryLine.link .blocking) motorId code count fill).run
        bus)
      ((writePacket (MemoryLine.link .suspending) motorId code count
        fill).run bus') := by
  apply Act.agree_bind (inStep.prepare motorId code count fill)
  intro packet _ prepared
  apply Act.agree_bind
    (Act.agree_mapFault _ (prepared.onLine prepared.line.discardInput))
  intro _ _ discarded
  exact Act.agree_mapFault _
    (discarded.onLine (discarded.line.writeAll synchronous packet))

theorem InStep.readStep (inStep : InStep same bus bus')
    (synchronous : Synchronous same) {deadline deadline' : Double}
    (deadlines : same deadline deadline') :
    Outcome.Agree (InStep same)
      ((readStep (MemoryLine.link .blocking) deadline).run bus)
      ((readStep (MemoryLine.link .suspending) deadline').run bus') := by
  apply Act.agree_bind (inStep.onReader _)
  intro found _ polled
  cases found with
  | some size =>
      apply Act.agree_bind (polled.onReader _)
      intro packet _ taken
      exact Act.agree_pure _ taken
  | none =>
      -- The readers are the same, so both lines are asked for as much.
      apply Act.agree_get
      obtain ⟨line, _, restEq⟩ := polled.eq_with
      have spaceEq := congrArg (·.reader.unfilled) restEq
      simp only at spaceEq
      rw [spaceEq]
      apply Act.agree_bind
        (Act.agree_mapFault _
          (polled.onLine (polled.line.read synchronous deadlines _)))
      intro bytes _ arrived
      apply Act.agree_bind (arrived.onReader _)
      intro _ _ received
      exact Act.agree_pure _ received

theorem InStep.readPacket (inStep : InStep same bus bus')
    (synchronous : Synchronous same) {deadline deadline' : Double}
    (deadlines : same deadline deadline') :
    Outcome.Agree (InStep same)
      ((readPacket (MemoryLine.link .blocking) deadline).run bus)
      ((readPacket (MemoryLine.link .suspending) deadline').run bus') := by
  have patienceEq :
      (MemoryLine.link .suspending).patience bus'.line =
        (MemoryLine.link .blocking).patience bus.line := by
    rw [inStep.line.rest_eq]
    rfl
  apply agree_readPacket patienceEq _ inStep
  exact fun one two steps => steps.readStep synchronous deadlines

theorem InStep.readResponse (inStep : InStep same bus bus')
    (synchronous : Synchronous same) (expected expectedId : Value) :
    Outcome.Agree (InStep same)
      ((readResponse (MemoryLine.link .blocking) expected expectedId).run bus)
      ((readResponse (MemoryLine.link .suspending) expected expectedId).run
        bus') := by
  have timeoutEq :
      bus'.responseTimeout expected = bus.responseTimeout expected := by
    rw [inStep.rest_eq]
    rfl
  apply agree_readResponse expectedId timeoutEq _ inStep
  intro timeout
  exact inStep.readPacket synchronous
    (synchronous.passes inStep.line.times timeout)

theorem InStep.transfer (inStep : InStep same bus bus')
    (synchronous : Synchronous same) (motorId code count expected : Value)
    (fill : Option Filler) :
    Outcome.Agree (InStep same)
      ((transfer (MemoryLine.link .blocking) motorId code count expected
        fill).run bus)
      ((transfer (MemoryLine.link .suspending) motorId code count expected
        fill).run bus') := by
  apply Act.agree_bind
    (inStep.writePacket synchronous motorId code count fill)
  intro _ _ sent
  by_cases everyone : motorId.same (.integer broadcastId) = true
  · rw [if_pos everyone, if_pos everyone]
    exact Act.agree_pure none sent
  · rw [if_neg everyone, if_neg everyone]
    apply Act.agree_bind (sent.readResponse synchronous expected motorId)
    intro response _ received
    exact Act.agree_pure (some response) received

/-- An operation that asks something prepares, writes and reads in the same
order on both buses; the others are one of these parts, or use no line. -/
theorem InStep.perform (inStep : InStep same bus bus')
    (synchronous : Synchronous same) (operation : Operation) :
    Outcome.Agree (InStep same)
      ((perform (MemoryLine.link .blocking) operation).run bus)
      ((perform (MemoryLine.link .suspending) operation).run bus') := by
  cases asks : operation.asked with
  | some asked =>
      obtain ⟨motorId, asked⟩ := asked
      apply agree_perform asks _ _ inStep
      · exact fun request _ => inStep.writePacket synchronous _ _ _ _
      · exact fun expected one two sent =>
          sent.readResponse synchronous expected motorId
  | none =>
      cases operation with
      | readResponse expected expectedId =>
          apply Act.agree_bind
            (inStep.readResponse synchronous expected expectedId)
          intro response _ received
          exact Act.agree_pure (some response) received
      | setBaudRate baudRate =>
          obtain ⟨line, lines, rfl⟩ := inStep.eq_with
          obtain ⟨clock, times, rfl⟩ := lines.eq_at
          exact ⟨rfl, ⟨times, rfl⟩, rfl⟩
      | writePacket motorId code count parameters =>
          apply Act.agree_bind
            (inStep.writePacket synchronous motorId code count _)
          intro _ _ sent
          exact Act.agree_pure none sent
      | transfer motorId code count expected parameters =>
          exact inStep.transfer synchronous motorId code count expected _
      | _ => cases asks

end Bus

/-! ## Sessions -/

/-- What can be done with a line in memory between operations. -/
inductive MemoryLine.Script where
  | feed (bytes : Bytes)
  | queueReply (bytes : Bytes)
  /-- Gives the line other failures, or none. -/
  | fail (failures : LineFailures)
  /-- Limits how many bytes a read gives, or does not. -/
  | limit (chunkSize : Value)
  /-- Connects other motors, or changes those that are there. -/
  | attach (change : List Motor → List Motor)

def MemoryLine.follow (line : MemoryLine) : Script → MemoryLine
  | .feed bytes => line.feed bytes
  | .queueReply bytes => line.queueReply bytes
  | .fail failures => { line with failures }
  | .limit chunkSize => { line with chunkSize }
  | .attach change => { line with motors := change line.motors }

theorem MemoryLine.InStep.follow {same : Double → Double → Prop}
    {line line' : MemoryLine} (inStep : line.InStep same line')
    (script : Script) :
    (line.follow script).InStep same (line'.follow script) := by
  obtain ⟨clock, times, rfl⟩ := inStep.eq_at
  cases script with
  | feed bytes => exact ⟨times, rfl⟩
  | queueReply bytes => exact ⟨times, rfl⟩
  | fail failures => exact ⟨times, rfl⟩
  | limit chunkSize => exact ⟨times, rfl⟩
  | attach change => exact ⟨times, rfl⟩

namespace Bus

inductive Step where
  | perform (operation : Operation)
  /-- Writes items at an address, which may be no bytes. -/
  | writeItems (motorId code address : Value) (items : List Value)
  | prepare (script : MemoryLine.Script)

/-- A step of a session. There is no response to a preparation. -/
def Step.act (discipline : Discipline) :
    Step → Act (Bus MemoryLine) (Option Response)
  | perform operation =>
    discipline.perform (MemoryLine.link discipline) operation
  | writeItems motorId code address items => do
    discipline.writeItems (MemoryLine.link discipline) motorId code address
      items
    return none
  | prepare script => do
    Act.modify fun bus => { bus with line := bus.line.follow script }
    return none

/-- What each step of a session comes to, and the bus that it leaves. -/
def session (discipline : Discipline) (steps : List Step) :
    Bus MemoryLine → List (Outcome (Bus MemoryLine) (Option Response)) :=
  Act.transcript (steps.map (Step.act discipline))

variable {same : Double → Double → Prop} {bus bus' : Bus MemoryLine}

theorem InStep.act (inStep : InStep same bus bus')
    (synchronous : Synchronous same) (step : Step) :
    Outcome.Agree (InStep same) ((step.act .blocking).run bus)
      ((step.act .suspending).run bus') := by
  cases step with
  | perform operation =>
      -- The coroutine is what a blocking bus does over the line that gives way.
      simp only [Step.act, Discipline.perform_eq]
      exact inStep.perform synchronous operation
  | writeItems motorId code address items =>
      simp only [Step.act, Discipline.writeItems_eq]
      apply Act.agree_bind (inStep.writePacket synchronous motorId code _ _)
      intro _ _ sent
      exact Act.agree_pure none sent
  | prepare script =>
      have lines := inStep.line.follow script
      obtain ⟨line, _, rfl⟩ := inStep.eq_with
      exact ⟨rfl, lines, rfl⟩

theorem sessions_inStep (synchronous : Synchronous same) (steps : List Step)
    (times : same bus.line.clock bus.line.clock) :
    List.Forall₂ (Outcome.Agree (InStep same))
      (session .blocking steps bus) (session .suspending steps bus) := by
  apply Act.agree_transcript _ steps _ _ (inStep_refl times)
  exact fun step one two inStep => inStep.act synchronous step

theorem InStep.eq_of_settled
    (inStep : InStep (fun x y => x = y ∧ x.Settled) bus bus') : bus = bus' := by
  obtain ⟨line, lines, rfl⟩ := inStep.eq_with
  obtain ⟨clock, ⟨rfl, _⟩, rfl⟩ := lines.eq_at
  rfl

/-- A session comes to the same step by step, whether the bus blocks or
suspends: the results are the same, and so are the buses but for clocks that
may differ as `0.0` and `-0.0` do. Clocks that no zero changes do not differ
at all. -/
theorem sessions_agree (steps : List Step) (bus : Bus MemoryLine) :
    List.Forall₂ (Outcome.Agree (InStep Double.Concurs))
      (session .blocking steps bus) (session .suspending steps bus) ∧
    (bus.line.clock.Settled →
      List.Forall₂ (Outcome.Agree Eq) (session .blocking steps bus)
        (session .suspending steps bus)) := by
  constructor
  · exact sessions_inStep synchronous_concurs steps (Double.concurs_refl _)
  · intro settled
    apply List.Forall₂.imp _
      (sessions_inStep synchronous_settled steps ⟨rfl, settled⟩)
    exact fun first second agree =>
      ⟨agree.result_eq, agree.related.eq_of_settled⟩

/-- A reply is queued, but the first read of it fails. -/
def interrupted : List Step :=
  [.prepare (.queueReply (Packet.mk 1 0 []).encode),
    .prepare (.fail ⟨none, none, some .readTimedOut⟩),
    .perform (.ping (.integer 1)),
    .prepare (.fail .none),
    .perform (.readResponse (.integer 0) (.integer 1))]

theorem sessions_agree_interrupted :
    let bus : Bus MemoryLine :=
      { line := MemoryLine.create (.integer 8000000) (.integer 2) []
        reader := ⟨List.replicate 8 0, 0, 0, 0⟩
        writeBuffer := [0xFF, 0xFF, 0, 0, 0, 0]
        baudRate := .integer 8000000
        timeoutMargin := .real .zero }
    bus.line.clock.Settled ∧
      (session .blocking interrupted bus).map Outcome.result =
        [.ok none, .ok none, .error (.line .deadline .readTimedOut), .ok none,
          .ok (some ⟨1, none, .raw []⟩)] ∧
      List.Forall₂ (Outcome.Agree Eq) (session .blocking interrupted bus)
        (session .suspending interrupted bus) := by
  intro bus
  have settled : bus.line.clock.Settled := by decide
  refine ⟨settled, ?_, (sessions_agree interrupted bus).2 settled⟩
  decide +kernel

end Bus

end ActuatorBus
