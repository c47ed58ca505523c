import ActuatorBus.Proofs.Bus.Exchanging
import ActuatorBus.Proofs.Bus.Transcript

/-!
# Stages of an exchange

An exchange discards the input, writes the instruction, and reads the reply. A
line that fails stops it at the first of these stages that fails, and the
report tells which one it was, so that it tells whether a motor can have got
the instruction (`perform_stops_at_stage`).
-/

namespace ActuatorBus

/-- The report of a failure at a stage. A failure that does not concern the
line is reported as it is. -/
def DeviceError.reported (error : DeviceError) (stage : Stage) : Fault :=
  match error.kind with
  | .internal => .device error
  | .system | .timeout => .line stage error

namespace Bus

theorem atStage_device (stage : DeviceError → Stage) (error : DeviceError) :
    atStage stage (.device error) = error.reported (stage error) := by
  obtain ⟨kind, text⟩ := error
  cases kind <;> rfl

/-! ## After the instruction -/

section

variable {σ : Type} (link : Link σ) {bus : Bus σ} {operation : Operation}
  {motorId : Value} {request : Request} {packet : Packet}

/-- What an operation does once its request is sent. -/
def finish (operation : Operation) (motorId expected : Value) :
    Act (Bus σ) (Option Response) := do
  if operation.awaitsReply then
    let response ← readResponse link expected motorId
    return some (← Act.ofExcept (operation.conclude response))
  else return none

theorem perform_stops (asks : operation.asked = some (motorId, .ok request))
    (instructs : operation.Instructs bus.writeBuffer.length packet)
    {fault : Fault} {final : Bus σ}
    (stops : (transmit link packet.encode).run (bus.prepared packet) =
      ⟨.error fault, final, []⟩) :
    (perform link operation).run bus =
      ⟨.error fault, final, [.sendingPacket packet.encode]⟩ := by
  have made := (Operation.instructs_iff asks).1 instructs
  have sends := writePacket_ok link (Operation.asked_fills_image asks) made
  rw [stops] at sends
  rw [perform_eq link asks, Act.ofExcept_ok, pure_bind, Act.run_bind, sends]
  rfl

theorem perform_goes_on
    (asks : operation.asked = some (motorId, .ok request))
    (instructs : operation.Instructs bus.writeBuffer.length packet)
    {sent : Bus σ} (sends : (transmit link packet.encode).run
      (bus.prepared packet) = ⟨.ok (), sent, []⟩) :
    (perform link operation).run bus =
      let rest := (finish link operation motorId request.expected).run sent
      ⟨rest.result, rest.state,
        .sendingPacket packet.encode :: rest.notes⟩ := by
  have made := (Operation.instructs_iff asks).1 instructs
  have goesOn := writePacket_ok link (Operation.asked_fills_image asks) made
  rw [sends] at goesOn
  rw [perform_eq link asks, Act.ofExcept_ok, pure_bind, Act.run_bind, goesOn]
  rfl

end

variable {bus : Bus MemoryLine} (discipline : Discipline)

/-- Without anything pending the first thing done for a packet is a read, and
if it fails nothing was taken from the line. -/
theorem readPacket_unreadable (deadline : Double) (sound : bus.reader.Sound)
    (nothing : bus.reader.pending = []) {error : DeviceError}
    (fails : bus.line.failures.read = some error) :
    ∃ final notes, final.line = bus.line ∧
      (readPacket (MemoryLine.link discipline) deadline).run bus =
        ⟨.error (error.reported (readStage error)), final, notes⟩ := by
  obtain ⟨reader, notes, _, run⟩ := poll_polled sound
  have live : bus.live = [] := by
    rw [Bus.live, nothing, List.drop_nil]
  rw [live] at run
  refine ⟨{ bus with reader }, notes, rfl, ?_⟩
  simp [readPacket, Act.untilSome_succ, readStep, onReader, onLine, run,
    Stream.announced, MemoryLine.link, MemoryLine.read_run,
    MemoryLine.reading, fails, atStage_device]

theorem finish_unreadable {operation : Operation} {motorId expected : Value}
    (awaits : operation.awaitsReply = true) {timeout : Double}
    (timely : bus.responseTimeout expected = .ok timeout)
    (sound : bus.reader.Sound) (nothing : bus.reader.pending = [])
    {error : DeviceError} (fails : bus.line.failures.read = some error) :
    ∃ final notes, final.line = bus.line ∧
      (finish (MemoryLine.link discipline) operation motorId expected).run
          bus =
        ⟨.error (error.reported (readStage error)), final, notes⟩ := by
  obtain ⟨final, notes, lineEq, run⟩ := readPacket_unreadable discipline
    ((MemoryLine.link discipline).deadline bus.line timeout) sound nothing
    fails
  refine ⟨final, notes, lineEq, ?_⟩
  simp [finish, awaits, readResponse, timely, run]

/-- The line stays as it is while a reply is read, but for the time and for
what can be read. -/
theorem finish_keeps_line (line : MemoryLine) (operation : Operation)
    (motorId expected : Value) :
    Act.Keeps
      (fun bus => ∃ clock input, bus.line = { line with clock, input })
      (finish (MemoryLine.link discipline) operation motorId expected) := by
  unfold finish
  split
  · refine Act.Keeps.bind ?_ fun response =>
      (Act.keeps_ofExcept _).bind fun _ => Act.keeps_pure _
    apply readResponse_retains
    · exact fun _ _ same => same
    · rintro space deadline bus ⟨clock, input, lineEq⟩
      simp only [onLine, Act.run_on, MemoryLine.link, MemoryLine.read_run,
        lineEq]
      exact ⟨_, _, rfl⟩
  · exact Act.keeps_pure none

/-! ## The stages -/

section

variable {operation : Operation} {motorId : Value} {request : Request}
  {packet : Packet} (read : (space : Nat) → (deadline : Double) →
    Act MemoryLine Bytes)

theorem perform_undiscarded
    (asks : operation.asked = some (motorId, .ok request))
    (instructs : operation.Instructs bus.writeBuffer.length packet)
    {error : DeviceError} (fails : bus.line.failures.discard = some error) :
    (perform { MemoryLine.link discipline with read } operation).run bus =
      ⟨.error (error.reported .discard), bus.prepared packet,
        [.sendingPacket packet.encode]⟩ := by
  have stops :
      (transmit (MemoryLine.link discipline) packet.encode).run
        (bus.prepared packet) = _ :=
    transmit_undiscarded discipline packet.encode fails
  rw [atStage_device] at stops
  exact perform_stops _ asks instructs stops

theorem perform_unwritten
    (asks : operation.asked = some (motorId, .ok request))
    (instructs : operation.Instructs bus.writeBuffer.length packet)
    (discards : bus.line.failures.discard = none)
    {error : DeviceError} (fails : bus.line.failures.write = some error) :
    (perform { MemoryLine.link discipline with read } operation).run bus =
      ⟨.error (error.reported .write),
        { bus.prepared packet with line :=
          { bus.line with
            clock := bus.line.resumed discipline
            discards := bus.line.discards + 1
            input := [] } }, [.sendingPacket packet.encode]⟩ := by
  have stops :
      (transmit (MemoryLine.link discipline) packet.encode).run
        (bus.prepared packet) = _ :=
    transmit_unwritten discipline packet.encode discards fails
  rw [atStage_device] at stops
  exact perform_stops _ asks instructs stops

/-- The bus after an instruction that no motor answers. -/
def dispatched (bus : Bus MemoryLine) (packet : Packet) : Bus MemoryLine :=
  { bus.prepared packet with line :=
    { bus.line with
      clock := bus.line.resumed discipline
      written := bus.line.written ++ [packet.encode]
      discards := bus.line.discards + 1
      input := bus.line.replies
      replies := [] } }

theorem perform_dispatched (alone : bus.line.motors = [])
    (asks : operation.asked = some (motorId, .ok request))
    (instructs : operation.Instructs bus.writeBuffer.length packet)
    (discards : bus.line.failures.discard = none)
    (writes : bus.line.failures.write = none) :
    (perform { MemoryLine.link discipline with read } operation).run bus =
      let rest :=
        (finish { MemoryLine.link discipline with read } operation motorId
          request.expected).run (bus.dispatched discipline packet)
      ⟨rest.result, rest.state,
        .sendingPacket packet.encode :: rest.notes⟩ := by
  have answers : Motor.answers packet.encode bus.line.motors =
      ⟨.ok [], bus.line.motors, []⟩ := by
    rw [alone]
    rfl
  have sends :
      (transmit (MemoryLine.link discipline) packet.encode).run
        (bus.prepared packet) = _ :=
    transmit_run discipline discards writes answers
  rw [List.append_nil] at sends
  exact perform_goes_on _ asks instructs sends

end

/-- If there is a reply to read, its time can be computed. -/
def Timely {σ : Type} (bus : Bus σ) (operation : Operation) : Prop :=
  operation.awaitsReply = true → ∀ motorId request,
    operation.asked = some (motorId, .ok request) →
      ∃ timeout, bus.responseTimeout request.expected = .ok timeout

/-- An operation with an instruction, on a line without motors, whatever the
line fails at and whatever the bus holds. If the input cannot be discarded,
the line is left as it was. If the instruction cannot be written, the input is
discarded, and no more. Else the instruction was written once, and if there is
a reply to read and this fails, nothing of what was queued is read. An earlier
failure goes before a later one, and whatever a read would give makes no
difference unless there is one. -/
theorem perform_stops_at_stage {operation : Operation} {packet : Packet}
    (alone : bus.line.motors = [])
    (instructs : operation.Instructs bus.writeBuffer.length packet)
    (timely : bus.Timely operation) :
    let line := bus.line
    let link := MemoryLine.link discipline
    let outcome := (perform link operation).run bus
    let Unread := ∀ read,
      (perform { link with read } operation).run bus = outcome
    (∀ error, line.failures.discard = some error →
      outcome.result = .error (error.reported .discard) ∧
        outcome.state.line = line ∧ Unread) ∧
    (∀ error, line.failures.discard = none →
      line.failures.write = some error →
        outcome.result = .error (error.reported .write) ∧
          outcome.state.line =
            { line with
              clock := line.resumed discipline
              discards := line.discards + 1
              input := [] } ∧ Unread) ∧
    (line.failures.discard = none → line.failures.write = none →
      (∃ clock input, outcome.state.line =
        { line with
          clock, input
          written := line.written ++ [packet.encode]
          discards := line.discards + 1
          replies := [] }) ∧
      (operation.awaitsReply = true → ∀ error,
        line.failures.read = some error →
          outcome.result = .error (error.reported
            (if error.kind = .timeout then .deadline else .read)) ∧
          outcome.state.line.input = line.replies) ∧
      (operation.awaitsReply = false →
        outcome.result = .ok none ∧
          outcome.state.line.input = line.replies ∧ Unread)) := by
  intro line link outcome Unread
  obtain ⟨motorId, tells, _⟩ := instructs.tells
  obtain ⟨request, asks, _⟩ := tells.asked_eq
  refine ⟨?_, ?_, ?_⟩
  · intro error fails
    have runs := fun read =>
      perform_undiscarded discipline read asks instructs fails
    have run : outcome = _ := runs link.read
    exact ⟨congrArg Outcome.result run,
      congrArg (fun final => final.state.line) run,
      fun read => (runs read).trans run.symm⟩
  · intro error discards fails
    have runs := fun read =>
      perform_unwritten discipline read asks instructs discards fails
    have run : outcome = _ := runs link.read
    exact ⟨congrArg Outcome.result run,
      congrArg (fun final => final.state.line) run,
      fun read => (runs read).trans run.symm⟩
  · intro discards writes
    have runs := fun read =>
      perform_dispatched discipline read alone asks instructs discards writes
    have run : outcome = _ := runs link.read
    refine ⟨?_, ?_, ?_⟩
    · rw [run]
      exact finish_keeps_line discipline _ operation motorId request.expected
        _ ⟨_, _, rfl⟩
    · intro awaits error fails
      obtain ⟨timeout, timeEq⟩ := timely awaits motorId request asks
      have sound : (bus.dispatched discipline packet).reader.Sound :=
        ⟨Nat.le_refl 0, Nat.zero_le _⟩
      have sentTimely :
          (bus.dispatched discipline packet).responseTimeout
            request.expected = .ok timeout := timeEq
      obtain ⟨final, notes, lineEq, stops⟩ :=
        finish_unreadable discipline awaits sentTimely sound rfl fails
      have stage : readStage error =
          if error.kind = .timeout then .deadline else .read := by
        simp [readStage, DeviceError.isTimeout]
      rw [run, ← stage]
      constructor
      · exact congrArg Outcome.result stops
      · refine (congrArg (fun final => final.state.line.input) stops).trans ?_
        exact congrArg MemoryLine.input lineEq
    · intro silent
      have ends : ∀ read,
          (finish { link with read } operation motorId request.expected).run
            (bus.dispatched discipline packet) =
          ⟨.ok none, bus.dispatched discipline packet, []⟩ := by
        intro read
        simp [finish, silent]
      have quiet := fun read => (runs read).trans
        (congrArg (fun rest => Outcome.mk rest.result rest.state
          (.sendingPacket packet.encode :: rest.notes)) (ends read))
      have run : outcome = _ := quiet link.read
      exact ⟨congrArg Outcome.result run,
        congrArg (fun final => final.state.line.input) run,
        fun read => (quiet read).trans run.symm⟩

/-- A ping with stale input and a queued reply, when reading fails by a
timeout. -/
theorem perform_stops_at_stage_reading :
    let late : DeviceError := ⟨.timeout, "too late"⟩
    let bus : Bus MemoryLine :=
      { narrow with line :=
        { narrow.line with
          input := [1]
          replies := [2, 3]
          failures := ⟨none, none, some late⟩ } }
    let outcome :=
      (perform (MemoryLine.link .blocking) (.ping (.integer 1))).run bus
    bus.line.motors = [] ∧
      outcome.result = .error (.line .deadline late) ∧
      outcome.state.line.written = [(Packet.mk 1 1 []).encode] ∧
      outcome.state.line.input = [2, 3] := by
  intro late bus outcome
  have instructs : (Operation.ping (.integer 1)).Instructs
      bus.writeBuffer.length ⟨1, 1, []⟩ :=
    ⟨⟨_, .ping (by decide), rfl⟩, by decide, by decide⟩
  have timed : bus.Timed :=
    ⟨⟨.integer 57600, rfl, rfl⟩, ⟨.real .zero, .zero, rfl, rfl⟩⟩
  have timely : bus.Timely (.ping (.integer 1)) := by
    intro _ motorId request asks
    cases asks
    exact timed.responseTimeout (show ((4 : Nat) : Int) + 2 ≤ _ by decide)
  obtain ⟨_, _, sent⟩ :=
    perform_stops_at_stage .blocking rfl instructs timely
  obtain ⟨⟨clock, input, lineEq⟩, unread, _⟩ := sent rfl rfl
  obtain ⟨resultEq, inputEq⟩ := unread rfl late rfl
  subst outcome
  refine ⟨rfl, resultEq, ?_, inputEq⟩
  rw [lineEq]
  rfl

end Bus

end ActuatorBus
