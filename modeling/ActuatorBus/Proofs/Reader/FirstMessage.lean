import ActuatorBus.Proofs.Reader.Poll
import ActuatorBus.Proofs.Runs
import ActuatorBus.Proofs.Stream.Position

/-!
# The first message

A poll moves the first position at which a message can begin to the front of
the buffer, skips what lies before it and nothing else, and answers by the
length byte there (`poll_finds_first`). It ends on its own: the bound on its
looks is never reached.
-/

namespace ActuatorBus

namespace Stream

theorem announced_ne_stalled (capacity : Nat) (live : Bytes) :
    announced capacity live ≠ .error .stalled := by
  intro stalled
  obtain ⟨required, other⟩ := announced_error stalled
  cases other

end Stream

namespace Reader

open ActuatorBus.Stream

variable {reader : Reader}

/-- The pending bytes from a position on are all that is left, at the front of
the buffer, and those before it were skipped. -/
structure Moved (reader : Reader) (position : Nat) (next : Reader) :
    Prop where
  capacity_eq : next.capacity = reader.capacity
  fillLevel_eq : next.fillLevel = reader.pending.length - position
  front_eq : next.buffer.take next.fillLevel = reader.pending.drop position
  handedOut_eq : next.handedOut = 0
  skipped_eq : next.skipped = reader.skipped + position

theorem Moved.of_window {next : Reader} {position : Nat}
    (sound : next.Sound)
    (windowEq : next.window = reader.window.dropTo position) :
    Moved reader position next := by
  have frontEq : next.filled = reader.pending.drop position :=
    congrArg Window.filled windowEq
  refine ⟨congrArg Window.capacity windowEq, ?_, frontEq,
    congrArg Window.handedOut windowEq, congrArg Window.skipped windowEq⟩
  rw [← sound.length_filled, frontEq, List.length_drop]

/-- A poll needs no more looks than one more than there are bytes pending. -/
theorem poll_run_of_patience (sound : reader.Sound) {patience : Nat}
    (enough : reader.pending.length < patience) :
    (Act.untilSome patience look).run reader = poll.run reader := by
  have looked := untilSome_look_reaches _ sound (Nat.lt_succ_self _)
  have ended :
      ((Act.untilSome (reader.pending.length + 1) look).run reader).result ≠
        .error .stalled := by
    rw [looked.result_eq]
    exact announced_ne_stalled _ _
  have few : reader.pending.length ≤ reader.fillLevel := by
    rw [sound.length_pending]
    exact Nat.sub_le _ _
  rw [poll_eq_untilSome, Act.untilSome_of_le enough ended,
    Act.untilSome_of_le (Nat.succ_le_succ few) ended]

/-- A poll ends without a limit to the looks it takes. -/
theorem poll_repeats (sound : reader.Sound) :
    Act.Repeats look reader (poll.run reader) := by
  have reaches := poll_reaches sound
  rw [poll_eq_untilSome] at reaches ⊢
  apply Act.repeats_untilSome
  rw [reaches.result_eq]
  exact announced_ne_stalled _ _

/-- Whatever the marks and the bytes of a reader are, a poll finds the first
position at which a message can begin, moves it to the front, and answers: no
message before its length byte is there, a refusal if there is no room for the
message announced, and its size once all of it is there. -/
theorem poll_finds_first (sound : reader.Sound) :
    ∃ position,
      (∀ other, IsFirst reader.pending other ↔ other = position) ∧
      Moved reader position (poll.run reader).state ∧
      (reader.pending.length - position < Packet.headerSize →
        (poll.run reader).result = .ok none) ∧
      (∀ length,
        reader.pending[position + Packet.lengthPosition]? = some length →
        (poll.run reader).result =
          let size := Packet.headerSize + length.toNat
          if reader.capacity < size then
            .error (.bufferTooSmall size reader.capacity)
          else if size ≤ reader.pending.length - position then
            .ok (some size)
          else .ok none) ∧
      ∀ patience, reader.pending.length < patience →
        (Act.untilSome patience look).run reader = poll.run reader := by
  have polled := poll_reaches sound
  have lengthByte :
      (reader.pending.drop (start reader.pending))[Packet.lengthPosition]? =
        reader.pending[start reader.pending + Packet.lengthPosition]? := by
    rw [List.getElem?_drop]
  refine ⟨start reader.pending, fun _ => isFirst_iff,
    .of_window polled.sound polled.window_eq, ?_, ?_,
    fun _ => poll_run_of_patience sound⟩
  · intro short
    have beyond :
        (reader.pending.drop (start reader.pending)).length ≤
          Packet.lengthPosition := by
      rw [List.length_drop]
      simp only [Packet.headerSize, Packet.lengthPosition] at short ⊢
      omega
    rw [polled.result_eq, announced, List.getElem?_eq_none beyond]
  · intro length headed
    rw [polled.result_eq, announced, lengthByte, headed]
    simp only [List.length_drop]
    split
    · rfl
    · split <;> rfl

/-- Two header bytes with a bad length behind them, and then a run of three:
the message begins with the first of these. -/
theorem poll_finds_first_of_run :
    let reader : Reader :=
      ⟨[0, 0xFF, 0xFF, 9, 1, 0xFF, 0xFF, 0xFF, 2, 7, 8, 5], 11, 1, 4⟩
    reader.Sound ∧
      (poll.run reader).result = .ok (some 6) ∧
      (poll.run reader).state.buffer.take 6 =
        [0xFF, 0xFF, 0xFF, 2, 7, 8] ∧
      (poll.run reader).state.skipped = 8 := by
  intro reader
  have sound : reader.Sound := ⟨by decide, by decide⟩
  obtain ⟨position, unique, moved, _, headed, _⟩ := poll_finds_first sound
  have positionEq : 4 = position := (unique 4).1 (isFirst_iff.2 (by decide))
  subst positionEq
  have front := moved.front_eq
  rw [moved.fillLevel_eq] at front
  exact ⟨sound, headed 2 rfl, front, moved.skipped_eq⟩

end Reader

end ActuatorBus
