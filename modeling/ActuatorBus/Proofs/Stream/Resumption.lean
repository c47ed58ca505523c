import ActuatorBus.Proofs.Stream.Announcement

/-!
# Decoding in pieces

A stream can be decoded up to any place, and what is left over there with what
follows: the events are the same, and so are the bytes that were skipped. This
ends only with a message that there is no room for.
-/

namespace ActuatorBus.Stream

namespace Decoding

variable (events : List Event) (skipped : Nat) (decoding : Decoding)

@[simp] theorem events_after :
    (decoding.after events skipped).events = events ++ decoding.events := rfl

@[simp] theorem rest_after :
    (decoding.after events skipped).rest = decoding.rest := rfl

@[simp] theorem skipped_after :
    (decoding.after events skipped).skipped =
      skipped + decoding.skipped := rfl

/-- There was room for every message. -/
def Roomy (decoding : Decoding) : Prop :=
  ∀ required capacity, Event.tooSmall required capacity ∉ decoding.events

variable {events skipped decoding}

theorem Roomy.of_after (roomy : (decoding.after events skipped).Roomy) :
    decoding.Roomy := by
  intro required capacity member
  exact roomy required capacity (List.mem_append_right events member)

end Decoding

variable {capacity : Nat}

/-- The place where a decoding of part of a stream ended is a place to go on
from. -/
theorem decode_resumes (room : Packet.headerSize ≤ capacity)
    (bytes later : Bytes)
    (roomy : (decode capacity (bytes ++ later)).Roomy) :
    decode capacity (bytes ++ later) =
      (decode capacity ((decode capacity bytes).rest ++ later)).after
        (decode capacity bytes).events (decode capacity bytes).skipped := by
  -- Every message that is complete shortens what is still to be decoded.
  induction lengthEq : bytes.length using Nat.strongRecOn
    generalizing bytes with
  | _ length inductionHypothesis =>
      have whole := decode_append_skip capacity bytes later
      have front := decode_eq_after_skip capacity bytes
      have shorter : (bytes.drop (start bytes)).length ≤ length := by
        rw [List.length_drop]
        omega
      have atFront := start_drop_start bytes
      generalize bytes.drop (start bytes) = live at *
      rw [whole] at roomy
      rw [whole, front]
      rcases announced_cases room atFront with
        ⟨_, decodeEq, _⟩ | ⟨size, _, complete⟩ | ⟨required, _, refused⟩
      · simp only [decodeEq, Decoding.events_after, Decoding.rest_after,
          Decoding.skipped_after, List.append_nil, Nat.add_zero]
      · have message := complete.decode_eq
        have more := complete.decode_append later
        rw [more] at roomy
        have dropped : (live.drop size).length < length := by
          have positive := complete.positive
          have enough := complete.complete
          rw [List.length_drop]
          omega
        have resumed :=
          inductionHypothesis _ dropped (live.drop size)
            roomy.of_after.of_after rfl
        rw [more, resumed, message]
        simp only [Decoding.after_after, Decoding.events_after,
          Decoding.rest_after, Decoding.skipped_after, List.nil_append,
          Nat.zero_add, Nat.add_zero]
      · rw [refused.decode_append later] at roomy
        exact absurd (List.mem_singleton.2 rfl) (roomy required capacity)

/-- What is left over holds no message yet. -/
theorem decode_rest (room : Packet.headerSize ≤ capacity) (bytes : Bytes)
    (roomy : (decode capacity bytes).Roomy) :
    decode capacity (decode capacity bytes).rest =
      ⟨[], (decode capacity bytes).rest, 0⟩ := by
  have resumed := decode_resumes room bytes []
  rw [List.append_nil, List.append_nil] at resumed
  have same := resumed roomy
  cases final : decode capacity (decode capacity bytes).rest with
  | mk events rest skipped =>
      rw [final] at same
      have noEvents : events = [] :=
        List.append_right_eq_self.1 (congrArg Decoding.events same).symm
      have nothingSkipped : skipped = 0 :=
        Nat.add_eq_left.1 (congrArg Decoding.skipped same).symm
      have restEq : (decode capacity bytes).rest = rest :=
        congrArg Decoding.rest same
      rw [noEvents, nothingSkipped, restEq]

theorem roomy_of_append (room : Packet.headerSize ≤ capacity)
    {bytes later : Bytes}
    (roomy : (decode capacity (bytes ++ later)).Roomy) :
    (decode capacity bytes).Roomy := by
  rw [decode_resumes room bytes later roomy] at roomy
  intro required capacity member
  exact roomy required capacity (List.mem_append_left _ member)

end ActuatorBus.Stream
