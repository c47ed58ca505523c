import ActuatorBus.Proofs.Reader.Poll
import ActuatorBus.Proofs.Runs

/-!
# Readers that hold the same

Two readers are alike if they have the same room, the same marks and the same
filled bytes. What lies behind the filled bytes is left over from earlier and
may differ, and so may the number of bytes skipped so far. No operation sees
the difference: it gives the same result for both, they stay alike, and they
skip as many bytes for it.

Only counting bytes that were not placed before is no such operation.
-/

namespace ActuatorBus.Reader

open ActuatorBus.Stream

/-- Two readers have the same room, the same marks and the same filled
bytes. -/
structure Alike (one two : Reader) : Prop where
  capacity_eq : one.capacity = two.capacity
  fillLevel_eq : one.fillLevel = two.fillLevel
  handedOut_eq : one.handedOut = two.handedOut
  filled_eq : one.filled = two.filled

/-- Two readers are alike, and since they were `past` and `past'` they skipped
as many bytes. -/
structure Even (past past' one two : Reader) : Prop extends Alike one two where
  sound : one.Sound
  skipped : ∃ more, one.skipped = past.skipped + more ∧
    two.skipped = past'.skipped + more

variable {one two past past' : Reader}

theorem Alike.sound (alike : one.Alike two) (sound : one.Sound) :
    two.Sound := by
  constructor
  · rw [← alike.handedOut_eq, ← alike.fillLevel_eq]
    exact sound.handedOut_le
  · rw [← alike.fillLevel_eq, ← alike.capacity_eq]
    exact sound.fillLevel_le

theorem Alike.window_eq (alike : one.Alike two) :
    two.window = { one.window with skipped := two.skipped } := by
  simp only [window, alike.capacity_eq, alike.filled_eq, alike.handedOut_eq]

theorem Alike.pending_eq (alike : one.Alike two) :
    one.pending = two.pending := by
  rw [two.pending_eq, alike.window_eq]
  rfl

theorem Alike.unfilled_eq (alike : one.Alike two) :
    one.unfilled = two.unfilled := by
  rw [unfilled, unfilled, alike.capacity_eq, alike.fillLevel_eq]

theorem alike_of_windows {capacity handedOut skipped skipped' : Nat}
    {filled : Bytes} (sound : one.Sound) (sound' : two.Sound)
    (windowEq : one.window = ⟨capacity, filled, handedOut, skipped⟩)
    (windowEq' : two.window = ⟨capacity, filled, handedOut, skipped'⟩) :
    one.Alike two := by
  have filledEq : one.filled = two.filled :=
    (congrArg Window.filled windowEq).trans
      (congrArg Window.filled windowEq').symm
  constructor
  · exact (congrArg Window.capacity windowEq).trans
      (congrArg Window.capacity windowEq').symm
  · rw [← sound.length_filled, ← sound'.length_filled, filledEq]
  · exact (congrArg Window.handedOut windowEq).trans
      (congrArg Window.handedOut windowEq').symm
  · exact filledEq

theorem even_start (alike : one.Alike two) (sound : one.Sound) :
    Even one two one two :=
  ⟨alike, sound, 0, rfl, rfl⟩

namespace Even

theorem sound_other (even : Even past past' one two) : two.Sound :=
  even.toAlike.sound even.sound

/-- What actions come to that go by the window alone. -/
theorem agree {α : Type} {first second : Outcome Reader α}
    {result : Except Fault α} {filled : Bytes} {handedOut : Nat}
    (even : Even past past' one two) (more : Nat)
    (reaches : Reaches first result
      ⟨one.capacity, filled, handedOut, one.skipped + more⟩)
    (reaches' : Reaches second result
      ⟨one.capacity, filled, handedOut, two.skipped + more⟩) :
    Outcome.Agree (Even past past') first second := by
  obtain ⟨earlier, skipped, skipped'⟩ := even.skipped
  refine ⟨reaches.result_eq.trans reaches'.result_eq.symm, ?_⟩
  refine ⟨alike_of_windows reaches.sound reaches'.sound reaches.window_eq
    reaches'.window_eq, reaches.sound, earlier + more, ?_, ?_⟩
  · rw [← Nat.add_assoc, ← skipped]
    exact congrArg Window.skipped reaches.window_eq
  · rw [← Nat.add_assoc, ← skipped']
    exact congrArg Window.skipped reaches'.window_eq

/-! ## Operations -/

theorem receive (even : Even past past' one two) (bytes : Bytes) :
    Outcome.Agree (Even past past') ((Reader.receive bytes).run one)
      ((Reader.receive bytes).run two) := by
  by_cases fits : bytes.length ≤ one.unfilled
  · have receives := receive_reaches even.sound fits
    have receives' := receive_reaches even.sound_other
      (even.unfilled_eq ▸ fits)
    rw [even.window_eq, ← even.filled_eq] at receives'
    exact even.agree 0 receives receives'
  · rw [receive_refused fits, receive_refused (even.unfilled_eq ▸ fits)]
    exact ⟨rfl, even⟩

theorem feed (even : Even past past' one two) (bytes : Bytes) :
    Outcome.Agree (Even past past') ((Reader.feed bytes).run one)
      ((Reader.feed bytes).run two) := by
  have fits : (bytes.take one.unfilled).length ≤ one.unfilled :=
    List.length_take_le _ _
  have fits' := Nat.le_trans fits (Nat.le_of_eq even.unfilled_eq)
  have feeds := feed_reaches even.sound fits
  have feeds' := feed_reaches even.sound_other fits'
  rw [even.window_eq, ← even.filled_eq] at feeds'
  rw [feed_run_take even.sound, feed_run_take even.sound_other,
    ← even.unfilled_eq]
  exact even.agree 0 feeds feeds'

theorem store (even : Even past past' one two) (bytes : Bytes) :
    Outcome.Agree (Even past past') ((Reader.store bytes).run one)
      ((Reader.store bytes).run two) := by
  have stores := store_reaches even.sound bytes
  have stores' := store_reaches even.sound_other bytes
  rw [even.window_eq, ← even.unfilled_eq] at stores'
  exact even.agree 0 stores stores'

theorem dropGarbage (even : Even past past' one two) :
    Outcome.Agree (Even past past') (Reader.dropGarbage.run one)
      (Reader.dropGarbage.run two) := by
  have drops := dropGarbage_reaches even.sound
  have drops' := dropGarbage_reaches even.sound_other
  rw [even.window_eq, ← even.pending_eq] at drops'
  exact even.agree _ drops drops'

theorem poll (even : Even past past' one two) :
    Outcome.Agree (Even past past') (Reader.poll.run one)
      (Reader.poll.run two) := by
  have polls := poll_reaches even.sound
  have polls' := poll_reaches even.sound_other
  rw [even.window_eq, ← even.pending_eq, ← even.capacity_eq] at polls'
  exact even.agree _ polls polls'

theorem reset (even : Even past past' one two) :
    Outcome.Agree (Even past past') (Reader.reset.run one)
      (Reader.reset.run two) := by
  have resets := reset_reaches one
  have resets' := reset_reaches two
  rw [even.window_eq] at resets'
  exact even.agree 0 resets resets'

theorem take (even : Even past past' one two) {size : Nat}
    (positive : 0 < size)
    (buffered : one.handedOut + size ≤ one.fillLevel) :
    Outcome.Agree (Even past past') ((Reader.take size).run one)
      ((Reader.take size).run two) := by
  have buffered' : two.handedOut + size ≤ two.fillLevel := by
    rw [← even.handedOut_eq, ← even.fillLevel_eq]
    exact buffered
  have takes := take_reaches even.sound positive buffered
  have takes' := take_reaches even.sound_other positive buffered'
  rw [even.window_eq, ← even.filled_eq, ← even.handedOut_eq] at takes'
  exact even.agree 0 takes takes'

end Even

end ActuatorBus.Reader
