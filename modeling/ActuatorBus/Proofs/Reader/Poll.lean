import ActuatorBus.Proofs.Reader.Window
import ActuatorBus.Proofs.Runs
import ActuatorBus.Proofs.Stream.Announcement

/-!
# Looking for messages

What `poll` and `take` come to, in terms of the pending bytes. A poll brings
the first byte at which a message may begin to the front, and answers what the
bytes from there on announce; taking a message gives the event of its bytes.
-/

namespace ActuatorBus

namespace Stream

/-! ## Headers with a bad length -/

theorem start_eq_headerPosition_add (bytes : Bytes) :
    start bytes =
      Packet.headerPosition bytes +
        start (bytes.drop (Packet.headerPosition bytes)) := by
  fun_induction Packet.headerPosition bytes with
  | case1 => rfl
  | case2 => simp
  | case3 b noHeader => simp [start, mayBegin, noHeader]
  | case4 b c rest header => simp
  | case5 b c rest noHeader inductionHypothesis =>
      have garbage : mayBegin (b :: c :: rest) = false := by
        rw [Bool.eq_false_iff]
        intro begins
        simp only [mayBegin, Bool.and_eq_true, beq_iff_eq] at begins
        exact noHeader begins.1
      rw [start_cons_of_not_mayBegin garbage, inductionHypothesis,
        List.drop_succ_cons]
      omega

theorem headerPosition_drop (bytes : Bytes) :
    Packet.headerPosition (bytes.drop (Packet.headerPosition bytes)) = 0 := by
  fun_induction Packet.headerPosition bytes with
  | case1 => rfl
  | case2 => rfl
  | case3 b noHeader => rfl
  | case4 b c rest header =>
      simp only [List.drop_zero, Packet.headerPosition, header, and_self,
        if_true]
  | case5 b c rest noHeader inductionHypothesis =>
      simpa using inductionHypothesis

/-- A header without its length byte may begin a message. -/
theorem start_of_unheaded {bytes : Bytes}
    (header : Packet.headerPosition bytes = 0)
    (short : bytes.length < Packet.headerSize) :
    start bytes = 0 := by
  match bytes, header, short with
  | [], _, _ => rfl
  | [b], header, _ =>
      have first : b = Packet.headerByte := by
        simpa [Packet.headerPosition] using header
      simp [start, mayBegin, first]
  | [b, c], header, _ =>
      have both : b = Packet.headerByte ∧ c = Packet.headerByte := by
        simpa [Packet.headerPosition] using header
      simp [start, mayBegin, both.1, both.2]
  | [b, c, d], header, _ =>
      have both : b = Packet.headerByte ∧ c = Packet.headerByte := by
        simpa [Packet.headerPosition] using header
      simp [start, mayBegin, both.1, both.2]
  | _ :: _ :: _ :: _ :: rest, _, short =>
      simp only [List.length_cons, Packet.headerSize] at short
      omega

/-- A header with its length byte may begin a message if the length counts
the code and the checksum; else the first byte is garbage. -/
theorem start_of_headed {bytes : Bytes} {length : UInt8}
    (header : Packet.headerPosition bytes = 0)
    (headed : bytes[Packet.lengthPosition]? = some length) :
    start bytes = if length < 2 then start (bytes.drop 1) + 1 else 0 := by
  match bytes, header, headed with
  | b :: c :: d :: found :: rest, header, headed =>
      have both : b = Packet.headerByte ∧ c = Packet.headerByte := by
        simpa [Packet.headerPosition] using header
      have same : found = length := by
        simpa [Packet.lengthPosition] using headed
      subst same
      by_cases bad : found < 2
      · have garbage : mayBegin (b :: c :: d :: found :: rest) = false := by
          simp [mayBegin, UInt8.not_le.2 bad]
        rw [start_cons_of_not_mayBegin garbage, if_pos bad, List.drop_one,
          List.tail_cons]
      · have good : 2 ≤ found := UInt8.not_lt.1 bad
        simp [start, mayBegin, both.1, both.2, good, bad]

end Stream

namespace Reader

open ActuatorBus.Stream

/-! ## Polling -/

/-- The window with the pending bytes from a position on at the front. -/
def Window.dropTo (window : Window) (position : Nat) : Window :=
  { window with
    filled := window.pending.drop position
    handedOut := 0
    skipped := window.skipped + position }

theorem Window.pending_dropTo (window : Window) (position : Nat) :
    (window.dropTo position).pending = window.pending.drop position := rfl

theorem Window.dropTo_dropTo (window : Window) (first second : Nat) :
    (window.dropTo first).dropTo second = window.dropTo (first + second) := by
  simp only [dropTo, pending, List.drop_drop, Nat.zero_add, Nat.add_assoc]

/-- Counting bytes as skipped and dropping them together with those handed
out. -/
private theorem skip_reaches {reader : Reader} (sound : reader.Sound)
    {count : Nat} (buffered : count ≤ reader.pending.length) :
    Reaches
      ((dropFront (reader.handedOut + count)).run
        { reader with skipped := reader.skipped + count })
      (.ok ()) (reader.window.dropTo count) := by
  rw [sound.length_pending] at buffered
  have ordered := sound.handedOut_le
  have soundCounted :
      Sound { reader with skipped := reader.skipped + count } :=
    ⟨ordered, sound.fillLevel_le⟩
  have dropped := dropFront_reaches soundCounted
    (show reader.handedOut + count ≤ reader.fillLevel by omega)
  have windows :
      reader.window.dropTo count =
        { window { reader with skipped := reader.skipped + count } with
          filled := reader.filled.drop (reader.handedOut + count)
          handedOut := reader.handedOut - (reader.handedOut + count) } := by
    simp [Window.dropTo, Window.pending, window, filled, capacity]
  rw [windows]
  exact dropped

theorem dropGarbage_reaches {reader : Reader} (sound : reader.Sound) :
    Reaches (dropGarbage.run reader)
      (.ok (Packet.headerPosition reader.pending))
      (reader.window.dropTo (Packet.headerPosition reader.pending)) := by
  have skipped := skip_reaches sound (Packet.headerPosition_le reader.pending)
  generalize garbageEq : Packet.headerPosition reader.pending = garbage at *
  rcases ran :
      (dropFront (reader.handedOut + garbage)).run
        { reader with skipped := reader.skipped + garbage } with
    ⟨result, next, notes⟩
  rw [ran] at skipped
  obtain ⟨resultEq, windowEq, soundNext⟩ := skipped
  simp only at resultEq windowEq soundNext
  subst resultEq
  have fresh : next.handedOut = 0 := congrArg Window.handedOut windowEq
  cases garbage with
  | zero =>
      simp only [Nat.add_zero] at ran
      constructor <;>
        simp [dropGarbage, garbageEq, ran, windowEq, soundNext, fresh]
  | succ garbage =>
      constructor <;>
        simp [dropGarbage, garbageEq, ran, windowEq, soundNext, fresh]

/-- What a look does once the garbage is dropped. -/
private def inspect : Act Reader (Option (Option Nat)) := do
  let reader ← Act.get
  if reader.fillLevel < Packet.headerSize then return some none
  match reader.buffer[Packet.lengthPosition]? with
  | none => Act.fail .indexOutOfRange
  | some length =>
    if length < 2 then
      Act.note (.ignoredHeader length.toNat)
      Act.set { reader with skipped := reader.skipped + 1 }
      dropFront 1
      return none
    else
      let size := Packet.headerSize + length.toNat
      Act.ofExcept (checkBufferSize size reader.capacity)
      return some (if size ≤ reader.fillLevel then some size else none)

private theorem look_eq : look = dropGarbage >>= fun _ => inspect := rfl

private theorem lengthByte_eq {reader : Reader} {length : UInt8}
    (sound : reader.Sound)
    (headed : reader.filled[Packet.lengthPosition]? = some length) :
    ¬ reader.fillLevel < Packet.headerSize ∧
      reader.buffer[Packet.lengthPosition]? = some length := by
  have inside := (List.getElem?_eq_some_iff.1 headed).1
  rw [sound.length_filled] at inside
  constructor
  · simp only [Packet.lengthPosition, Packet.headerSize] at inside ⊢
    omega
  · rw [← headed, filled, List.getElem?_take_of_lt inside]

/-- With a usable length byte, or none yet, nothing is dropped. -/
private theorem inspect_run {reader : Reader} (sound : reader.Sound)
    (usable : ∀ length,
      reader.filled[Packet.lengthPosition]? = some length →
        ¬ length < 2) :
    inspect.run reader =
      ⟨(announced reader.capacity reader.filled).map some, reader, []⟩ := by
  have filledLength := sound.length_filled
  cases found : reader.filled[Packet.lengthPosition]? with
  | none =>
      have short : reader.fillLevel < Packet.headerSize := by
        have beyond := List.getElem?_eq_none_iff.1 found
        simp only [Packet.lengthPosition, Packet.headerSize] at beyond ⊢
        omega
      simp [inspect, short, announced, found, Except.map]
  | some length =>
      obtain ⟨long, lengthByte⟩ := lengthByte_eq sound found
      have good := usable length found
      by_cases large :
          reader.capacity < Packet.headerSize + length.toNat
      · have refused :
            checkBufferSize ((Packet.headerSize : Int) + length.toNat)
                reader.capacity =
              .error (.bufferTooSmall (Packet.headerSize + length.toNat)
                reader.capacity) := by
          rw [checkBufferSize, if_neg (by omega)]
        simp [inspect, long, lengthByte, good, announced, found, Except.map,
          refused, large]
      · have accepted :
            checkBufferSize ((Packet.headerSize : Int) + length.toNat)
                reader.capacity = .ok () := by
          rw [checkBufferSize, if_pos (by omega)]
        simp [inspect, long, lengthByte, good, announced, found, Except.map,
          accepted, large, filledLength]

private theorem inspect_reaches {reader : Reader} (sound : reader.Sound)
    (usable : ∀ length,
      reader.filled[Packet.lengthPosition]? = some length →
        ¬ length < 2) :
    Reaches (inspect.run reader)
      ((announced reader.capacity reader.filled).map some)
      reader.window := by
  rw [inspect_run sound usable]
  exact ⟨rfl, rfl, sound⟩

private theorem inspect_reaches_of_bad {reader : Reader} {length : UInt8}
    (sound : reader.Sound)
    (fresh : reader.handedOut = 0)
    (headed : reader.filled[Packet.lengthPosition]? = some length)
    (bad : length < 2) :
    Reaches (inspect.run reader) (.ok none) (reader.window.dropTo 1) := by
  obtain ⟨long, lengthByte⟩ := lengthByte_eq sound headed
  have buffered : 1 ≤ reader.pending.length := by
    rw [sound.length_pending, fresh]
    simp only [Packet.headerSize] at long
    omega
  have dropped := skip_reaches sound buffered
  obtain ⟨buffer, fillLevel, handedOut, skipped⟩ := reader
  simp only at fresh
  subst fresh
  simp only [Nat.zero_add] at dropped
  rcases ran :
      (dropFront 1).run ⟨buffer, fillLevel, 0, skipped + 1⟩ with
    ⟨result, next, notes⟩
  rw [ran] at dropped
  obtain ⟨resultEq, windowEq, soundNext⟩ := dropped
  simp only at resultEq windowEq soundNext lengthByte
  subst resultEq
  constructor <;>
    simp [inspect, long, lengthByte, bad, ran, windowEq, soundNext]

/-- A look drops up to the header found. If its length byte is bad, the look
drops one byte more and has to be repeated; otherwise it dropped exactly what
lies before the first byte at which a message may begin. -/
private theorem look_reaches {reader : Reader} (sound : reader.Sound) :
    (∃ dropped,
      Reaches (look.run reader) (.ok none) (reader.window.dropTo dropped) ∧
        0 < dropped ∧ dropped ≤ reader.pending.length ∧
        start reader.pending =
          dropped + start (reader.pending.drop dropped)) ∨
      Reaches (look.run reader)
        ((announced reader.capacity
          (reader.pending.drop (start reader.pending))).map some)
        (reader.window.dropTo (start reader.pending)) := by
  have garbage := dropGarbage_reaches sound
  have whole := start_eq_headerPosition_add reader.pending
  have header := headerPosition_drop reader.pending
  have bound := Packet.headerPosition_le reader.pending
  generalize Packet.headerPosition reader.pending = position at *
  have parts : ∀ state : Reader,
      state.window = reader.window.dropTo position →
        state.capacity = reader.capacity ∧ state.handedOut = 0 ∧
          state.filled = reader.pending.drop position := by
    intro state windowEq
    exact ⟨congrArg Window.capacity windowEq,
      congrArg Window.handedOut windowEq, congrArg Window.filled windowEq⟩
  by_cases badLength : ∃ length,
      (reader.pending.drop position)[Packet.lengthPosition]? = some length ∧
        length < 2
  · obtain ⟨length, headed, bad⟩ := badLength
    have inside := (List.getElem?_eq_some_iff.1 headed).1
    rw [List.length_drop] at inside
    have startEq := start_of_headed header headed
    rw [if_pos bad, List.drop_drop] at startEq
    refine Or.inl ⟨position + 1, ?_, by omega, by omega, by omega⟩
    rw [look_eq]
    refine garbage.bind fun state soundState windowEq => ?_
    obtain ⟨_, fresh, filledEq⟩ := parts state windowEq
    have dropped :=
      inspect_reaches_of_bad soundState fresh (filledEq ▸ headed) bad
    rwa [windowEq, Window.dropTo_dropTo] at dropped
  · have usable : ∀ length,
        (reader.pending.drop position)[Packet.lengthPosition]? =
          some length → ¬ length < 2 := fun length headed bad =>
      badLength ⟨length, headed, bad⟩
    have atFront : start (reader.pending.drop position) = 0 := by
      cases found :
          (reader.pending.drop position)[Packet.lengthPosition]? with
      | none =>
          have beyond := List.getElem?_eq_none_iff.1 found
          refine start_of_unheaded header ?_
          simp only [Packet.lengthPosition, Packet.headerSize] at beyond ⊢
          omega
      | some length =>
          rw [start_of_headed header found, if_neg (usable length found)]
    have positionEq : start reader.pending = position := by omega
    rw [positionEq, look_eq]
    refine Or.inr (garbage.bind fun state soundState windowEq => ?_)
    obtain ⟨sameCapacity, _, filledEq⟩ := parts state windowEq
    rw [← filledEq] at usable
    have answered := inspect_reaches soundState usable
    rwa [windowEq, sameCapacity, filledEq] at answered

theorem untilSome_look_reaches (patience : Nat) :
    ∀ {reader : Reader}, reader.Sound →
      reader.pending.length < patience →
        Reaches ((Act.untilSome patience look).run reader)
          (announced reader.capacity
            (reader.pending.drop (start reader.pending)))
          (reader.window.dropTo (start reader.pending)) := by
  induction patience with
  | zero =>
      intro reader _ enough
      exact absurd enough (Nat.not_lt_zero _)
  | succ patience inductionHypothesis =>
      intro reader sound enough
      rw [Act.untilSome_succ]
      rcases look_reaches sound with
        ⟨dropped, looked, positive, bound, startEq⟩ | looked
      · refine looked.bind fun state soundState windowEq => ?_
        have sameCapacity : state.capacity = reader.capacity :=
          congrArg Window.capacity windowEq
        have pendingEq : state.pending = reader.pending.drop dropped := by
          rw [pending_eq, windowEq, Window.pending_dropTo, pending_eq]
        have shorter : state.pending.length < patience := by
          rw [pendingEq, List.length_drop]
          omega
        have rest := inductionHypothesis soundState shorter
        rwa [sameCapacity, pendingEq, windowEq, Window.dropTo_dropTo,
          List.drop_drop, ← startEq] at rest
      · cases answer :
            announced reader.capacity
              (reader.pending.drop (start reader.pending)) with
        | error fault =>
            rw [answer] at looked
            exact looked.bind_error
        | ok found =>
            rw [answer] at looked
            refine looked.bind fun state soundState windowEq => ?_
            exact ⟨rfl, windowEq, soundState⟩

theorem poll_eq_untilSome (reader : Reader) :
    poll.run reader =
      (Act.untilSome (reader.fillLevel + 1) look).run reader := by
  simp [poll]

/-- A poll brings the first byte at which a message may begin to the front and
answers what is announced there. -/
theorem poll_reaches {reader : Reader} (sound : reader.Sound) :
    Reaches (poll.run reader)
      (announced reader.capacity
        (reader.pending.drop (start reader.pending)))
      (reader.window.dropTo (start reader.pending)) := by
  have enough : reader.pending.length < reader.fillLevel + 1 := by
    rw [sound.length_pending]
    omega
  rw [poll_eq_untilSome]
  exact untilSome_look_reaches (reader.fillLevel + 1) sound enough

/-- A message that a poll announced can be taken. -/
theorem poll_buffers {reader : Reader} {size : Nat} (sound : reader.Sound)
    (found : (poll.run reader).result = .ok (some size)) :
    let polled := (poll.run reader).state
    polled.handedOut = 0 ∧ 0 < size ∧
      polled.handedOut + size ≤ polled.fillLevel := by
  intro polled
  have reaches := poll_reaches sound
  have nothingOut : polled.handedOut = 0 :=
    congrArg Window.handedOut reaches.window_eq
  have filledEq : polled.filled = reader.pending.drop (start reader.pending) :=
    congrArg Window.filled reaches.window_eq
  obtain ⟨positive, whole⟩ :=
    announced_some (reaches.result_eq.symm.trans found)
  refine ⟨nothingOut, positive, ?_⟩
  rw [nothingOut, Nat.zero_add, ← reaches.sound.length_filled, filledEq]
  exact whole

/-! ## Polling again -/

/-- The first byte at which a message may begin is at the front of the
buffer. -/
structure Aligned (reader : Reader) : Prop where
  sound : reader.Sound
  nothingOut : reader.handedOut = 0
  atFront : start reader.pending = 0

theorem aligned_poll {reader : Reader} (sound : reader.Sound) :
    (poll.run reader).state.Aligned := by
  have reaches := poll_reaches sound
  have pendingEq : (poll.run reader).state.pending =
      reader.pending.drop (start reader.pending) :=
    congrArg Window.pending reaches.window_eq
  refine ⟨reaches.sound, congrArg Window.handedOut reaches.window_eq, ?_⟩
  rw [pendingEq, start_drop_start]

namespace Aligned

variable {reader : Reader}

theorem pending_eq (aligned : reader.Aligned) :
    reader.pending = reader.filled := by
  rw [Reader.pending_eq, Window.pending]
  exact congrArg (reader.filled.drop ·) aligned.nothingOut

theorem headerPosition_eq (aligned : reader.Aligned) :
    Packet.headerPosition reader.pending = 0 := by
  have both := start_eq_headerPosition_add reader.pending
  rw [aligned.atFront] at both
  omega

theorem dropGarbage_run (aligned : reader.Aligned) :
    dropGarbage.run reader = ⟨.ok 0, reader, []⟩ := by
  have whole : reader.buffer.slice 0 reader.fillLevel ++
      reader.buffer.drop reader.fillLevel = reader.buffer :=
    List.take_append_drop _ _
  have nothing : (dropFront 0).run reader = ⟨.ok (), reader, []⟩ := by
    simp [dropFront, whole]
  simp [dropGarbage, aligned.headerPosition_eq, aligned.nothingOut, nothing]

/-- A length byte that is there counts the code and the checksum. -/
theorem lengthByte_ge (aligned : reader.Aligned) {length : UInt8}
    (headed : reader.pending[Packet.lengthPosition]? = some length) :
    ¬ length < 2 := by
  intro bad
  have startEq := start_of_headed aligned.headerPosition_eq headed
  rw [aligned.atFront, if_pos bad] at startEq
  omega

theorem look_run (aligned : reader.Aligned) :
    look.run reader =
      ⟨(announced reader.capacity reader.pending).map some, reader, []⟩ := by
  have usable : ∀ length,
      reader.filled[Packet.lengthPosition]? = some length →
        ¬ length < 2 := by
    intro length headed
    rw [← aligned.pending_eq] at headed
    exact aligned.lengthByte_ge headed
  have inspected := inspect_run aligned.sound usable
  rw [← aligned.pending_eq] at inspected
  rw [look_eq, Act.run_bind, aligned.dropGarbage_run, Outcome.andThen_ok,
    inspected, List.nil_append]

/-- Polling again changes nothing, and nothing is noted. -/
theorem poll_run (aligned : reader.Aligned) :
    poll.run reader =
      ⟨announced reader.capacity reader.pending, reader, []⟩ := by
  rw [poll_eq_untilSome]
  exact Act.untilSome_of_ends _ aligned.look_run reader.fillLevel

end Aligned

/-! ## Taking -/

/-- Taking a message gives the event of its bytes, and marks them as handed
out whatever the event is. -/
theorem take_reaches {reader : Reader} (sound : reader.Sound)
    {size : Nat} (positive : 0 < size)
    (buffered : reader.handedOut + size ≤ reader.fillLevel) :
    Reaches ((take size).run reader)
      (Event.ofMessage (reader.filled.take size)).outcome
      { reader.window with handedOut := reader.handedOut + size } := by
  have inside := sound.fillLevel_le
  unfold capacity at inside
  have message :
      reader.filled.take size = reader.buffer.take size := by
    rw [filled, List.take_take, Nat.min_eq_left (by omega)]
  have bounded : size - 1 < reader.buffer.length := by omega
  have last :
      (reader.buffer.take size).getLast? =
        some (reader.buffer[size - 1]) := by
    rw [List.getLast?_eq_getElem?, List.length_take,
      Nat.min_eq_left (by omega),
      List.getElem?_take_of_lt (by omega), List.getElem?_eq_getElem bounded]
  have body : (reader.buffer.take size).dropLast =
      reader.buffer.take (size - 1) := by
    rw [List.dropLast_eq_take, List.length_take, List.take_take,
      Nat.min_eq_left (by omega : size ≤ reader.buffer.length),
      Nat.min_eq_left (by omega)]
  have soundNext :
      Sound { reader with handedOut := reader.handedOut + size } :=
    ⟨buffered, sound.fillLevel_le⟩
  rw [message, Event.outcome_ofMessage last, body]
  by_cases valid :
      reader.buffer[size - 1] =
        Packet.checksum ((reader.buffer.take (size - 1)).drop
          Packet.idPosition)
  · constructor <;>
      simp [take, positive, List.getElem?_eq_getElem bounded, Bytes.slice,
        ← valid, window, capacity, filled, soundNext]
  · have refused := beq_eq_false_iff_ne.2 valid
    constructor <;>
      simp [take, positive, List.getElem?_eq_getElem bounded, Bytes.slice,
        valid, refused, window, capacity, filled, soundNext]

end Reader

end ActuatorBus
