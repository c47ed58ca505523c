import ActuatorBus.Proofs.Results
import ActuatorBus.Reader

/-!
# The window of a reader

A reader is seen through its window: the size of its buffer, the filled bytes,
how many of them were handed out, and how many bytes were skipped. The bytes
behind the fill level are not in it, so that what is proved about windows holds
whatever these bytes are.

A reader is sound if its two marks are in order. `Reaches` says what an action
comes to, in terms of the window; each operation has one lemma of this form.
-/

namespace ActuatorBus.Reader

/-- What can be seen of a reader. -/
structure Window where
  capacity : Nat
  filled : Bytes
  handedOut : Nat
  skipped : Nat
deriving DecidableEq, Repr

/-- The window of a reader. -/
def window (reader : Reader) : Window :=
  ⟨reader.capacity, reader.filled, reader.handedOut, reader.skipped⟩

/-- The filled bytes that were not handed out yet. -/
def Window.pending (window : Window) : Bytes :=
  window.filled.drop window.handedOut

/-- The bytes handed out are filled, and the filled bytes are in the buffer. -/
structure Sound (reader : Reader) : Prop where
  handedOut_le : reader.handedOut ≤ reader.fillLevel
  fillLevel_le : reader.fillLevel ≤ reader.capacity

theorem pending_eq (reader : Reader) :
    reader.pending = reader.window.pending := rfl

theorem Sound.length_filled {reader : Reader} (sound : reader.Sound) :
    reader.filled.length = reader.fillLevel := by
  have bound := sound.fillLevel_le
  unfold capacity at bound
  simp only [filled, List.length_take]
  omega

theorem Sound.length_pending {reader : Reader} (sound : reader.Sound) :
    reader.pending.length = reader.fillLevel - reader.handedOut := by
  rw [pending_eq, Window.pending, List.length_drop]
  exact congrArg (· - reader.handedOut) sound.length_filled

theorem Sound.pending_append {reader next : Reader} (sound : reader.Sound)
    {bytes : Bytes}
    (windowEq : next.window =
      { reader.window with filled := reader.filled ++ bytes }) :
    next.pending = reader.pending ++ bytes := by
  have bound : reader.handedOut ≤ reader.filled.length := by
    rw [sound.length_filled]
    exact sound.handedOut_le
  rw [pending_eq, windowEq]
  exact List.drop_append_of_le_length bound

variable {α β : Type}

/-- An action gave a result, left a window, and kept the marks in order. -/
structure Reaches (outcome : Outcome Reader α) (result : Except Fault α)
    (window : Window) : Prop where
  result_eq : outcome.result = result
  window_eq : outcome.state.window = window
  sound : outcome.state.Sound

theorem Reaches.bind {first : Act Reader α} {next : α → Act Reader β}
    {reader : Reader} {value : α} {result : Except Fault β}
    {middle final : Window}
    (firstReaches : Reaches (first.run reader) (.ok value) middle)
    (nextReaches : ∀ state : Reader,
      state.Sound → state.window = middle →
        Reaches ((next value).run state) result final) :
    Reaches ((first >>= next).run reader) result final := by
  rcases ran : first.run reader with ⟨given, state, notes⟩
  rw [ran] at firstReaches
  obtain ⟨resultEq, windowEq, sound⟩ := firstReaches
  simp only at resultEq
  subst resultEq
  obtain ⟨nextResult, nextWindow, nextSound⟩ :=
    nextReaches state sound windowEq
  constructor <;> simp [*]

theorem Reaches.bind_error {first : Act Reader α} {next : α → Act Reader β}
    {reader : Reader} {fault : Fault} {final : Window}
    (firstReaches : Reaches (first.run reader) (.error fault) final) :
    Reaches ((first >>= next).run reader) (.error fault) final := by
  rcases ran : first.run reader with ⟨given, state, notes⟩
  rw [ran] at firstReaches
  obtain ⟨resultEq, windowEq, sound⟩ := firstReaches
  simp only at resultEq
  subst resultEq
  constructor <;> simp_all

/-! ## New readers -/

theorem allocate_integer {n : Int} {buffer : Bytes}
    (allocated : Bytes.allocate (.integer n) = .ok buffer) :
    buffer = List.replicate n.toNat 0 := by
  simp only [Bytes.allocate, Value.needCount, Value.whole?,
    Value.Whole.toInt, ok_bind] at allocated
  by_cases negative : n < 0
  · simp [negative] at allocated
  · by_cases uncountable : uncountableSize ≤ n
    · simp [negative, uncountable] at allocated
    · by_cases unavailable : unavailableSize ≤ n
      · simp [negative, uncountable, unavailable] at allocated
      · simp only [negative, uncountable, unavailable, if_false] at allocated
        exact (Except.ok.inj allocated).symm

/-- A buffer that passed the check of its size was given as an integer. -/
theorem allocate_eq {required : Nat} {size : Value} {buffer : Bytes}
    (several : 1 < required)
    (checked : checkRoom (.integer required) size = .ok ())
    (allocated : Bytes.allocate size = .ok buffer) :
    ∃ room, required ≤ room ∧ buffer = List.replicate room 0 := by
  cases size with
  | number value =>
      cases value with
      | integer n =>
          have enough : (required : Int) ≤ n := by
            by_cases small : n < required
            · simp [checkRoom, Value.less, small] at checked
            · omega
          exact ⟨n.toNat, by omega, allocate_integer allocated⟩
      | real x =>
          simp [Bytes.allocate, Value.needCount, Value.whole?] at allocated
  | flag value =>
      have small :
          (Value.flag value).less (.integer required) = .ok true := by
        cases value <;>
          simp [Value.less, Value.less?, Value.number?, Number.lt] <;> omega
      simp [checkRoom, small] at checked
  | _ => simp [checkRoom, Value.less, Value.less?] at checked

theorem ofSize_eq {size : Value} {reader : Reader}
    (opened : ofSize size = .ok reader) :
    ∃ room, Packet.minimumSize ≤ room ∧
      reader = ⟨List.replicate room 0, 0, 0, 0⟩ := by
  obtain ⟨_, checked, rest⟩ := bind_eq_ok_iff.1 opened
  obtain ⟨buffer, allocated, made⟩ := bind_eq_ok_iff.1 rest
  obtain ⟨room, enough, rfl⟩ :=
    allocate_eq (by decide) checked allocated
  rw [pure_eq_ok, Except.ok.injEq] at made
  exact ⟨room, enough, made.symm⟩

theorem ofSize_sound {size : Value} {reader : Reader}
    (opened : ofSize size = .ok reader) :
    reader.Sound ∧ Packet.minimumSize ≤ reader.capacity ∧
      reader.pending = [] := by
  obtain ⟨room, enough, rfl⟩ := ofSize_eq opened
  refine ⟨⟨Nat.le_refl 0, Nat.zero_le _⟩, ?_, rfl⟩
  simpa only [capacity, List.length_replicate] using enough

/-! ## Filling -/

theorem reset_reaches (reader : Reader) :
    Reaches (reset.run reader) (.ok ())
      { reader.window with filled := [], handedOut := 0 } :=
  ⟨rfl, rfl, ⟨Nat.le_refl 0, Nat.zero_le _⟩⟩

private theorem window_overwrite {reader : Reader} (sound : reader.Sound)
    {bytes : Bytes} (fits : bytes.length ≤ reader.unfilled) :
    let next : Reader :=
      { reader with
        buffer := reader.buffer.overwrite reader.fillLevel bytes
        fillLevel := reader.fillLevel + bytes.length }
    next.window =
        { reader.window with filled := reader.filled ++ bytes } ∧
      next.Sound := by
  have inside := sound.fillLevel_le
  have ordered := sound.handedOut_le
  unfold unfilled at fits
  unfold capacity at inside fits
  have whole : bytes.take (reader.buffer.length - reader.fillLevel) = bytes :=
    List.take_of_length_le fits
  have lengths :
      (reader.buffer.overwrite reader.fillLevel bytes).length =
        reader.buffer.length := by
    simp only [Bytes.overwrite, whole, List.length_append, List.length_take,
      List.length_drop]
    omega
  have filledPart :
      (reader.buffer.overwrite reader.fillLevel bytes).take
          (reader.fillLevel + bytes.length) =
        reader.buffer.take reader.fillLevel ++ bytes := by
    have prefixLength :
        (reader.buffer.take reader.fillLevel ++ bytes).length =
          reader.fillLevel + bytes.length := by
      simp only [List.length_append, List.length_take]
      omega
    rw [Bytes.overwrite, whole, ← List.append_assoc,
      List.take_append_of_le_length (Nat.le_of_eq prefixLength.symm),
      List.take_of_length_le (Nat.le_of_eq prefixLength)]
  refine ⟨?_, ?_, ?_⟩
  · simp only [window, capacity, filled, lengths, filledPart]
  · exact Nat.le_add_right_of_le ordered
  · simp only [capacity, lengths]
    omega

theorem feed_reaches {reader : Reader} (sound : reader.Sound)
    {bytes : Bytes} (fits : bytes.length ≤ reader.unfilled) :
    Reaches ((feed bytes).run reader) (.ok bytes.length)
      { reader.window with filled := reader.filled ++ bytes } := by
  obtain ⟨windowEq, soundNext⟩ := window_overwrite sound fits
  have count : min bytes.length reader.unfilled = bytes.length :=
    Nat.min_eq_left fits
  have outcome :
      (feed bytes).run reader =
        ⟨.ok bytes.length,
          { reader with
            buffer := reader.buffer.overwrite reader.fillLevel bytes
            fillLevel := reader.fillLevel + bytes.length }, []⟩ := by
    simp only [feed, Act.run_bind, Act.run_get, Outcome.andThen_ok,
      if_pos sound.fillLevel_le, count, List.take_length, Act.run_set,
      Act.run_pure, List.append_nil]
  rw [outcome]
  exact ⟨rfl, windowEq, soundNext⟩

/-- Bytes without room for them are cut off. -/
theorem feed_run_take {reader : Reader} (sound : reader.Sound)
    (bytes : Bytes) :
    (feed bytes).run reader =
      (feed (bytes.take reader.unfilled)).run reader := by
  have count :
      min (bytes.take reader.unfilled).length reader.unfilled =
        min bytes.length reader.unfilled := by
    rw [List.length_take]
    omega
  have piece :
      (bytes.take reader.unfilled).take
          (min bytes.length reader.unfilled) =
        bytes.take (min bytes.length reader.unfilled) := by
    rw [List.take_take, Nat.min_eq_left (Nat.min_le_right _ _)]
  simp only [feed, Act.run_bind, Act.run_get, Outcome.andThen_ok,
    if_pos sound.fillLevel_le, count, piece, Act.run_set, Act.run_pure]

theorem store_reaches {reader : Reader} (sound : reader.Sound)
    (bytes : Bytes) :
    Reaches ((store bytes).run reader)
      (if bytes.length ≤ reader.unfilled then .ok ()
        else .error .lengthMismatch)
      reader.window := by
  by_cases fits : bytes.length ≤ reader.unfilled
  · rw [if_pos fits]
    have inside := sound.fillLevel_le
    unfold unfilled at fits
    unfold capacity at inside fits
    have lengths :
        (reader.buffer.overwrite reader.fillLevel bytes).length =
          reader.buffer.length := by
      simp only [Bytes.overwrite, List.length_append, List.length_take,
        List.length_drop]
      omega
    have filledPart :
        (reader.buffer.overwrite reader.fillLevel bytes).take
            reader.fillLevel =
          reader.buffer.take reader.fillLevel := by
      rw [Bytes.overwrite, List.take_append_of_le_length
        (Nat.le_of_eq (List.length_take_of_le inside).symm), List.take_take,
        Nat.min_self]
    have outcome :
        (store bytes).run reader =
          ⟨.ok (),
            { reader with
              buffer := reader.buffer.overwrite reader.fillLevel bytes },
            []⟩ := by
      simp [store, unfilled, capacity, fits]
    rw [outcome]
    refine ⟨rfl, ?_, sound.handedOut_le, ?_⟩
    · simp only [window, capacity, filled, lengths, filledPart]
    · simp only [capacity, lengths]
      exact inside
  · rw [if_neg fits]
    have outcome :
        (store bytes).run reader = ⟨.error .lengthMismatch, reader, []⟩ := by
      simp [store, fits]
    rw [outcome]
    exact ⟨rfl, rfl, sound⟩

/-- A commit counts the bytes behind the filled ones, or it is refused. -/
theorem commit_reaches {reader : Reader} (sound : reader.Sound)
    (given : Value) :
    (∃ fault, (fault = .unsuitable ∨ fault = .invalidReadCount given) ∧
      (commit given).run reader = ⟨.error fault, reader, []⟩) ∨
    ∃ count, given.needCount = .ok count ∧
      Reaches ((commit given).run reader) (.ok ())
        { reader.window with
          filled := reader.filled ++
            reader.buffer.slice reader.fillLevel
              (reader.fillLevel + count.toNat) } := by
  cases counted : given.needCount with
  | error fault =>
      refine Or.inl ⟨fault, Or.inl ?_, by simp [commit, counted]⟩
      unfold Value.needCount at counted
      split at counted
      · cases counted
      · cases counted
        rfl
  | ok count =>
      by_cases valid :
          0 ≤ count ∧ reader.fillLevel + count ≤ reader.capacity
      · have outcome :
            (commit given).run reader =
              ⟨.ok (),
                { reader with
                  fillLevel := reader.fillLevel + count.toNat }, []⟩ := by
          simp [commit, counted, valid]
        have ordered := sound.handedOut_le
        rw [outcome]
        refine Or.inr
          ⟨count, rfl, rfl, ?_, Nat.le_add_right_of_le ordered, ?_⟩
        · have earlier :
              reader.buffer.take reader.fillLevel =
                (reader.buffer.take
                  (reader.fillLevel + count.toNat)).take
                    reader.fillLevel := by
            rw [List.take_take, Nat.min_eq_left (Nat.le_add_right _ _)]
          simp only [window, capacity, filled, Bytes.slice,
            Window.mk.injEq, true_and, and_true]
          rw [earlier, List.take_append_drop]
        · simp only [capacity] at valid ⊢
          omega
      · have refused :
            (decide (0 ≤ count) &&
              decide (reader.fillLevel + count ≤ reader.capacity)) =
                false := by
          simpa using valid
        exact Or.inl ⟨_, Or.inr rfl, by simp [commit, counted, refused]⟩

theorem receive_refused {reader : Reader} {bytes : Bytes}
    (large : ¬ bytes.length ≤ reader.unfilled) :
    (receive bytes).run reader = ⟨.error .lengthMismatch, reader, []⟩ := by
  simp [receive, store, large]

theorem receive_reaches {reader : Reader} (sound : reader.Sound)
    {bytes : Bytes} (fits : bytes.length ≤ reader.unfilled) :
    Reaches ((receive bytes).run reader) (.ok ())
      { reader.window with filled := reader.filled ++ bytes } := by
  obtain ⟨windowEq, soundNext⟩ := window_overwrite sound fits
  have bound := soundNext.fillLevel_le
  simp only [capacity] at bound
  have counted :
      ((reader.fillLevel : Int) + bytes.length ≤
        (reader.buffer.overwrite reader.fillLevel bytes).length) := by
    omega
  have outcome :
      (receive bytes).run reader =
        ⟨.ok (),
          { reader with
            buffer := reader.buffer.overwrite reader.fillLevel bytes
            fillLevel := reader.fillLevel + bytes.length }, []⟩ := by
    simp [receive, store, commit, fits, Value.needCount, Value.whole?,
      Value.Whole.toInt, capacity, counted]
  rw [outcome]
  exact ⟨rfl, windowEq, soundNext⟩

/-! ## Dropping -/

theorem dropFront_reaches {reader : Reader} (sound : reader.Sound)
    {count : Nat} (buffered : count ≤ reader.fillLevel) :
    Reaches ((dropFront count).run reader) (.ok ())
      { reader.window with
        filled := reader.filled.drop count
        handedOut := reader.handedOut - count } := by
  have inside := sound.fillLevel_le
  have ordered := sound.handedOut_le
  unfold capacity at inside
  have shifted :
      (reader.buffer.slice count reader.fillLevel).length =
        reader.fillLevel - count := by
    simp only [Bytes.slice, List.length_drop, List.length_take]
    omega
  have lengths :
      (reader.buffer.slice count reader.fillLevel ++
          reader.buffer.drop (reader.fillLevel - count)).length =
        reader.buffer.length := by
    simp only [List.length_append, shifted, List.length_drop]
    omega
  have filledPart :
      (reader.buffer.slice count reader.fillLevel ++
          reader.buffer.drop (reader.fillLevel - count)).take
            (reader.fillLevel - count) =
        (reader.buffer.take reader.fillLevel).drop count := by
    rw [List.take_append_of_le_length (Nat.le_of_eq shifted.symm),
      List.take_of_length_le (Nat.le_of_eq shifted)]
    rfl
  have outcome :
      (dropFront count).run reader =
        ⟨.ok (),
          { reader with
            buffer := reader.buffer.slice count reader.fillLevel ++
              reader.buffer.drop (reader.fillLevel - count)
            fillLevel := reader.fillLevel - count
            handedOut := reader.handedOut - count }, []⟩ := by
    simp [dropFront, buffered]
  rw [outcome]
  refine ⟨rfl, ?_, ?_, ?_⟩
  · simp only [window, capacity, filled, lengths, filledPart]
  · exact Nat.sub_le_sub_right ordered count
  · simp only [capacity, lengths]
    omega

end ActuatorBus.Reader
