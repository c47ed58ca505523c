import ActuatorBus.Proofs.Reader.Poll

/-!
# Accounts of the bytes in a reader

A ledger goes with a reader and writes down what arrived since the last reset,
and how many of these bytes were skipped or handed out. Whatever is asked of
the reader, in whatever order, the rest of what arrived is pending
(`run_balances`).
-/

namespace ActuatorBus.Reader

open ActuatorBus.Stream

/-- What can be asked of a reader. -/
inductive Call where
  | feed (bytes : Bytes)
  /-- Bytes are placed behind the filled ones, and all of them are counted. -/
  | receive (bytes : Bytes)
  | store (bytes : Bytes)
  | commit (given : Value)
  | dropGarbage
  | poll
  | reset
  /-- The message that the last poll announced is taken, unless something else
  than more bytes came in between. -/
  | take
deriving DecidableEq, Repr

/-- By a call bytes may arrive, and nothing else comes of it. -/
def Call.Delivers : Call → Prop
  | .feed _ | .receive _ | .store _ | .commit _ => True
  | .dropGarbage | .poll | .reset | .take => False

/-- A reader with an account of its bytes. -/
structure Ledger where
  reader : Reader
  /-- The bytes that arrived since the last reset, in order. -/
  arrived : Bytes
  /-- The bytes that were skipped before the last reset. -/
  skippedBefore : Nat
  /-- The bytes of the messages taken since the last reset. -/
  taken : Nat
  /-- The size of the message that the last poll announced, as long as
  nothing but bytes came since then. -/
  awaited : Option Nat
  /-- The calls that stopped, with their faults. -/
  faults : List (Call × Fault)

namespace Ledger

/-- The ledger that begins with a reader. -/
def fresh (reader : Reader) : Ledger :=
  ⟨reader, [], reader.skipped, 0, none, []⟩

/-- The arrived bytes that are skipped or taken. -/
def gone (ledger : Ledger) : Nat :=
  ledger.reader.skipped - ledger.skippedBefore + ledger.taken

/-- The ledger after a call by which some bytes arrived. -/
def post {α : Type} (ledger : Ledger) (call : Call)
    (outcome : Outcome Reader α) (arrivals : Bytes) : Ledger :=
  { ledger with
    reader := outcome.state
    arrived := ledger.arrived ++ arrivals
    faults := ledger.faults ++
      match outcome.result with
      | .ok _ => []
      | .error fault => [(call, fault)] }

/-- The bytes that a commit counts, unless it is refused. -/
def counted {α : Type} (reader : Reader) (given : Value)
    (result : Except Fault α) : Bytes :=
  match given.needCount, result with
  | .ok count, .ok _ =>
    reader.buffer.slice reader.fillLevel (reader.fillLevel + count.toNat)
  | _, _ => []

/-- The ledger after a call. Of the bytes fed those arrive that there is room
for; those to be received arrive if there is room for all of them. -/
def enter (ledger : Ledger) (call : Call) : Ledger :=
  match call with
  | .feed bytes =>
    ledger.post call ((Reader.feed bytes).run ledger.reader)
      (bytes.take ledger.reader.unfilled)
  | .receive bytes =>
    ledger.post call ((Reader.receive bytes).run ledger.reader)
      (if bytes.length ≤ ledger.reader.unfilled then bytes else [])
  | .store bytes =>
    ledger.post call ((Reader.store bytes).run ledger.reader) []
  | .commit given =>
    let outcome := (Reader.commit given).run ledger.reader
    ledger.post call outcome (counted ledger.reader given outcome.result)
  | .dropGarbage =>
    let outcome := Reader.dropGarbage.run ledger.reader
    { ledger.post call outcome [] with awaited := none }
  | .poll =>
    let outcome := Reader.poll.run ledger.reader
    { ledger.post call outcome [] with
      awaited := outcome.result.toOption.join }
  | .reset =>
    let outcome := Reader.reset.run ledger.reader
    { ledger.post call outcome [] with
      arrived := []
      skippedBefore := outcome.state.skipped
      taken := 0
      awaited := none }
  | .take =>
    match ledger.awaited with
    | none => ledger
    | some size =>
      let outcome := (Reader.take size).run ledger.reader
      { ledger.post call outcome [] with
        taken := ledger.taken + size
        awaited := none }

/-- The ledger after some calls. -/
def run (ledger : Ledger) (calls : List Call) : Ledger :=
  calls.foldl enter ledger

/-- The faults that calls of a reader can stop with. -/
inductive Lawful (capacity : Nat) : Call → Fault → Prop where
  | receive (bytes : Bytes) :
    Lawful capacity (.receive bytes) .lengthMismatch
  | store (bytes : Bytes) : Lawful capacity (.store bytes) .lengthMismatch
  | uncountable (given : Value) : Lawful capacity (.commit given) .unsuitable
  | invalidCount (given : Value) :
    Lawful capacity (.commit given) (.invalidReadCount given)
  | tooSmall (required : Nat) (large : capacity < required) :
    Lawful capacity .poll (.bufferTooSmall required capacity)
  | badChecksum (received computed : UInt8)
    (different : received ≠ computed) :
    Lawful capacity .take
      (.invalidChecksum received.toNat computed.toNat)

/-- What holds of every ledger. -/
structure Balanced (capacity : Nat) (ledger : Ledger) : Prop where
  sound : ledger.reader.Sound
  capacity_eq : ledger.reader.capacity = capacity
  skippedBefore_le : ledger.skippedBefore ≤ ledger.reader.skipped
  gone_le : ledger.gone ≤ ledger.arrived.length
  pending_eq : ledger.reader.pending = ledger.arrived.drop ledger.gone
  whole : ∀ size, ledger.awaited = some size →
    ledger.reader.handedOut = 0 ∧ 0 < size ∧
      size ≤ ledger.reader.pending.length
  lawful : ∀ call fault, (call, fault) ∈ ledger.faults →
    Lawful capacity call fault

variable {capacity : Nat} {ledger : Ledger} {call : Call} {α : Type}
  {outcome : Outcome Reader α} {result : Except Fault α}

/-- A call adds its fault, if there is one, to those before it. -/
theorem Balanced.lawful_post (balanced : Balanced capacity ledger)
    (resultEq : outcome.result = result)
    (stops : ∀ fault, result = .error fault → Lawful capacity call fault)
    (arrivals : Bytes) :
    ∀ other fault, (other, fault) ∈ (ledger.post call outcome arrivals).faults →
      Lawful capacity other fault := by
  intro other fault member
  simp only [post, resultEq] at member
  rcases List.mem_append.1 member with earlier | latest
  · exact balanced.lawful other fault earlier
  · cases result with
    | ok value => cases latest
    | error stopped =>
        obtain ⟨rfl, rfl⟩ := Prod.mk.inj (List.mem_singleton.1 latest)
        exact stops fault rfl

/-! ## Bytes that arrive -/

/-- The ledger after a call by which some bytes arrived behind the filled ones.
If the call stopped, it did so with a lawful fault. -/
inductive Delivery (capacity : Nat) (ledger : Ledger) (call : Call) :
    Ledger → Prop where
  | of {α : Type} {outcome : Outcome Reader α} {result : Except Fault α}
    {arrivals : Bytes}
    (reaches : Reaches outcome result
      { ledger.reader.window with
        filled := ledger.reader.filled ++ arrivals })
    (stops : ∀ fault, result = .error fault → Lawful capacity call fault) :
    Delivery capacity ledger call (ledger.post call outcome arrivals)

/-- A call by which nothing arrived. -/
theorem delivery_of_kept
    (reaches : Reaches outcome result ledger.reader.window)
    (stops : ∀ fault, result = .error fault → Lawful capacity call fault) :
    Delivery capacity ledger call (ledger.post call outcome []) := by
  apply Delivery.of _ stops
  rw [List.append_nil]
  exact reaches

theorem feed_delivery (sound : ledger.reader.Sound) (bytes : Bytes) :
    Delivery capacity ledger (.feed bytes) (ledger.enter (.feed bytes)) := by
  have fits :
      (bytes.take ledger.reader.unfilled).length ≤ ledger.reader.unfilled :=
    List.length_take_le _ _
  have reaches := feed_reaches sound fits
  rw [← feed_run_take sound] at reaches
  apply Delivery.of reaches
  intro fault stopped
  cases stopped

theorem receive_delivery (sound : ledger.reader.Sound) (bytes : Bytes) :
    Delivery capacity ledger (.receive bytes)
      (ledger.enter (.receive bytes)) := by
  by_cases fits : bytes.length ≤ ledger.reader.unfilled
  · simp only [enter, if_pos fits]
    apply Delivery.of (receive_reaches sound fits)
    intro fault stopped
    cases stopped
  · simp only [enter, if_neg fits, receive_refused fits]
    apply delivery_of_kept ⟨rfl, rfl, sound⟩
    intro fault stopped
    cases stopped
    exact .receive bytes

theorem store_delivery (sound : ledger.reader.Sound) (bytes : Bytes) :
    Delivery capacity ledger (.store bytes)
      (ledger.enter (.store bytes)) := by
  apply delivery_of_kept (store_reaches sound bytes)
  intro fault stopped
  split at stopped
  · cases stopped
  · cases stopped
    exact .store bytes

theorem commit_delivery (sound : ledger.reader.Sound) (given : Value) :
    Delivery capacity ledger (.commit given)
      (ledger.enter (.commit given)) := by
  rcases commit_reaches sound given with
    ⟨fault, cause, refused⟩ | ⟨count, countEq, reaches⟩
  · have nothing :
        counted ledger.reader given (.error fault : Except Fault Unit) =
          [] := by
      unfold counted
      cases given.needCount <;> rfl
    simp only [enter, refused, nothing]
    apply delivery_of_kept ⟨rfl, rfl, sound⟩
    intro other stopped
    cases stopped
    rcases cause with rfl | rfl
    · exact .uncountable given
    · exact .invalidCount given
  · simp only [enter, reaches.result_eq, counted, countEq]
    apply Delivery.of reaches
    intro fault stopped
    cases stopped

theorem enter_delivery (sound : ledger.reader.Sound)
    (delivers : call.Delivers) :
    Delivery capacity ledger call (ledger.enter call) := by
  cases call with
  | feed bytes => exact feed_delivery sound bytes
  | receive bytes => exact receive_delivery sound bytes
  | store bytes => exact store_delivery sound bytes
  | commit given => exact commit_delivery sound given
  | dropGarbage | poll | reset | take => cases delivers

/-! ## The message that can be taken -/

/-- The message that can be taken is whole and at the front of the buffer. -/
def Whole (ledger : Ledger) : Prop :=
  ∀ size, ledger.awaited = some size →
    ledger.reader.handedOut = 0 ∧ 0 < size ∧
      size ≤ ledger.reader.pending.length

theorem whole_of_none (nothing : ledger.awaited = none) : ledger.Whole := by
  intro size awaitedEq
  cases nothing.symm.trans awaitedEq

theorem Whole.deliver {next : Ledger} (whole : ledger.Whole)
    (sound : ledger.reader.Sound)
    (delivery : Delivery capacity ledger call next) : next.Whole := by
  cases delivery with
  | of reaches stops =>
      intro size awaitedEq
      obtain ⟨nothingOut, positive, buffered⟩ := whole size awaitedEq
      have pendingEq := sound.pending_append reaches.window_eq
      refine ⟨?_, positive, ?_⟩
      · exact (congrArg Window.handedOut reaches.window_eq).trans nothingOut
      · simp only [post, pendingEq, List.length_append]
        exact Nat.le_add_right_of_le buffered

theorem whole_poll (sound : ledger.reader.Sound) :
    (ledger.enter .poll).Whole := by
  intro size awaitedEq
  obtain ⟨nothingOut, positive, buffered⟩ :=
    poll_buffers sound (eq_ok_of_join_eq_some awaitedEq)
  refine ⟨nothingOut, positive, ?_⟩
  simp only [enter, post]
  rw [(poll_reaches sound).sound.length_pending]
  omega

theorem Whole.enter (whole : ledger.Whole) (sound : ledger.reader.Sound)
    (call : Call) : (ledger.enter call).Whole := by
  have delivered (delivers : call.Delivers) : (ledger.enter call).Whole := by
    have delivery :
        Delivery ledger.reader.capacity ledger call (ledger.enter call) :=
      enter_delivery sound delivers
    exact whole.deliver sound delivery
  cases call with
  | feed | receive | store | commit => exact delivered trivial
  | dropGarbage | reset => exact whole_of_none rfl
  | poll => exact whole_poll sound
  | take =>
      apply whole_of_none
      cases awaitedEq : ledger.awaited <;>
        simp only [Ledger.enter, awaitedEq]

/-! ## Balances -/

theorem Balanced.deliver {next : Ledger}
    (balanced : Balanced capacity ledger)
    (delivery : Delivery capacity ledger call next) :
    Balanced capacity next := by
  have whole : next.Whole :=
    Whole.deliver balanced.whole balanced.sound delivery
  obtain @⟨_, outcome, _, arrivals, reaches, stops⟩ := delivery
  have pendingEq := balanced.sound.pending_append reaches.window_eq
  have skippedEq : outcome.state.skipped = ledger.reader.skipped :=
    congrArg Window.skipped reaches.window_eq
  have goneEq : (ledger.post call outcome arrivals).gone = ledger.gone := by
    simp only [gone, post, skippedEq]
  constructor
  · exact reaches.sound
  · exact (congrArg Window.capacity reaches.window_eq).trans
      balanced.capacity_eq
  · exact Nat.le_trans balanced.skippedBefore_le (Nat.le_of_eq skippedEq.symm)
  · rw [goneEq]
    simp only [post, List.length_append]
    exact Nat.le_add_right_of_le balanced.gone_le
  · rw [goneEq]
    simp only [post, pendingEq, balanced.pending_eq]
    exact (List.drop_append_of_le_length balanced.gone_le).symm
  · exact whole
  · exact balanced.lawful_post reaches.result_eq stops arrivals

/-! ## Bytes that go -/

theorem Balanced.drop (balanced : Balanced capacity ledger) {count : Nat}
    (buffered : count ≤ ledger.reader.pending.length)
    (reaches : Reaches outcome result (ledger.reader.window.dropTo count))
    (stops : ∀ fault, result = .error fault → Lawful capacity call fault)
    {awaited : Option Nat}
    (whole : Whole { ledger.post call outcome [] with awaited }) :
    Balanced capacity { ledger.post call outcome [] with awaited } := by
  have skippedEq : outcome.state.skipped = ledger.reader.skipped + count :=
    congrArg Window.skipped reaches.window_eq
  have pendingEq : outcome.state.pending = ledger.reader.pending.drop count :=
    congrArg Window.pending reaches.window_eq
  have ordered := balanced.skippedBefore_le
  have goneEq :
      gone { ledger.post call outcome [] with awaited } =
        ledger.gone + count := by
    simp only [gone, post, skippedEq]
    omega
  have enough := balanced.gone_le
  rw [balanced.pending_eq, List.length_drop] at buffered
  constructor
  · exact reaches.sound
  · exact (congrArg Window.capacity reaches.window_eq).trans
      balanced.capacity_eq
  · simp only [post, skippedEq]
    omega
  · rw [goneEq]
    simp only [post, List.append_nil]
    omega
  · rw [goneEq]
    simp only [post, pendingEq, balanced.pending_eq, List.append_nil,
      List.drop_drop]
  · exact whole
  · exact balanced.lawful_post reaches.result_eq stops []

theorem Balanced.dropGarbage (balanced : Balanced capacity ledger) :
    Balanced capacity (ledger.enter .dropGarbage) := by
  apply balanced.drop (Packet.headerPosition_le _)
    (dropGarbage_reaches balanced.sound) _ (whole_of_none rfl)
  intro fault stopped
  cases stopped

theorem Balanced.poll (room : Packet.headerSize ≤ capacity)
    (balanced : Balanced capacity ledger) :
    Balanced capacity (ledger.enter .poll) := by
  have reaches := poll_reaches balanced.sound
  rw [balanced.capacity_eq] at reaches
  apply balanced.drop (start_le _) reaches _ (whole_poll balanced.sound)
  intro fault stopped
  obtain ⟨required, rfl, refused⟩ :=
    refused_of_announced room (start_drop_start _) stopped
  exact .tooSmall required refused.large

theorem Balanced.reset (balanced : Balanced capacity ledger) :
    Balanced capacity (ledger.enter .reset) := by
  have reaches := reset_reaches ledger.reader
  have goneEq : (ledger.enter .reset).gone = 0 := by
    simp only [gone, enter, post, Nat.sub_self]
  constructor
  · exact reaches.sound
  · exact balanced.capacity_eq
  · exact Nat.le_refl _
  · rw [goneEq]
    exact Nat.zero_le _
  · rw [goneEq]
    exact congrArg Window.pending reaches.window_eq
  · exact whole_of_none rfl
  · have stops : ∀ fault, (Except.ok () : Except Fault Unit) = .error fault →
        Lawful capacity .reset fault := by
      intro fault stopped
      cases stopped
    exact balanced.lawful_post reaches.result_eq stops []

theorem lawful_outcome {message : Bytes} {fault : Fault}
    (stopped : (Event.ofMessage message).outcome = .error fault)
    (nonempty : message ≠ []) : Lawful capacity .take fault := by
  have last := List.getLast?_eq_some_getLast nonempty
  rw [Event.outcome_ofMessage last] at stopped
  simp only at stopped
  split at stopped
  · cases stopped
  · rename_i different
    cases stopped
    exact .badChecksum _ _ different

theorem Balanced.take (balanced : Balanced capacity ledger) :
    Balanced capacity (ledger.enter .take) := by
  cases awaitedEq : ledger.awaited with
  | none =>
      simp only [enter, awaitedEq]
      exact balanced
  | some size =>
      obtain ⟨nothingOut, positive, buffered⟩ := balanced.whole size awaitedEq
      have enough :
          ledger.reader.handedOut + size ≤ ledger.reader.fillLevel := by
        rw [balanced.sound.length_pending] at buffered
        omega
      have reaches := take_reaches balanced.sound positive enough
      have skippedEq :
          ((Reader.take size).run ledger.reader).state.skipped =
            ledger.reader.skipped :=
        congrArg Window.skipped reaches.window_eq
      have goneEq :
          (ledger.enter .take).gone = ledger.gone + size := by
        simp only [gone, enter, awaitedEq, post, skippedEq, Nat.add_assoc]
      have arrivedEq : (ledger.enter .take).arrived = ledger.arrived := by
        simp only [enter, awaitedEq, post, List.append_nil]
      have pendingEq :
          (ledger.enter .take).reader.pending =
            ledger.reader.pending.drop size := by
        simp only [enter, awaitedEq, post]
        rw [Reader.pending_eq, reaches.window_eq]
        simp only [Window.pending, Reader.pending_eq, window, List.drop_drop]
      constructor
      · simp only [enter, awaitedEq, post]
        exact reaches.sound
      · simp only [enter, awaitedEq, post]
        exact (congrArg Window.capacity reaches.window_eq).trans
          balanced.capacity_eq
      · simp only [enter, awaitedEq, post, skippedEq]
        exact balanced.skippedBefore_le
      · have left := balanced.gone_le
        rw [balanced.pending_eq, List.length_drop] at buffered
        rw [goneEq, arrivedEq]
        omega
      · rw [goneEq, arrivedEq, pendingEq, balanced.pending_eq,
          List.drop_drop]
      · exact Whole.enter balanced.whole balanced.sound .take
      · simp only [enter, awaitedEq]
        apply balanced.lawful_post reaches.result_eq _ []
        intro fault stopped
        apply lawful_outcome stopped
        intro nothing
        have lengthEq := congrArg List.length nothing
        rw [List.length_take, balanced.sound.length_filled,
          List.length_nil] at lengthEq
        omega

/-! ## Runs -/

theorem Balanced.enter (room : Packet.headerSize ≤ capacity)
    (balanced : Balanced capacity ledger) (call : Call) :
    Balanced capacity (ledger.enter call) := by
  cases call with
  | feed bytes => exact balanced.deliver (feed_delivery balanced.sound bytes)
  | receive bytes =>
      exact balanced.deliver (receive_delivery balanced.sound bytes)
  | store bytes => exact balanced.deliver (store_delivery balanced.sound bytes)
  | commit given =>
      exact balanced.deliver (commit_delivery balanced.sound given)
  | dropGarbage => exact balanced.dropGarbage
  | poll => exact balanced.poll room
  | reset => exact balanced.reset
  | take => exact balanced.take

theorem Balanced.run (room : Packet.headerSize ≤ capacity)
    (calls : List Call) :
    ∀ {ledger : Ledger}, Balanced capacity ledger →
      Balanced capacity (ledger.run calls) := by
  induction calls with
  | nil => exact fun balanced => balanced
  | cons call rest restBalances =>
      intro ledger balanced
      exact restBalances (balanced.enter room call)

theorem balanced_fresh {size : Value} {reader : Reader}
    (opened : ofSize size = .ok reader) :
    Packet.headerSize ≤ reader.capacity ∧
      Balanced reader.capacity (fresh reader) := by
  obtain ⟨sound, enough, pendingEq⟩ := ofSize_sound opened
  refine ⟨Nat.le_trans (by decide) enough, sound, rfl, Nat.le_refl _, ?_,
    ?_, ?_, ?_⟩
  · simp only [gone, fresh, Nat.sub_self]
    exact Nat.le_refl 0
  · simp only [fresh, pendingEq, List.drop_nil]
  · exact whole_of_none rfl
  · intro call fault member
    cases member

theorem Lawful.asserted {fault : Fault} (lawful : Lawful capacity call fault) :
    fault ≠ .undropped ∧
      ∀ count buffered, fault ≠ .overconsumed count buffered := by
  cases lawful <;> simp

end Ledger

open Ledger in
/-- Whatever is asked of a reader, its marks are in order, its buffer keeps its
size, and the pending bytes are those that arrived since the last reset,
without as many of them at the front as were skipped or taken. No call finds
fewer bytes than it drops, or something handed out behind what it dropped. -/
theorem run_balances {size : Value} {reader : Reader}
    (opened : ofSize size = .ok reader) (calls : List Call) :
    let ledger := (fresh reader).run calls
    ledger.reader.handedOut ≤ ledger.reader.fillLevel ∧
      ledger.reader.fillLevel ≤ reader.capacity ∧
      ledger.reader.buffer.length = reader.capacity ∧
      ledger.skippedBefore ≤ ledger.reader.skipped ∧
      ledger.gone ≤ ledger.arrived.length ∧
      ledger.reader.pending = ledger.arrived.drop ledger.gone ∧
      ∀ call fault, (call, fault) ∈ ledger.faults →
        Lawful reader.capacity call fault ∧ fault ≠ .undropped ∧
          ∀ count buffered, fault ≠ .overconsumed count buffered := by
  intro ledger
  obtain ⟨room, start⟩ := balanced_fresh opened
  have balanced : Balanced reader.capacity ledger := start.run room calls
  have inside := balanced.sound.fillLevel_le
  rw [balanced.capacity_eq] at inside
  refine ⟨balanced.sound.handedOut_le, inside, balanced.capacity_eq,
    balanced.skippedBefore_le, balanced.gone_le, balanced.pending_eq, ?_⟩
  intro call fault member
  have lawful := balanced.lawful call fault member
  exact ⟨lawful, lawful.asserted⟩

open Ledger in
/-- Noise, a message with a bad checksum that is taken behind more bytes, a
commit of too many bytes, and half of the next header. -/
theorem run_balances_of_bad_checksum :
    let reader : Reader := ⟨List.replicate 8 0, 0, 0, 0⟩
    let calls : List Call :=
      [.feed [0x00, 0xFF, 0xFF, 0x01, 0x02, 0x00, 0xFD], .poll,
        .receive [0x00], .take, .commit (.integer 9), .dropGarbage,
        .feed [0xFF], .poll]
    let ledger := (fresh reader).run calls
    ofSize (.integer 8) = .ok reader ∧
      ledger.faults =
        [(.take, .invalidChecksum 0xFD 0xFC),
          (.commit (.integer 9), .invalidReadCount (.integer 9))] ∧
      ledger.reader.pending = [0xFF] := by
  intro reader calls ledger
  have opened : ofSize (.integer 8) = .ok reader := rfl
  have faults : ledger.faults =
      [(.take, .invalidChecksum 0xFD 0xFC),
        (.commit (.integer 9), .invalidReadCount (.integer 9))] := by
    decide +kernel
  have rest : ledger.arrived.drop ledger.gone = [0xFF] := by
    decide +kernel
  obtain ⟨_, _, _, _, _, pendingEq, _⟩ := run_balances opened calls
  exact ⟨opened, faults, pendingEq.trans rest⟩

end ActuatorBus.Reader
