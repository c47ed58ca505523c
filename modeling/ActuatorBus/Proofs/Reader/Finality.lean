import ActuatorBus.Proofs.Reader.Ledger
import ActuatorBus.Proofs.Runs

/-!
# Final answers

What a poll answers is final (`poll_is_final`). A message that it announces
stays at the front of the buffer, and a refusal stays one, whatever arrives and
however often the reader is polled again. As long as nothing is announced, it
makes no difference whether the reader was polled before or after more bytes
arrived.
-/

namespace ActuatorBus.Reader

open ActuatorBus.Stream

/-- By a call no message is taken, and no bytes are given up but garbage. -/
def Call.Waits : Call → Prop
  | .feed _ | .receive _ | .store _ | .commit _ | .dropGarbage | .poll => True
  | .reset | .take => False

variable {reader : Reader}

/-! ## More bytes -/

namespace Ledger

variable {ledger : Ledger} {call : Call}

/-- Since a ledger began with a reader, bytes arrived and nothing else
changed. -/
structure Gains (reader : Reader) (ledger : Ledger) : Prop where
  sound : ledger.reader.Sound
  window_eq : ledger.reader.window =
    { reader.window with filled := reader.filled ++ ledger.arrived }

theorem gains_fresh (sound : reader.Sound) : Gains reader (fresh reader) := by
  refine ⟨sound, ?_⟩
  simp only [fresh, List.append_nil]
  rfl

namespace Gains

theorem deliver (gains : Gains reader ledger) (delivers : call.Delivers) :
    Gains reader (ledger.enter call) := by
  have delivery : Delivery reader.capacity ledger call (ledger.enter call) :=
    enter_delivery gains.sound delivers
  have filledEq : ledger.reader.filled = reader.filled ++ ledger.arrived :=
    congrArg Window.filled gains.window_eq
  generalize ledger.enter call = next at delivery ⊢
  cases delivery with
  | of reaches stops =>
      refine ⟨reaches.sound, ?_⟩
      simp only [post]
      rw [reaches.window_eq, gains.window_eq, filledEq, List.append_assoc]

/-- A call that changes nothing. -/
theorem idle {next : Ledger} (gains : Gains reader ledger)
    (readerEq : next.reader = ledger.reader)
    (arrivedEq : next.arrived = ledger.arrived) : Gains reader next := by
  refine ⟨readerEq ▸ gains.sound, ?_⟩
  rw [readerEq, arrivedEq, gains.window_eq]

/-- What each of the calls allowed keeps is kept by a run of them. -/
theorem run_of {allowed : Call → Prop}
    (step : ∀ ledger call, Gains reader ledger → allowed call →
      Gains reader (ledger.enter call))
    (gains : Gains reader ledger) (calls : List Call)
    (allow : ∀ call ∈ calls, allowed call) :
    Gains reader (ledger.run calls) := by
  induction calls generalizing ledger with
  | nil => exact gains
  | cons call rest restGains =>
      apply restGains (step ledger call gains (allow call List.mem_cons_self))
      exact fun other member => allow other (List.mem_cons_of_mem call member)

theorem run (gains : Gains reader ledger) (calls : List Call)
    (deliver : ∀ call ∈ calls, call.Delivers) :
    Gains reader (ledger.run calls) :=
  gains.run_of (fun _ _ before delivers => before.deliver delivers) calls
    deliver

theorem pending_eq (sound : reader.Sound) (gains : Gains reader ledger) :
    ledger.reader.pending = reader.pending ++ ledger.arrived :=
  sound.pending_append gains.window_eq

theorem capacity_eq (gains : Gains reader ledger) :
    ledger.reader.capacity = reader.capacity :=
  congrArg Window.capacity gains.window_eq

end Gains

end Ledger

/-! ## Decided readers -/

/-- What is at the front of the buffer is announced or refused. -/
structure Decided (reader : Reader) : Prop extends Aligned reader where
  decided : announced reader.capacity reader.pending ≠ .ok none

namespace Decided

open Ledger

variable {ledger : Ledger}

theorem gains_aligned (decided : reader.Decided)
    (gains : Gains reader ledger) :
    ledger.reader.Aligned := by
  obtain ⟨headed, _⟩ := announced_append decided.decided ledger.arrived
  refine ⟨gains.sound, ?_, ?_⟩
  · exact (congrArg Window.handedOut gains.window_eq).trans
      decided.nothingOut
  · rw [gains.pending_eq decided.sound]
    exact start_append_of_headed ledger.arrived headed decided.atFront

/-- The answer stays what it was. -/
theorem gains_poll_run (decided : reader.Decided)
    (gains : Gains reader ledger) :
    poll.run ledger.reader =
      ⟨announced reader.capacity reader.pending, ledger.reader, []⟩ := by
  obtain ⟨_, same⟩ := announced_append decided.decided ledger.arrived
  rw [(decided.gains_aligned gains).poll_run, gains.capacity_eq,
    gains.pending_eq decided.sound, same]

theorem gains_enter (decided : reader.Decided) (gains : Gains reader ledger)
    {call : Call} (waits : call.Waits) :
    Gains reader (ledger.enter call) := by
  cases call with
  | feed | receive | store | commit =>
      exact gains.deliver trivial
  | dropGarbage =>
      apply gains.idle
      · simp only [enter, post, (decided.gains_aligned gains).dropGarbage_run]
      · exact List.append_nil ledger.arrived
  | poll =>
      apply gains.idle
      · simp only [enter, post, decided.gains_poll_run gains]
      · exact List.append_nil ledger.arrived
  | reset | take => cases waits

theorem gains_run (decided : reader.Decided) (gains : Gains reader ledger)
    (calls : List Call) (wait : ∀ call ∈ calls, call.Waits) :
    Gains reader (ledger.run calls) :=
  gains.run_of (fun _ _ before waits => decided.gains_enter before waits)
    calls wait

end Decided

/-! ## Bytes before and after a poll -/

/-- A poll makes room. -/
theorem unfilled_le_poll (sound : reader.Sound) :
    reader.unfilled ≤ (poll.run reader).state.unfilled := by
  have reaches := poll_reaches sound
  have capacityEq : (poll.run reader).state.capacity = reader.capacity :=
    congrArg Window.capacity reaches.window_eq
  have filledEq : (poll.run reader).state.filled =
      reader.pending.drop (start reader.pending) :=
    congrArg Window.filled reaches.window_eq
  have level := congrArg List.length filledEq
  rw [reaches.sound.length_filled, List.length_drop,
    sound.length_pending] at level
  simp only [unfilled, capacityEq, level]
  omega

theorem filled_take {size : Nat} (inside : size ≤ reader.filled.length) :
    reader.filled.take size = reader.buffer.take size := by
  simp only [filled, List.length_take] at inside
  rw [filled, List.take_take, Nat.min_eq_left (by omega)]

open Ledger in
/-- A poll after some bytes comes to the same whether there was another one
before they arrived. -/
theorem Ledger.Gains.poll_agrees {early late : Ledger} (sound : reader.Sound)
    (gainsEarly : Gains reader early)
    (gainsLate : Gains (poll.run reader).state late)
    (same : late.arrived = early.arrived) :
    Outcome.Agree (fun one two => one.window = two.window)
      (poll.run early.reader) (poll.run late.reader) := by
  have polled := poll_reaches sound
  have first := poll_reaches gainsEarly.sound
  have second := poll_reaches gainsLate.sound
  have capacityEq : late.reader.capacity = early.reader.capacity :=
    calc
      late.reader.capacity = (poll.run reader).state.capacity :=
        gainsLate.capacity_eq
      _ = reader.capacity := congrArg Window.capacity polled.window_eq
      _ = early.reader.capacity := gainsEarly.capacity_eq.symm
  have pendingEarly := gainsEarly.pending_eq sound
  have pendingLate : late.reader.pending =
      reader.pending.drop (start reader.pending) ++ early.arrived := by
    rw [gainsLate.pending_eq polled.sound, same]
    exact congrArg (Window.pending · ++ early.arrived) polled.window_eq
  -- What the first poll skips is the beginning of what is skipped at once.
  have startEq : start early.reader.pending =
      start reader.pending + start late.reader.pending := by
    rw [pendingEarly, pendingLate, start_append]
  have liveEq : early.reader.pending.drop (start early.reader.pending) =
      late.reader.pending.drop (start late.reader.pending) := by
    rw [startEq, ← List.drop_drop, pendingEarly,
      List.drop_append_of_le_length (start_le _), ← pendingLate]
  have skippedEarly : early.reader.skipped = reader.skipped :=
    congrArg Window.skipped gainsEarly.window_eq
  have skippedLate : late.reader.skipped =
      reader.skipped + start reader.pending :=
    (congrArg Window.skipped gainsLate.window_eq).trans
      (congrArg Window.skipped polled.window_eq)
  constructor
  · rw [first.result_eq, second.result_eq, capacityEq, liveEq]
  · rw [first.window_eq, second.window_eq]
    simp only [Window.dropTo, ← Reader.pending_eq, liveEq]
    simp only [window, capacityEq, skippedEarly, skippedLate, startEq,
      Nat.add_assoc]

open Ledger in
/-- The answer of a poll is final. Polling again changes nothing. A message
that was announced is announced again with the same bytes, and a refusal is
repeated, as long as no message is taken and the reader is not reset; more
bytes are put behind those that are there, and none is skipped. Polling early
makes no difference: when the bytes that there was room for have arrived, the
next poll comes to the same as if it were the first one. -/
theorem poll_is_final (sound : reader.Sound) :
    let polled := poll.run reader
    let after (calls : List Call) := (fresh polled.state).run calls
    poll.run polled.state = ⟨polled.result, polled.state, []⟩ ∧
      (∀ size, polled.result = .ok (some size) →
        ∀ calls, (∀ call ∈ calls, call.Waits) →
          let again := poll.run (after calls).reader
          again.result = .ok (some size) ∧
            again.state.buffer.take size = polled.state.buffer.take size ∧
            again.state.window =
              { polled.state.window with
                filled := polled.state.filled ++ (after calls).arrived }) ∧
      (∀ fault, polled.result = .error fault →
        (∃ required : Nat,
            fault = .bufferTooSmall required reader.capacity) ∧
          ∀ calls, (∀ call ∈ calls, call.Waits) →
            let again := poll.run (after calls).reader
            again.result = .error fault ∧
              again.state.window =
                { polled.state.window with
                  filled := polled.state.filled ++ (after calls).arrived }) ∧
      ∀ bytes : Bytes, bytes.length ≤ reader.unfilled →
        bytes.length ≤ polled.state.unfilled ∧
          ∀ early late : List Call, (∀ call ∈ early, call.Delivers) →
            (∀ call ∈ late, call.Delivers) →
            ((fresh reader).run early).arrived = bytes →
            (after late).arrived = bytes →
            Outcome.Agree (fun one two => one.window = two.window)
              (poll.run ((fresh reader).run early).reader)
              (poll.run (after late).reader) := by
  intro polled after
  have aligned : polled.state.Aligned := aligned_poll sound
  have reaches := poll_reaches sound
  have capacityEq : polled.state.capacity = reader.capacity :=
    congrArg Window.capacity reaches.window_eq
  have answerEq : announced polled.state.capacity polled.state.pending =
      polled.result := by
    rw [capacityEq, reaches.result_eq]
    exact congrArg (fun window : Window => announced _ window.pending)
      reaches.window_eq
  have begun := gains_fresh aligned.sound
  have final : polled.result ≠ .ok none →
      ∀ calls, (∀ call ∈ calls, call.Waits) →
        (poll.run (after calls).reader).result = polled.result ∧
          (poll.run (after calls).reader).state.window =
            { polled.state.window with
              filled := polled.state.filled ++ (after calls).arrived } := by
    intro answered calls wait
    have decided : polled.state.Decided :=
      ⟨aligned, by rw [answerEq]; exact answered⟩
    have gains := decided.gains_run begun calls wait
    have again : poll.run (after calls).reader =
        ⟨polled.result, (after calls).reader, []⟩ := by
      rw [← answerEq]
      exact decided.gains_poll_run gains
    rw [again]
    exact ⟨rfl, gains.window_eq⟩
  refine ⟨?_, ?_, ?_, ?_⟩
  · rw [aligned.poll_run, answerEq]
  · intro size announcement calls wait
    obtain ⟨resultEq, windowEq⟩ :=
      final (by rw [announcement]; simp) calls wait
    refine ⟨resultEq.trans announcement, ?_, windowEq⟩
    have filledEq : (poll.run (after calls).reader).state.filled =
        polled.state.filled ++ (after calls).arrived :=
      congrArg Window.filled windowEq
    have inside : size ≤ polled.state.filled.length := by
      rw [← aligned.pending_eq]
      exact (announced_some (answerEq.trans announcement)).2
    have insideLater :
        size ≤ (poll.run (after calls).reader).state.filled.length := by
      rw [filledEq, List.length_append]
      exact Nat.le_add_right_of_le inside
    rw [← filled_take insideLater, filledEq,
      List.take_append_of_le_length inside, filled_take inside]
  · intro fault refusal
    constructor
    · obtain ⟨required, faultEq⟩ :=
        announced_error (answerEq.trans refusal)
      exact ⟨required, capacityEq ▸ faultEq⟩
    · intro calls wait
      obtain ⟨resultEq, windowEq⟩ := final (by rw [refusal]; simp) calls wait
      exact ⟨resultEq.trans refusal, windowEq⟩
  · intro bytes fits
    refine ⟨Nat.le_trans fits (unfilled_le_poll sound), ?_⟩
    intro early late deliverEarly deliverLate arrivedEarly arrivedLate
    have gainsEarly := (gains_fresh sound).run early deliverEarly
    have gainsLate := begun.run late deliverLate
    exact gainsEarly.poll_agrees sound gainsLate
      (arrivedLate.trans arrivedEarly.symm)

open Ledger in
/-- Half a header at the end of noise is kept, and turns out to be noise: what
follows is polled as if it had been there from the beginning, and the message
found then stays. -/
theorem poll_is_final_of_half_header :
    let reader : Reader := ⟨[0x00, 0xFF, 0, 0, 0, 0, 0, 0, 0], 2, 0, 0⟩
    let bytes : Bytes := [0x01, 0xFF, 0xFF, 0x01, 0x02, 0x00, 0xFC]
    let polled := poll.run reader
    let late := poll.run ((fresh polled.state).run [.feed bytes]).reader
    reader.Sound ∧ polled.result = .ok none ∧ polled.state.skipped = 1 ∧
      late.result = .ok (some 6) ∧
      late.state.window =
        ⟨9, [0xFF, 0xFF, 0x01, 0x02, 0x00, 0xFC], 0, 3⟩ ∧
      ∀ calls, (∀ call ∈ calls, call.Waits) →
        (poll.run ((fresh late.state).run calls).reader).result =
          .ok (some 6) := by
  intro reader bytes polled late
  have sound : reader.Sound := ⟨by decide, by decide⟩
  obtain ⟨_, _, _, polledEarly⟩ := poll_is_final sound
  obtain ⟨_, agrees⟩ := polledEarly bytes (by decide)
  obtain ⟨resultEq, windowEq⟩ :
      Outcome.Agree (fun one two => one.window = two.window)
        (poll.run ((fresh reader).run [.feed bytes]).reader) late :=
    agrees [.feed bytes] [.feed bytes] (by simp [Call.Delivers])
      (by simp [Call.Delivers]) (by decide +kernel) (by decide +kernel)
  have found : late.result = .ok (some 6) := by
    rw [← resultEq]
    decide +kernel
  have lateEq : late.state.window =
      ⟨9, [0xFF, 0xFF, 0x01, 0x02, 0x00, 0xFC], 0, 3⟩ := by
    rw [← windowEq]
    decide +kernel
  refine ⟨sound, by decide +kernel, by decide +kernel, found, lateEq, ?_⟩
  have soundLate : ((fresh polled.state).run [.feed bytes]).reader.Sound :=
    ⟨by decide +kernel, by decide +kernel⟩
  obtain ⟨_, announces, _⟩ := poll_is_final soundLate
  intro calls wait
  exact (announces 6 found calls wait).1

end ActuatorBus.Reader
