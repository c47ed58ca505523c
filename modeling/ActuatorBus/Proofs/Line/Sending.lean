import ActuatorBus.Proofs.Line.Handles

/-!
# Bytes on a suspending line

A suspending line sends its bytes over the handle of its device, which keeps
its word, and it makes no more offers than the handle has limits left, and one.
So all bytes are written once and in order (`send_once_in_order`), as over
every handle that answers by a schedule that does not ignore offers for ever.
-/

namespace ActuatorBus

/-! ## Scheduled handles -/

/-- How often a scheduled handle was offered bytes, and what it took. -/
structure Progress where
  offers : Nat
  accepted : Bytes

namespace Handle

/-- A handle that answers by a schedule. It takes as many bytes as the schedule
says, or all if they are fewer. -/
def scheduled (answers : Nat → Except Fault (Option Nat)) :
    Handle Progress where
  offer bytes := do
    let progress ← Act.get
    let answer :=
      (answers progress.offers).map fun count => count.map (min bytes.length)
    Act.set ⟨progress.offers + 1,
      progress.accepted ++ Offer.taken ⟨bytes, answer⟩⟩
    Act.ofExcept answer
  sleep _ := pure ()
  accepted := Progress.accepted

/-- An answer that nothing was taken. -/
def Ignores (answer : Except Fault (Option Nat)) : Prop :=
  ∃ count, answer = .ok count ∧ count.getD 0 = 0

/-- Nothing is taken only finitely often in a row. -/
def Attentive (answers : Nat → Except Fault (Option Nat)) : Prop :=
  ∀ turn, ∃ later, turn ≤ later ∧ ¬ Ignores (answers later)

section

variable {answers : Nat → Except Fault (Option Nat)}

theorem scheduled_offer (answers : Nat → Except Fault (Option Nat))
    (bytes : Bytes) (progress : Progress) :
    ((scheduled answers).offer bytes).run progress =
      let answer := (answers progress.offers).map fun count =>
        count.map (min bytes.length)
      ⟨answer, ⟨progress.offers + 1,
        progress.accepted ++ Offer.taken ⟨bytes, answer⟩⟩, []⟩ := by
  simp [scheduled]

theorem scheduled_heeds (interval : Double) {bytes : Bytes}
    (some : bytes ≠ []) {progress : Progress}
    (heeds : ¬ Ignores (answers progress.offers)) :
    (scheduled answers).Responds interval bytes progress := by
  cases answer : answers progress.offers with
  | error fault => exact .fails (by rw [scheduled_offer, answer]; rfl)
  | ok count =>
      have positive : 0 < count.getD 0 := by
        apply Nat.pos_of_ne_zero
        exact fun nothing => heeds ⟨count, answer, nothing⟩
      obtain ⟨fewer, rfl⟩ : ∃ fewer, count = Option.some (fewer + 1) := by
        cases count with
        | none => exact absurd positive (Nat.lt_irrefl 0)
        | some count => exact ⟨count - 1, by simp at positive ⊢; omega⟩
      have offered : 0 < bytes.length := List.length_pos_iff.2 some
      obtain ⟨taken, takenEq⟩ : ∃ taken,
          min bytes.length (fewer + 1) = taken + 1 :=
        ⟨min bytes.length (fewer + 1) - 1, by omega⟩
      have takes : (((scheduled answers).offer bytes).run progress).result =
          .ok (Option.some (taken + 1)) := by
        rw [scheduled_offer, answer, ← takenEq]
        rfl
      exact .takes takes

/-- Turns that ignore an offer only put the answer off. -/
theorem scheduled_responds (interval : Double) {bytes : Bytes}
    (some : bytes ≠ []) (turns : Nat) :
    ∀ progress : Progress, ¬ Ignores (answers (progress.offers + turns)) →
      (scheduled answers).Responds interval bytes progress := by
  induction turns with
  | zero => exact fun progress => scheduled_heeds interval some
  | succ turns sooner =>
      intro progress heeds
      by_cases ignores : Ignores (answers progress.offers)
      · obtain ⟨count, answer, nothing⟩ := ignores
        have answered :
            (((scheduled answers).offer bytes).run progress).result =
              .ok (count.map (min bytes.length)) := by
          rw [scheduled_offer, answer]
          rfl
        refine .later answered ?_ ?_
        · cases count with
          | none => rfl
          | some count =>
              have zero : count = 0 := nothing
              simp [zero]
        · apply sooner
          rw [scheduled_offer]
          show ¬ Ignores (answers (progress.offers + 1 + turns))
          rw [Nat.add_assoc, Nat.add_comm 1]
          exact heeds
      · exact scheduled_heeds interval some ignores

theorem scheduled_honest (attentive : Attentive answers) :
    (scheduled answers).Honest fun _ => True where
  keeps_offer _ _ _ := trivial
  keeps_sleep _ _ _ := trivial
  accepted_offer bytes progress _ := by
    simp only [scheduled_offer]
    rfl
  sleeps _ _ _ := ⟨rfl, rfl⟩
  responds interval bytes progress _ some := by
    obtain ⟨later, notBefore, heeds⟩ := attentive progress.offers
    apply scheduled_responds interval some (later - progress.offers)
    rw [Nat.add_sub_cancel' notBefore]
    exact heeds

end

end Handle

/-! ## The handle of a serial line -/

namespace SerialLine

/-- The handle of the device of a line. -/
def handle : Handle SerialLine where
  offer := writeHandle
  sleep := wait
  accepted line := line.written.flatten

/-- What comes of bytes that are written to the handle of a line. -/
inductive Written (line : SerialLine) (bytes : Bytes) :
    Outcome SerialLine (Option Nat) → Prop where
  | failed {fault : Fault} {after : SerialLine}
    (unchanged : line.Timely →
      after.written = line.written ∧ after.Timely) :
    Written line bytes ⟨.error fault, after, []⟩
  | answered {answer : Option Nat} {after : SerialLine}
    (written_eq : after.written =
      line.written ++ [Handle.Offer.taken ⟨bytes, .ok answer⟩])
    (limits_eq : after.writeLimits = line.writeLimits.drop 1)
    (unlimited : line.writeLimits = [] → answer = some bytes.length)
    (timely : line.Timely → after.Timely) :
    Written line bytes ⟨.ok answer, after, []⟩

/-- A limit leaves a prefix. -/
theorem accepted_eq_take (limit : Int) (bytes : Bytes) :
    accepted limit bytes = bytes.take (accepted limit bytes).length := by
  unfold accepted
  split <;> rw [List.length_take, ← List.take_take, List.take_length]

/-- What follows once it is known how much of the bytes is written. -/
theorem record_written (line : SerialLine) {bytes piece : Bytes}
    (isPrefix : piece = bytes.take piece.length)
    (unlimited : line.writeLimits = [] → piece = bytes)
    {outcome : Outcome SerialLine (Option Nat)}
    (outcomeEq : outcome =
      (dispatchReplies >>= fun _ => pure (some piece.length)).run
        { line with
          writeLimits := line.writeLimits.drop 1
          written := line.written ++ [piece] }) :
    Written line bytes outcome := by
  obtain ⟨result, arrivals, replies, run, cleared, timely⟩ := dispatchReplies_run
    { line with
      writeLimits := line.writeLimits.drop 1
      written := line.written ++ [piece] }
  rw [Act.run_bind, run] at outcomeEq
  cases result with
  | error fault =>
      subst outcomeEq
      exact .failed fun ready => nomatch timely ready
  | ok _ =>
      obtain rfl := cleared rfl
      subst outcomeEq
      refine .answered ?_ rfl ?_ ?_
      · show line.written ++ [piece] =
          line.written ++ [bytes.take piece.length]
        rw [← isPrefix]
      · intro none
        rw [unlimited none]
      · rintro _ reply ⟨⟩

theorem writeHandle_written (line : SerialLine) (bytes : Bytes) :
    Written line bytes ((writeHandle bytes).run line) := by
  cases fails : line.failures.write with
  | some error =>
      have run : (writeHandle bytes).run line =
          ⟨.error (.device error), line, []⟩ := by
        simp [writeHandle, Act.failOn, fails]
      rw [run]
      exact .failed fun ready => ⟨rfl, ready⟩
  | none =>
      cases limits : line.writeLimits with
      | nil =>
          apply record_written line (List.take_length).symm fun _ => rfl
          simp [writeHandle, Act.failOn, fails, limits]
      | cons limit others =>
          by_cases silent : limit = .nothing
          · subst silent
            have run : (writeHandle bytes).run line =
                ⟨.ok none,
                  { line with
                    writeLimits := line.writeLimits.drop 1
                    written := line.written ++ [[]] }, []⟩ := by
              simp [writeHandle, Act.failOn, fails, limits]
            rw [run]
            refine .answered rfl rfl ?_ id
            rw [limits]
            exact nofun
          · cases counted : limit.needCount with
            | error fault =>
                have run : (writeHandle bytes).run line =
                    ⟨.error fault,
                      { line with writeLimits := line.writeLimits.drop 1 },
                      []⟩ := by
                  simp [writeHandle, Act.failOn, fails, limits, silent, counted]
                rw [run]
                exact .failed fun ready => ⟨rfl, ready⟩
            | ok count =>
                apply record_written line (accepted_eq_take count bytes)
                · rw [limits]
                  exact nofun
                · simp [writeHandle, Act.failOn, fails, limits, silent, counted]

/-- Every offer that is ignored uses up a limit, and without limits all is
taken. -/
theorem handle_responds (interval : Double) {bytes : Bytes}
    (some : bytes ≠ []) (limits : Nat) :
    ∀ line : SerialLine, line.writeLimits.length ≤ limits →
      handle.Responds interval bytes line := by
  induction limits with
  | zero =>
      intro line few
      have none := List.eq_nil_of_length_eq_zero (Nat.le_zero.1 few)
      have written := writeHandle_written line bytes
      rcases run : (writeHandle bytes).run line with ⟨result, after, notes⟩
      rw [run] at written
      cases written with
      | failed => exact .fails (congrArg Outcome.result run)
      | answered _ _ unlimited _ =>
          obtain rfl := unlimited none
          have offered : 0 < bytes.length := List.length_pos_iff.2 some
          have takes : ((handle.offer bytes).run line).result =
              .ok (Option.some (bytes.length - 1 + 1)) := by
            rw [Nat.sub_add_cancel offered]
            exact congrArg Outcome.result run
          exact .takes takes
  | succ limits fewerRespond =>
      intro line few
      have written := writeHandle_written line bytes
      rcases run : (writeHandle bytes).run line with ⟨result, after, notes⟩
      rw [run] at written
      cases written with
      | failed => exact .fails (congrArg Outcome.result run)
      | @answered answer _ _ limitsEq _ _ =>
          have answered : ((handle.offer bytes).run line).result = .ok answer :=
            congrArg Outcome.result run
          rcases Nat.eq_zero_or_pos (answer.getD 0) with ignored | taken
          · refine .later answered ignored (fewerRespond _ ?_)
            show ((writeHandle bytes).run line).state.writeLimits.length ≤ _
            rw [run, limitsEq, List.length_drop]
            omega
          · obtain ⟨count, rfl⟩ : ∃ count, answer = Option.some (count + 1) := by
              cases answer with
              | none => exact absurd taken (Nat.lt_irrefl 0)
              | some count => exact ⟨count - 1, by simp at taken ⊢; omega⟩
            exact .takes answered

theorem handle_honest : handle.Honest Timely where
  keeps_offer bytes line ready := by
    have written := writeHandle_written line bytes
    show ((writeHandle bytes).run line).state.Timely
    generalize (writeHandle bytes).run line = outcome at written ⊢
    cases written with
    | failed unchanged => exact (unchanged ready).2
    | answered _ _ _ timely => exact timely ready
  keeps_sleep _ _ ready := ready
  accepted_offer bytes line ready := by
    have written := writeHandle_written line bytes
    show ((writeHandle bytes).run line).state.written.flatten =
      line.written.flatten ++
        Handle.Offer.taken ⟨bytes, ((writeHandle bytes).run line).result⟩
    generalize (writeHandle bytes).run line = outcome at written ⊢
    cases written with
    | failed unchanged =>
        rw [(unchanged ready).1]
        exact (List.append_nil _).symm
    | answered writtenEq _ _ _ =>
        rw [writtenEq, List.flatten_append, List.flatten_singleton]
  sleeps _ _ _ := ⟨rfl, rfl⟩
  responds interval bytes line _ some :=
    handle_responds interval some _ line (Nat.le_refl _)

/-- More offers than there are limits make no difference. -/
theorem sendAll_unlimited (seconds : Double) (limit : Nat) :
    ∀ {more : Nat} {line : SerialLine} {bytes : Bytes},
      line.writeLimits.length < limit → line.writeLimits.length < more →
      (sendAll writeHandle (wait seconds) limit bytes).run line =
        (sendAll writeHandle (wait seconds) more bytes).run line := by
  induction limit with
  | zero => exact fun few => absurd few (Nat.not_lt_zero _)
  | succ limit fewerOffers =>
      intro more line bytes few fewMore
      obtain ⟨more, rfl⟩ : ∃ fewer, more = fewer + 1 :=
        ⟨more - 1, by omega⟩
      by_cases some : bytes = []
      · subst some
        simp only [sendAll]
      · have written := writeHandle_written line bytes
        rw [Handle.sendAll_succ some, Handle.sendAll_succ some, Act.run_bind,
          Act.run_bind]
        generalize (writeHandle bytes).run line = outcome at written ⊢
        cases written with
        | failed => rfl
        | @answered answer after _ limitsEq unlimited _ =>
            rw [Outcome.andThen_ok, Outcome.andThen_ok]
            by_cases whole : (Handle.Offer.mk bytes (.ok answer)).rest = []
            · simp only [if_pos whole]
            · have limited : line.writeLimits ≠ [] := by
                intro none
                rw [unlimited none] at whole
                exact whole List.drop_length
              have positive := List.length_pos_iff.2 limited
              have fewer : after.writeLimits.length + 1 =
                  line.writeLimits.length := by
                rw [limitsEq, List.length_drop]
                omega
              have rest := @fewerOffers more
                { after with clock := after.clock.add seconds }
                (Handle.Offer.mk bytes (.ok answer)).rest
                (show after.writeLimits.length < limit by omega)
                (show after.writeLimits.length < more by omega)
              simp only [if_neg whole, Act.run_bind, wait, Act.run_modify,
                Outcome.andThen_ok] at rest ⊢
              rw [rest]

/-- A line pauses for its interval. -/
theorem pause_eq {line : SerialLine} {interval : Double}
    (isInterval :
      (line.pollInterval.needNumber >>= Number.toDouble) = .ok interval) :
    (Act.ofExcept line.pollInterval.needNumber >>= sleep) = wait interval := by
  obtain ⟨number, isNumber, isDouble⟩ := bind_eq_ok_iff.1 isInterval
  rw [isNumber, Act.ofExcept_ok, pure_bind, sleep, isDouble, Act.ofExcept_ok,
    pure_bind]

/-- A line sends over the handle of its device, and its number of offers is no
limit. -/
theorem writeAll_eq_send {line : SerialLine} {interval : Double}
    (isInterval :
      (line.pollInterval.needNumber >>= Number.toDouble) = .ok interval)
    (bytes : Bytes) {limit : Nat} (enough : line.writeLimits.length < limit) :
    (writeAll .suspending bytes).run line =
      (handle.send interval limit bytes).run line := by
  have few : line.writeLimits.length < line.writeLimits.length + 1 :=
    Nat.lt_succ_self _
  simp only [writeAll, Act.run_bind, Act.run_get, Outcome.andThen_ok,
    pause_eq isInterval, Handle.send, List.nil_append]
  rw [sendAll_unlimited interval _ few enough]
  rfl

end SerialLine

namespace Handle

/-- Whatever an honest handle takes of each offer, sending comes to an end, and
what it took is all the bytes in their order, or a proper part from the front if
it failed, in which case its fault is the result. Each offer is the rest that
follows what was taken before, and there is an interval after each that left a
rest. A handle that answers by a schedule is honest if nothing is taken only
finitely often in a row, and so is the handle of a serial line, over which a
suspending line sends. -/
theorem send_once_in_order (interval : Double) (bytes : Bytes) :
    (∀ {σ : Type} {handle : Handle σ} {usable : σ → Prop} {start : σ},
      handle.Honest usable → usable start →
        ∃ offers outcome,
          Sent bytes offers outcome.result ∧
          handle.accepted outcome.state =
            handle.accepted start ++ offers.flatMap Offer.taken ∧
          ∃ enough, ∀ limit, enough ≤ limit →
            (handle.send interval limit bytes).run start = outcome ∧
              (handle.watched.send interval limit bytes).run ⟨start, []⟩ =
                ⟨outcome.result,
                  ⟨outcome.state,
                    offers.flatMap (Offer.events interval) ++
                      lastEvents outcome.result⟩,
                  outcome.notes⟩) ∧
      (∀ answers, Attentive answers →
        (scheduled answers).Honest fun _ => True) ∧
      SerialLine.handle.Honest SerialLine.Timely ∧
      ∀ line : SerialLine,
        (line.pollInterval.needNumber >>= Number.toDouble) = .ok interval →
        ∀ limit, line.writeLimits.length < limit →
          (SerialLine.writeAll .suspending bytes).run line =
            (SerialLine.handle.send interval limit bytes).run line := by
  refine ⟨?_, fun _ => scheduled_honest, SerialLine.handle_honest,
    fun line isInterval limit enough =>
      SerialLine.writeAll_eq_send isInterval bytes enough⟩
  intro σ handle usable start honest ready
  obtain ⟨offers, ⟨result, final, notes⟩, usableEnd, sent, acceptedEq,
    enough, ends⟩ := honest.sendable interval _ (Nat.le_refl _) ready
  cases result with
  | error fault =>
      refine ⟨offers, ⟨.error fault, final, notes⟩, sent, acceptedEq, enough,
        fun limit limitLarge => ?_⟩
      obtain ⟨run, watchedRun⟩ := ends limit limitLarge
      rw [send, send, Act.run_bind, Act.run_bind, run, watchedRun]
      exact ⟨rfl, by simp [lastEvents]⟩
  | ok _ =>
      obtain ⟨slept, acceptedSame⟩ := honest.sleeps .zero usableEnd
      rcases pausedEq : (handle.sleep .zero).run final with
        ⟨pauseResult, after, more⟩
      rw [pausedEq] at slept acceptedSame
      simp only at slept acceptedSame
      subst slept
      refine ⟨offers, ⟨.ok (), after, notes ++ more⟩, sent,
        acceptedSame.trans acceptedEq, enough, fun limit limitLarge => ?_⟩
      obtain ⟨run, watchedRun⟩ := ends limit limitLarge
      rw [send, send, Act.run_bind, Act.run_bind, run, watchedRun,
        Outcome.andThen_ok, Outcome.andThen_ok, pausedEq,
        watched_sleep pausedEq]
      exact ⟨rfl, by simp [lastEvents]⟩

/-- A handle that takes single bytes, each at the third offer, a line whose
handle ignores two offers, and one whose handle fails at the second. -/
theorem send_once_in_order_of_short_writes :
    let bytes : Bytes := [0xFF, 0xFF, 1, 2, 1, 0xFB]
    let answers (turn : Nat) : Except Fault (Option Nat) :=
      .ok (if turn % 3 = 2 then some 1 else none)
    let line : SerialLine :=
      { SerialLine.create .suspending (.words "fake") (.integer 9600)
          (.real .one) with
        writeLimits := [.integer 2, .nothing, .integer 0, .integer 3] }
    let failing : SerialLine :=
      { line with writeLimits := [.integer 2, .words "3"] }
    let sent := (SerialLine.writeAll .suspending bytes).run line
    let stopped := (SerialLine.writeAll .suspending bytes).run failing
    (Attentive answers ∧ (scheduled answers).Honest fun _ => True) ∧
      (line.Timely ∧ failing.Timely) ∧
      (∃ offers, Sent bytes offers sent.result ∧
        sent.state.written.flatten = offers.flatMap Offer.taken) ∧
      sent.result = .ok () ∧
      sent.state.written = [[0xFF, 0xFF], [], [], [1, 2, 1], [0xFB]] ∧
      sent.state.clock = .ofNat 4 ∧
      (∃ offers, Sent bytes offers stopped.result ∧
        stopped.state.written.flatten = offers.flatMap Offer.taken) ∧
      stopped.result = .error .unsuitable ∧
      stopped.state.written = [[0xFF, 0xFF]] := by
  intro bytes answers line failing sent stopped
  obtain ⟨always, scheduledHonest, lineHonest, sends⟩ :=
    send_once_in_order .one bytes
  have attentive : Attentive answers := by
    intro turn
    refine ⟨3 * turn + 2, by omega, ?_⟩
    rintro ⟨count, answer, nothing⟩
    have third : (3 * turn + 2) % 3 = 2 := by omega
    simp only [answers, third, if_true, Except.ok.injEq] at answer
    subst answer
    cases nothing
  have onLine (line : SerialLine) (ready : line.Timely)
      (fresh : line.written = [])
      (isInterval :
        (line.pollInterval.needNumber >>= Number.toDouble) = .ok .one) :
      let outcome := (SerialLine.writeAll .suspending bytes).run line
      ∃ offers, Sent bytes offers outcome.result ∧
        outcome.state.written.flatten = offers.flatMap Offer.taken := by
    obtain ⟨offers, outcome, sent, accepted, enough, ends⟩ :=
      always lineHonest ready
    have run := sends line isInterval (enough + line.writeLimits.length + 1)
      (by omega)
    rw [run, (ends _ (by omega)).1]
    refine ⟨offers, sent, ?_⟩
    have none : SerialLine.handle.accepted line = [] :=
      congrArg List.flatten fresh
    rw [none] at accepted
    exact accepted
  refine ⟨⟨attentive, scheduledHonest answers attentive⟩, ⟨nofun, nofun⟩,
    onLine line nofun rfl rfl, ?_, ?_, ?_, onLine failing nofun rfl rfl, ?_,
    ?_⟩ <;> decide +kernel

end Handle

end ActuatorBus
