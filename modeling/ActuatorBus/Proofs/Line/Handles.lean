import ActuatorBus.Line.Serial
import ActuatorBus.Proofs.Runs

/-!
# Sending over a handle

A handle takes a part of the bytes that it is offered, maybe none, and says how
many they were. To send bytes they are offered until all of them were taken,
with a pause after each offer that left a rest. Nothing is known of a handle but
that it keeps its word and does not ignore an offer for ever; then every byte
is taken once and in its place, or the handle fails.
-/

namespace ActuatorBus

/-- What bytes are sent over. -/
structure Handle (σ : Type) where
  /-- Offers bytes and gives the number of those that were taken, if the handle
  says so. -/
  offer : Bytes → Act σ (Option Nat)
  sleep : (seconds : Double) → Act σ Unit
  /-- All the bytes that were taken so far. -/
  accepted : σ → Bytes

namespace Handle

variable {σ : Type}

/-- Sends bytes, with an interval after each offer that left a rest, and gives
way at the end. At most `limit` offers are made. -/
def send (handle : Handle σ) (interval : Double) (limit : Nat)
    (bytes : Bytes) : Act σ Unit := do
  SerialLine.sendAll handle.offer (handle.sleep interval) limit bytes
  handle.sleep .zero

/-! ## Offers -/

/-- Bytes that were offered, and the answer. -/
structure Offer where
  bytes : Bytes
  answer : Except Fault (Option Nat)

namespace Offer

/-- How many bytes were taken. A handle that failed, or gave no number, took
none. -/
def count (offer : Offer) : Nat :=
  match offer.answer with
  | .ok answer => answer.getD 0
  | .error _ => 0

def taken (offer : Offer) : Bytes := offer.bytes.take offer.count

def rest (offer : Offer) : Bytes := offer.bytes.drop offer.count

def Answered (offer : Offer) : Prop := ∃ answer, offer.answer = .ok answer

theorem rest_ok (bytes : Bytes) (answer : Option Nat) :
    (Offer.mk bytes (.ok answer)).rest = bytes.drop (answer.getD 0) := rfl

theorem taken_append_rest (offer : Offer) :
    offer.taken ++ offer.rest = offer.bytes :=
  List.take_append_drop _ _

end Offer

/-- Bytes were sent by a number of offers, with a result. -/
structure Sent (bytes : Bytes) (offers : List Offer)
    (result : Except Fault Unit) : Prop where
  /-- What is offered is never empty, and begins where the bytes that were
  taken before it end. -/
  follows : ∀ before offer after, offers = before ++ offer :: after →
    offer.bytes ≠ [] ∧ before.flatMap Offer.taken ++ offer.bytes = bytes
  whole : result = .ok () →
    (∀ offer ∈ offers, offer.Answered) ∧ offers.flatMap Offer.taken = bytes
  /-- A fault is the answer to the last offer, and to no other. -/
  stopped : ∀ fault, result = .error fault →
    (∃ before last, offers = before ++ [⟨last, .error fault⟩] ∧
      ∀ offer ∈ before, offer.Answered) ∧
    offers.flatMap Offer.taken <+: bytes ∧
      offers.flatMap Offer.taken ≠ bytes

theorem sent_nothing : Sent [] [] (.ok ()) where
  follows := by
    intro before offer after split
    simp at split
  whole := fun _ => ⟨nofun, rfl⟩
  stopped := nofun

variable {bytes : Bytes} {offers : List Offer} {result : Except Fault Unit}

theorem sent_refused (some : bytes ≠ []) (fault : Fault) :
    Sent bytes [⟨bytes, .error fault⟩] (.error fault) where
  follows := by
    intro before offer after split
    obtain ⟨rfl, equal⟩ : before = [] ∧ Offer.mk bytes (.error fault) = offer :=
      by cases before <;> simp_all
    subst equal
    exact ⟨some, rfl⟩
  whole := nofun
  stopped := by
    rintro _ ⟨⟩
    exact ⟨⟨[], bytes, rfl, nofun⟩, List.nil_prefix, fun equal => some equal.symm⟩

/-- An offer that was answered, and how its rest was sent. -/
theorem Sent.cons {offer : Offer} (some : offer.bytes ≠ [])
    (answered : offer.Answered) (sent : Sent offer.rest offers result) :
    Sent offer.bytes (offer :: offers) result where
  follows := by
    intro before middle after split
    cases before with
    | nil =>
        obtain ⟨rfl, _⟩ := List.cons.inj split
        exact ⟨some, rfl⟩
    | cons first before =>
        obtain ⟨rfl, splitRest⟩ := List.cons.inj split
        obtain ⟨someMiddle, follows⟩ :=
          sent.follows before middle after splitRest
        refine ⟨someMiddle, ?_⟩
        rw [List.flatMap_cons, List.append_assoc, follows,
          offer.taken_append_rest]
  whole := by
    intro done
    obtain ⟨allAnswered, whole⟩ := sent.whole done
    refine ⟨List.forall_mem_cons.2 ⟨answered, allAnswered⟩, ?_⟩
    rw [List.flatMap_cons, whole, offer.taken_append_rest]
  stopped := by
    intro fault failed
    obtain ⟨⟨before, last, split, answeredBefore⟩, part, proper⟩ :=
      sent.stopped fault failed
    refine ⟨⟨offer :: before, last, by rw [split, List.cons_append],
      List.forall_mem_cons.2 ⟨answered, answeredBefore⟩⟩, ?_, ?_⟩
    · rw [List.flatMap_cons, ← offer.taken_append_rest]
      exact (List.prefix_append_right_inj _).2 part
    · rw [List.flatMap_cons, ← offer.taken_append_rest]
      exact fun equal => proper (List.append_cancel_left equal)

/-! ## Watching a handle -/

/-- What happens at a handle. -/
inductive Event where
  | offered (offer : Offer)
  | slept (seconds : Double)

/-- A handle with everything that happened at it. -/
structure Watched (σ : Type) where
  state : σ
  events : List Event

/-- A handle that keeps a record. -/
def watched (handle : Handle σ) : Handle (Watched σ) where
  offer bytes := do
    let answer ← Act.on Watched.state
      (fun state watched => { watched with state })
      (handle.offer bytes).attempt
    Act.modify fun watched =>
      { watched with events := watched.events ++ [.offered ⟨bytes, answer⟩] }
    Act.ofExcept answer
  sleep seconds := do
    Act.on Watched.state (fun state watched => { watched with state })
      (handle.sleep seconds)
    Act.modify fun watched =>
      { watched with events := watched.events ++ [.slept seconds] }
  accepted watched := handle.accepted watched.state

/-- What happens with an offer: it is made, and there is a pause if it was
answered and left a rest. -/
def Offer.events (interval : Double) (offer : Offer) : List Event :=
  match offer.answer with
  | .ok _ =>
    if offer.rest = [] then [.offered offer]
    else [.offered offer, .slept interval]
  | .error _ => [.offered offer]

/-- What happens at the end. -/
def lastEvents : Except Fault Unit → List Event
  | .ok _ => [.slept .zero]
  | .error _ => []

/-! ## Handles that keep their word -/

/-- Offered the same bytes again and again, with pauses, a handle takes some of
them at last, or it fails. -/
inductive Responds (handle : Handle σ) (interval : Double) (bytes : Bytes) :
    σ → Prop where
  | takes {state : σ} {count : Nat}
    (takes : ((handle.offer bytes).run state).result = .ok (some (count + 1))) :
    Responds handle interval bytes state
  | fails {state : σ} {fault : Fault}
    (fails : ((handle.offer bytes).run state).result = .error fault) :
    Responds handle interval bytes state
  | later {state : σ} {answer : Option Nat}
    (answered : ((handle.offer bytes).run state).result = .ok answer)
    (ignored : answer.getD 0 = 0)
    (later : Responds handle interval bytes
      ((handle.sleep interval).run
        ((handle.offer bytes).run state).state).state) :
    Responds handle interval bytes state

/-- A handle that takes what it says it takes, and nothing from an offer that
it fails at, and that does not ignore bytes for ever, in all states that are
usable. -/
structure Honest (handle : Handle σ) (usable : σ → Prop) : Prop where
  keeps_offer (bytes : Bytes) : Act.Keeps usable (handle.offer bytes)
  keeps_sleep (seconds : Double) : Act.Keeps usable (handle.sleep seconds)
  accepted_offer (bytes : Bytes) {state : σ} (ready : usable state) :
    let outcome := (handle.offer bytes).run state
    handle.accepted outcome.state =
      handle.accepted state ++ Offer.taken ⟨bytes, outcome.result⟩
  sleeps (seconds : Double) {state : σ} (ready : usable state) :
    let outcome := (handle.sleep seconds).run state
    outcome.result = .ok () ∧
      handle.accepted outcome.state = handle.accepted state
  responds (interval : Double) {bytes : Bytes} {state : σ}
    (ready : usable state) (some : bytes ≠ []) :
    handle.Responds interval bytes state

/-! ## The loop -/

section

variable {τ : Type} {offer : Bytes → Act τ (Option Nat)} {pause : Act τ Unit}
  {state middle after : τ} {notes more : List Note}

theorem sendAll_succ (some : bytes ≠ []) (limit : Nat) :
    SerialLine.sendAll offer pause (limit + 1) bytes =
      offer bytes >>= fun answer =>
        let rest := (Offer.mk bytes (.ok answer)).rest
        if rest = [] then pure ()
        else pause >>= fun _ => SerialLine.sendAll offer pause limit rest := by
  cases bytes with
  | nil => exact absurd rfl some
  | cons first others =>
      rw [SerialLine.sendAll]
      · congr 1
        funext answer
        simp only [Offer.rest_ok]
        by_cases whole : List.drop (answer.getD 0) (first :: others) = []
        · simp only [whole, List.isEmpty_nil, Bool.not_true,
            Bool.false_eq_true, if_false, if_true, SerialLine.sendAll]
        · have part := List.isEmpty_eq_false_iff.2 whole
          simp only [whole, part, Bool.not_false, if_false, if_true]
      · exact some

theorem sendAll_refused {fault : Fault} (some : bytes ≠ [])
    (ran : (offer bytes).run state = ⟨.error fault, after, notes⟩)
    (limit : Nat) :
    (SerialLine.sendAll offer pause (limit + 1) bytes).run state =
      ⟨.error fault, after, notes⟩ := by
  rw [sendAll_succ some, Act.run_bind, ran, Outcome.andThen_error]

theorem sendAll_last {answer : Option Nat} (some : bytes ≠ [])
    (ran : (offer bytes).run state = ⟨.ok answer, after, notes⟩)
    (whole : (Offer.mk bytes (.ok answer)).rest = []) (limit : Nat) :
    (SerialLine.sendAll offer pause (limit + 1) bytes).run state =
      ⟨.ok (), after, notes⟩ := by
  rw [sendAll_succ some, Act.run_bind, ran, Outcome.andThen_ok, if_pos whole,
    Act.run_pure, List.append_nil]

theorem sendAll_next {answer : Option Nat} (some : bytes ≠ [])
    (ran : (offer bytes).run state = ⟨.ok answer, middle, notes⟩)
    (paused : pause.run middle = ⟨.ok (), after, more⟩)
    (part : (Offer.mk bytes (.ok answer)).rest ≠ []) (limit : Nat) :
    let outcome := (SerialLine.sendAll offer pause limit
      (Offer.mk bytes (.ok answer)).rest).run after
    (SerialLine.sendAll offer pause (limit + 1) bytes).run state =
      ⟨outcome.result, outcome.state, notes ++ (more ++ outcome.notes)⟩ := by
  rw [sendAll_succ some, Act.run_bind, ran, Outcome.andThen_ok, if_neg part,
    Act.run_bind, paused, Outcome.andThen_ok]

end

section

variable {handle : Handle σ} {state after : σ} {notes : List Note}

theorem watched_offer {result : Except Fault (Option Nat)}
    (ran : (handle.offer bytes).run state = ⟨result, after, notes⟩)
    (events : List Event) :
    (handle.watched.offer bytes).run ⟨state, events⟩ =
      ⟨result, ⟨after, events ++ [.offered ⟨bytes, result⟩]⟩, notes⟩ := by
  simp [watched, ran]

theorem watched_sleep {seconds : Double}
    (ran : (handle.sleep seconds).run state = ⟨.ok (), after, notes⟩)
    (events : List Event) :
    (handle.watched.sleep seconds).run ⟨state, events⟩ =
      ⟨.ok (), ⟨after, events ++ [.slept seconds]⟩, notes⟩ := by
  simp [watched, ran]

end

/-- What comes of offering bytes until all of them were taken: the offers, and
where the handle is left, if no limit stops it. -/
structure Sending (handle : Handle σ) (interval : Double) (start : σ)
    (bytes : Bytes) (offers : List Offer) (outcome : Outcome σ Unit) :
    Prop where
  sent : Sent bytes offers outcome.result
  accepted_eq : handle.accepted outcome.state =
    handle.accepted start ++ offers.flatMap Offer.taken
  ends : ∃ enough, ∀ limit, enough ≤ limit →
    (SerialLine.sendAll handle.offer (handle.sleep interval) limit
        bytes).run start = outcome ∧
      ∀ events, (SerialLine.sendAll handle.watched.offer
          (handle.watched.sleep interval) limit bytes).run ⟨start, events⟩ =
        ⟨outcome.result, ⟨outcome.state,
          events ++ offers.flatMap (Offer.events interval)⟩, outcome.notes⟩

/-- Bytes can be sent from a state, and the handle is usable afterwards. -/
def Sendable (handle : Handle σ) (usable : σ → Prop) (interval : Double)
    (start : σ) (bytes : Bytes) : Prop :=
  ∃ offers outcome, usable outcome.state ∧
    handle.Sending interval start bytes offers outcome

section

variable {handle : Handle σ} {usable : σ → Prop} {interval : Double}
  {start middle after : σ} {notes more : List Note}

theorem sending_nothing (handle : Handle σ) (interval : Double) (start : σ) :
    handle.Sending interval start [] [] ⟨.ok (), start, []⟩ where
  sent := sent_nothing
  accepted_eq := (List.append_nil _).symm
  ends := ⟨0, fun limit _ => by simp [SerialLine.sendAll]⟩

variable (honest : handle.Honest usable) (ready : usable start)
  (some : bytes ≠ [])
include honest ready some

theorem Honest.sending_refused {fault : Fault}
    (ran : (handle.offer bytes).run start = ⟨.error fault, after, notes⟩) :
    handle.Sending interval start bytes [⟨bytes, .error fault⟩]
      ⟨.error fault, after, notes⟩ where
  sent := sent_refused some fault
  accepted_eq := by
    have accepted := honest.accepted_offer bytes ready
    rw [ran] at accepted
    simpa using accepted
  ends := by
    refine ⟨1, fun limit enough => ?_⟩
    obtain ⟨fewer, rfl⟩ := Nat.exists_eq_add_of_le' enough
    refine ⟨sendAll_refused some ran fewer, fun events => ?_⟩
    exact sendAll_refused some (watched_offer ran events) fewer

theorem Honest.sending_last {answer : Option Nat}
    (ran : (handle.offer bytes).run start = ⟨.ok answer, after, notes⟩)
    (whole : (Offer.mk bytes (.ok answer)).rest = []) :
    handle.Sending interval start bytes [⟨bytes, .ok answer⟩]
      ⟨.ok (), after, notes⟩ where
  sent := by
    have nothing : Sent (Offer.mk bytes (.ok answer)).rest [] (.ok ()) := by
      rw [whole]
      exact sent_nothing
    exact nothing.cons some ⟨answer, rfl⟩
  accepted_eq := by
    have accepted := honest.accepted_offer bytes ready
    rw [ran] at accepted
    simpa using accepted
  ends := by
    refine ⟨1, fun limit enough => ?_⟩
    obtain ⟨fewer, rfl⟩ := Nat.exists_eq_add_of_le' enough
    refine ⟨sendAll_last some ran whole fewer, fun events => ?_⟩
    rw [sendAll_last some (watched_offer ran events) whole fewer]
    simp [Offer.events, whole]

theorem Honest.sending_next {answer : Option Nat}
    (ran : (handle.offer bytes).run start = ⟨.ok answer, middle, notes⟩)
    (paused : (handle.sleep interval).run middle = ⟨.ok (), after, more⟩)
    (part : (Offer.mk bytes (.ok answer)).rest ≠ [])
    {outcome : Outcome σ Unit}
    (sending : handle.Sending interval after
      (Offer.mk bytes (.ok answer)).rest offers outcome) :
    handle.Sending interval start bytes (⟨bytes, .ok answer⟩ :: offers)
      ⟨outcome.result, outcome.state, notes ++ (more ++ outcome.notes)⟩ where
  sent := sending.sent.cons some ⟨answer, rfl⟩
  accepted_eq := by
    have accepted := honest.accepted_offer bytes ready
    have usableMiddle := honest.keeps_offer bytes start ready
    rw [ran] at accepted usableMiddle
    have slept := (honest.sleeps interval usableMiddle).2
    rw [paused] at slept
    rw [sending.accepted_eq, slept, accepted, List.flatMap_cons,
      List.append_assoc]
  ends := by
    obtain ⟨enough, ends⟩ := sending.ends
    refine ⟨enough + 1, fun limit limitLarge => ?_⟩
    obtain ⟨fewer, rfl⟩ : ∃ fewer, limit = fewer + 1 :=
      ⟨limit - 1, by omega⟩
    obtain ⟨run, watchedRun⟩ := ends fewer (by omega)
    constructor
    · have step := sendAll_next some ran paused part fewer
      simp only [run] at step
      exact step
    · intro events
      have step := sendAll_next some (watched_offer ran events)
        (watched_sleep paused _) part fewer
      simp only [watchedRun] at step
      rw [step]
      simp [Offer.events, part]

theorem Honest.sendable_of_fault {fault : Fault}
    (failed : ((handle.offer bytes).run start).result = .error fault) :
    handle.Sendable usable interval start bytes := by
  have usableAfter := honest.keeps_offer bytes start ready
  rcases ran : (handle.offer bytes).run start with ⟨result, after, notes⟩
  rw [ran] at failed usableAfter
  simp only at failed
  subst failed
  exact ⟨_, _, usableAfter, honest.sending_refused ready some ran⟩

/-- After an answer there is a rest to be sent, or none. -/
theorem Honest.sendable_of_answer {answer : Option Nat}
    (answered : ((handle.offer bytes).run start).result = .ok answer)
    (sendRest : (Offer.mk bytes (.ok answer)).rest ≠ [] → ∀ next,
      usable next →
      next = ((handle.sleep interval).run
        ((handle.offer bytes).run start).state).state →
      handle.Sendable usable interval next
        (Offer.mk bytes (.ok answer)).rest) :
    handle.Sendable usable interval start bytes := by
  have usableMiddle := honest.keeps_offer bytes start ready
  have usableAfter := honest.keeps_sleep interval _ usableMiddle
  have slept := (honest.sleeps interval usableMiddle).1
  rcases ran : (handle.offer bytes).run start with ⟨result, middle, notes⟩
  rw [ran] at answered usableMiddle usableAfter slept sendRest
  simp only at answered
  subst answered
  by_cases whole : (Offer.mk bytes (.ok answer)).rest = []
  · exact ⟨_, _, usableMiddle, honest.sending_last ready some ran whole⟩
  · obtain ⟨offers, outcome, usableEnd, sending⟩ :=
      sendRest whole _ usableAfter rfl
    rcases paused : (handle.sleep interval).run middle with
      ⟨result, after, more⟩
    rw [paused] at slept sending
    simp only at slept
    subst slept
    refine ⟨_, _, ?_,
      honest.sending_next ready some ran paused whole sending⟩
    exact usableEnd

end

/-- Sending ends: of every offer the handle takes something at last, or fails,
and there are only so many bytes to take. -/
theorem Honest.sendable {handle : Handle σ} {usable : σ → Prop}
    (honest : handle.Honest usable) (interval : Double) (size : Nat) :
    ∀ {bytes : Bytes} {start : σ}, bytes.length ≤ size → usable start →
      handle.Sendable usable interval start bytes := by
  have nothing : ∀ {start : σ}, usable start →
      handle.Sendable usable interval start [] := fun ready =>
    ⟨_, _, ready, sending_nothing handle interval _⟩
  induction size with
  | zero =>
      intro bytes start short ready
      obtain rfl := List.eq_nil_of_length_eq_zero (Nat.le_zero.1 short)
      exact nothing ready
  | succ size sendShorter =>
      intro bytes start short ready
      by_cases some : bytes = []
      · subst some
        exact nothing ready
      · have responds := honest.responds interval ready some
        induction responds with
        | @takes state count takes =>
            refine honest.sendable_of_answer ready some takes ?_
            intro _ next usableNext _
            refine sendShorter ?_ usableNext
            rw [Offer.rest_ok, List.length_drop, Option.getD_some]
            omega
        | fails failed => exact honest.sendable_of_fault ready some failed
        | @later state answer answered ignored later sendLater =>
            refine honest.sendable_of_answer ready some answered ?_
            rintro _ next usableNext rfl
            have restEq : (Offer.mk bytes (.ok answer)).rest = bytes := by
              rw [Offer.rest_ok, ignored, List.drop_zero]
            rw [restEq]
            exact sendLater usableNext

end Handle

end ActuatorBus
