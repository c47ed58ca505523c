import ActuatorBus.Line.Link
import ActuatorBus.Number

/-!
# Serial lines

A line over the handle of a serial device. The handle is scripted: bytes
arrive at given times, replies arrive a given time after the next write, and a
write may take only a part of the bytes. A blocking line waits in the handle,
a suspending one asks it at intervals.
-/

namespace ActuatorBus

/-- A line over a serial device. -/
structure SerialLine where
  clock : Double
  /-- What the device was opened by, usually its name. -/
  device : Value
  baudRate : Value
  /-- How long a read of the handle waits for a first byte. -/
  timeout : Double
  /-- How often the timeout was set. -/
  timeoutChanges : Nat
  /-- What can be read now. -/
  input : Bytes
  /-- What arrives later, with the time, in the order of arrival. -/
  arrivals : List (Double × Bytes)
  /-- What arrives after the next write, with the microseconds that pass. -/
  replies : List (Value × Bytes)
  /-- What was written, oldest first. -/
  written : List Bytes
  /-- How many bytes the next writes take; nothing at all is taken where there
  is no number, and a negative one leaves out so many at the end. -/
  writeLimits : List Value
  discards : Nat
  flushes : Nat
  failures : LineFailures
  isOpen : Bool
  /-- How long a suspending line waits between two looks, in seconds. A
  blocking one has no interval. -/
  pollInterval : Value
deriving DecidableEq, Repr

namespace SerialLine

/-- The interval between two looks that is used unless another one is
given. -/
def defaultPollInterval : Value := .real ⟨0x3f2a36e2eb1c432d⟩

/-- A newly opened line. A suspending line sets the timeout of its handle. -/
def create (discipline : Discipline)
    (device baudRate pollInterval : Value) : SerialLine where
  clock := .zero
  device := device
  baudRate := baudRate
  timeout := .zero
  timeoutChanges :=
    match discipline with
    | .blocking => 0
    | .suspending => 1
  input := []
  arrivals := []
  replies := []
  written := []
  writeLimits := []
  discards := 0
  flushes := 0
  failures := .none
  isOpen := true
  pollInterval :=
    match discipline with
    | .blocking => .nothing
    | .suspending => pollInterval

def wait (seconds : Double) : Act SerialLine Unit :=
  Act.modify fun line => { line with clock := line.clock.add seconds }

/-- Lets time pass that is given as a number. -/
def sleep (seconds : Number) : Act SerialLine Unit := do
  wait (← Act.ofExcept seconds.toDouble)

/-- The time that is a number of microseconds from now. -/
def after (line : SerialLine) (microseconds : Value) :
    Except Fault Double := do
  let microseconds ← (← microseconds.needNumber).toDouble
  return line.clock.add (microseconds.div ⟨0x412e848000000000⟩)

/-- Lets bytes arrive a number of microseconds from now. -/
def feed (bytes : Bytes) (delay : Value) : Act SerialLine Unit := do
  let line ← Act.get
  let time ← Act.ofExcept (line.after delay)
  Act.set { line with arrivals := line.arrivals ++ [(time, bytes)] }

/-- Lets bytes arrive a number of microseconds after the next write. -/
def queueReply (bytes : Bytes) (delay : Value) (line : SerialLine) :
    SerialLine :=
  { line with replies := line.replies ++ [(delay, bytes)] }

/-! ## The handle -/

/-- Makes readable what arrived up to now. An early arrival behind a later one
has to wait for it. -/
def pull (line : SerialLine) : SerialLine :=
  let arrived (arrival : Double × Bytes) : Bool := arrival.1.le line.clock
  { line with
    input := line.input ++
      (line.arrivals.takeWhile arrived).flatMap Prod.snd
    arrivals := line.arrivals.dropWhile arrived }

/-- The number of bytes that can be read. -/
def waiting : Act SerialLine Nat := do
  Act.failOn (← Act.get).failures.read
  Act.modify pull
  return (← Act.get).input.length

/-- Reads up to `size` bytes from the handle, after waiting for a first one as
long as the timeout says. -/
def readHandle (size : Nat) : Act SerialLine Bytes := do
  Act.modify pull
  let line ← Act.get
  if line.input.isEmpty && !line.timeout.same .zero then
    let latest := line.clock.add line.timeout
    let wakeUp :=
      match line.arrivals with
      | (time, _) :: _ => if time.le latest then time else latest
      | [] => latest
    Act.set { line with clock := wakeUp }.pull
  let line ← Act.get
  Act.set { line with input := line.input.drop size }
  return line.input.take size

/-- The bytes that a write with the given limit takes. -/
def accepted (limit : Int) (bytes : Bytes) : Bytes :=
  if limit < 0 then bytes.take (bytes.length + limit).toNat
  else bytes.take limit.toNat

/-- Lets replies arrive, each after its delay. -/
private def scheduleAll : List (Value × Bytes) → Act SerialLine Unit
  | [] => pure ()
  | (delay, bytes) :: rest => do
    feed bytes delay
    scheduleAll rest

/-- Lets the queued replies start on their way. They stay queued if one of
them cannot; those before it arrive nevertheless. -/
def dispatchReplies : Act SerialLine Unit := do
  scheduleAll (← Act.get).replies
  Act.modify fun line => { line with replies := [] }

/-- The queued replies can start on their way: their delays are numbers that a
double can be. -/
def Timely (line : SerialLine) : Prop :=
  ∀ reply ∈ line.replies, ∃ delay,
    (reply.1.needNumber >>= Number.toDouble) = .ok delay

private theorem exists_after (line : SerialLine) {microseconds : Value}
    {delay : Double}
    (isDelay : (microseconds.needNumber >>= Number.toDouble) = .ok delay) :
    ∃ time, line.after microseconds = .ok time := by
  have viaDelay : line.after microseconds =
      (microseconds.needNumber >>= Number.toDouble) >>= fun delay =>
        pure (line.clock.add (delay.div ⟨0x412e848000000000⟩)) := by
    unfold after
    cases microseconds.needNumber <;> rfl
  rw [viaDelay, isDelay]
  exact ⟨_, rfl⟩

private theorem scheduleAll_run (replies : List (Value × Bytes)) :
    ∀ line : SerialLine, ∃ result arrivals,
      (scheduleAll replies).run line = ⟨result, { line with arrivals }, []⟩ ∧
        ((∀ reply ∈ replies, ∃ delay,
          (reply.1.needNumber >>= Number.toDouble) = .ok delay) →
            result = .ok ()) := by
  induction replies with
  | nil => exact fun line => ⟨.ok (), line.arrivals, rfl, fun _ => rfl⟩
  | cons reply rest restRuns =>
      intro line
      obtain ⟨microseconds, bytes⟩ := reply
      cases timed : line.after microseconds with
      | error fault =>
          refine ⟨.error fault, line.arrivals, ?_, ?_⟩
          · simp [scheduleAll, feed, timed]
          · intro timely
            obtain ⟨delay, isDelay⟩ := timely _ List.mem_cons_self
            obtain ⟨time, isTime⟩ := exists_after line isDelay
            cases timed.symm.trans isTime
      | ok time =>
          obtain ⟨result, arrivals, run, timely⟩ := restRuns
            { line with arrivals := line.arrivals ++ [(time, bytes)] }
          refine ⟨result, arrivals, ?_, ?_⟩
          · simp [scheduleAll, feed, timed, run]
          · exact fun delays => timely fun reply member =>
              delays reply (List.mem_cons_of_mem _ member)

/-- Replies that start on their way become arrivals, and nothing else
changes. -/
theorem dispatchReplies_run (line : SerialLine) :
    ∃ result arrivals replies,
      dispatchReplies.run line =
          ⟨result, { line with arrivals, replies }, []⟩ ∧
        (result = .ok () → replies = []) ∧ (line.Timely → result = .ok ()) := by
  obtain ⟨result, arrivals, run, timely⟩ := scheduleAll_run line.replies line
  cases result with
  | error fault =>
      refine ⟨.error fault, arrivals, line.replies, ?_, nofun, timely⟩
      simp [dispatchReplies, run]
  | ok _ =>
      refine ⟨.ok (), arrivals, [], ?_, fun _ => rfl, fun _ => rfl⟩
      simp [dispatchReplies, run]

/-- Writes bytes to the handle and gives the number of those it took, if it
says so. The queued replies start on their way. -/
def writeHandle (bytes : Bytes) : Act SerialLine (Option Nat) := do
  let line ← Act.get
  Act.failOn line.failures.write
  Act.set { line with writeLimits := line.writeLimits.drop 1 }
  let record (piece : Bytes) : Act SerialLine Unit :=
    Act.modify fun line => { line with written := line.written ++ [piece] }
  match line.writeLimits.head? with
  | some .nothing => do
    record []
    return none
  | limit => do
    let piece ←
      match limit with
      | some limit => do
        pure (accepted (← Act.ofExcept limit.needCount) bytes)
      | none => pure bytes
    record piece
    dispatchReplies
    return some piece.length

/-- Waits until everything written has left. -/
def flush : Act SerialLine Unit :=
  Act.modify fun line => { line with flushes := line.flushes + 1 }

/-! ## The line -/

/-- Forgets what arrived so far. -/
def discardInput : Act SerialLine Unit := do
  Act.failOn (← Act.get).failures.discard
  Act.modify fun line => { line with discards := line.discards + 1 }.pull
  Act.modify fun line => { line with input := [] }

/-- Reads what arrived. If there is nothing, a blocking line waits for a first
byte in its handle, and a suspending one gives way for an interval. -/
def read (discipline : Discipline) (space : Nat) (deadline : Double) :
    Act SerialLine Bytes := do
  let remaining := deadline.sub (← Act.get).clock
  if remaining.le .zero then Act.fail (.device .readTimedOut)
  let count ← waiting
  if 0 < count then readHandle (min count space)
  else
    match discipline with
    | .blocking => do
      Act.modify fun line =>
        { line with
          timeout := remaining
          timeoutChanges := line.timeoutChanges + 1 }
      readHandle 1
    | .suspending => do
      let interval ← Act.ofExcept (← Act.get).pollInterval.needNumber
      sleep (interval.min (.real remaining))
      return []

/-- Offers bytes again and again until all of them were taken, and pauses
after each offer that left a rest. At most `offers` offers are made. -/
def sendAll {σ : Type} (offer : Bytes → Act σ (Option Nat))
    (pause : Act σ Unit) : (offers : Nat) → Bytes → Act σ Unit
  | _, [] => pure ()
  | 0, _ => Act.fail .stalled
  | offers + 1, bytes => do
    let taken := (← offer bytes).getD 0
    let rest := bytes.drop taken
    if !rest.isEmpty then pause
    sendAll offer pause offers rest

/-- Writes bytes. A blocking line trusts its handle to take them all; a
suspending one offers them until none is left. Only limited writes leave a
rest. -/
def writeAll (discipline : Discipline) (bytes : Bytes) :
    Act SerialLine Unit := do
  match discipline with
  | .blocking => do
    let _ ← writeHandle bytes
    flush
  | .suspending => do
    let line ← Act.get
    let pause : Act SerialLine Unit := do
      sleep (← Act.ofExcept line.pollInterval.needNumber)
    sendAll writeHandle pause (line.writeLimits.length + 1) bytes
    wait .zero

/-- Closes the line, unless it is closed already. -/
def close : Act SerialLine Unit := do
  let line ← Act.get
  if line.isOpen then
    Act.set { line with isOpen := false }
    Act.note (.closed line.device)

/-- How often a bus asks for more bytes of a packet. The number is arbitrary,
but large: at the default interval so many looks take almost an hour. -/
def patience : Nat := 0x1000000

/-- The operations of a serial line. -/
def link (discipline : Discipline) : Link SerialLine where
  now := clock
  baudRate := baudRate
  setBaudRate rate line := { line with baudRate := rate }
  discardInput := discardInput
  writeAll := writeAll discipline
  read := read discipline
  close := close
  patience _ := patience

end SerialLine

end ActuatorBus
