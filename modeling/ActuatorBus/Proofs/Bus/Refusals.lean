import ActuatorBus.Proofs.Bus.Agreement
import ActuatorBus.Proofs.Bus.Orders

/-!
# Refused orders

An order that is rejected is refused before anything is done: the line and the
reader stay as they were. Only the write buffer can show that it was given, and
no other order is made of what that holds, so that all that is asked later goes
on as if there had been no such order.
-/

namespace ActuatorBus

namespace Bus

variable {σ α : Type}

/-- Two buses that differ in nothing but what their write buffers hold. -/
structure Twins (bus bus' : Bus σ) : Prop where
  room_eq : bus'.writeBuffer.length = bus.writeBuffer.length
  rest_eq : bus' = { bus with writeBuffer := bus'.writeBuffer }

variable (link : Link σ) {bus bus' : Bus σ}

theorem Twins.eq_with (twins : Twins bus bus') :
    ∃ left : Bytes, left.length = bus.writeBuffer.length ∧
      bus' = { bus with writeBuffer := left } :=
  ⟨bus'.writeBuffer, twins.room_eq, twins.rest_eq⟩

theorem Twins.onLine (twins : Twins bus bus') (action : Act σ α) :
    Outcome.Agree Twins ((Bus.onLine action).run bus)
      ((Bus.onLine action).run bus') := by
  obtain ⟨left, roomEq, rfl⟩ := twins.eq_with
  exact ⟨rfl, roomEq, rfl⟩

theorem Twins.onReader (twins : Twins bus bus') (action : Act Reader α) :
    Outcome.Agree Twins ((Bus.onReader action).run bus)
      ((Bus.onReader action).run bus') := by
  obtain ⟨left, roomEq, rfl⟩ := twins.eq_with
  exact ⟨rfl, roomEq, rfl⟩

/-! ## Reading -/

theorem Twins.readStep (twins : Twins bus bus') (deadline : Double) :
    Outcome.Agree Twins ((readStep link deadline).run bus)
      ((readStep link deadline).run bus') := by
  apply Act.agree_bind (twins.onReader _)
  intro found _ polled
  cases found with
  | some size =>
      apply Act.agree_bind (polled.onReader _)
      intro packet _ taken
      exact Act.agree_pure _ taken
  | none =>
      apply Act.agree_get
      have readerEq := congrArg Bus.reader polled.rest_eq
      simp only at readerEq
      rw [readerEq]
      apply Act.agree_bind (Act.agree_mapFault _ (polled.onLine _))
      intro bytes _ arrived
      apply Act.agree_bind (arrived.onReader _)
      intro _ _ received
      exact Act.agree_pure _ received

theorem Twins.readPacket (twins : Twins bus bus') (deadline : Double) :
    Outcome.Agree Twins ((readPacket link deadline).run bus)
      ((readPacket link deadline).run bus') := by
  have patienceEq : link.patience bus'.line = link.patience bus.line := by
    rw [twins.rest_eq]
  apply agree_readPacket patienceEq _ twins
  exact fun one two reads => reads.readStep link deadline

theorem Twins.readResponse (twins : Twins bus bus')
    (expected expectedId : Value) :
    Outcome.Agree Twins ((readResponse link expected expectedId).run bus)
      ((readResponse link expected expectedId).run bus') := by
  have timeoutEq :
      bus'.responseTimeout expected = bus.responseTimeout expected := by
    rw [twins.rest_eq]
    rfl
  have lineEq : bus'.line = bus.line := by
    rw [twins.rest_eq]
  apply agree_readResponse expectedId timeoutEq _ twins
  intro timeout
  rw [lineEq]
  exact twins.readPacket link _

/-! ## Orders -/

theorem Twins.transmit (twins : Twins bus bus') (packet : Bytes) :
    Outcome.Agree Twins ((transmit link packet).run bus)
      ((transmit link packet).run bus') := by
  apply Act.agree_bind (Act.agree_mapFault _ (twins.onLine _))
  intro _ _ discarded
  exact Act.agree_mapFault _ (discarded.onLine _)

theorem Twins.writePacket (twins : Twins bus bus') {request : Request}
    {image : Except Fault Bytes} (fills : request.Fills image)
    (motorId : Value) :
    Outcome.Agree Twins
      ((writePacket link motorId request.code
        (.integer request.parameterCount) request.fill).run bus)
      ((writePacket link motorId request.code
        (.integer request.parameterCount) request.fill).run bus') := by
  cases made : request.packet bus.writeBuffer.length motorId image with
  | ok packet =>
      have made' := made
      rw [← twins.room_eq] at made'
      rw [writePacket_ok link fills made, writePacket_ok link fills made']
      -- The packet overwrites what the buffers held where it is sent from.
      have prepared : Twins (bus.prepared packet) (bus'.prepared packet) := by
        constructor
        · rw [length_prepared fills made, length_prepared fills made']
          exact twins.room_eq
        · rw [twins.rest_eq]
          rfl
      have sent := prepared.transmit link packet.encode
      exact ⟨sent.result_eq, sent.related⟩
  | error fault =>
      have refused := made
      rw [← twins.room_eq] at refused
      obtain ⟨left, lengthEq, run⟩ := writePacket_error link fills made
      obtain ⟨left', lengthEq', run'⟩ := writePacket_error link fills refused
      rw [run, run']
      refine ⟨rfl, ?_, ?_⟩
      · exact lengthEq'.trans (twins.room_eq.trans lengthEq.symm)
      · rw [twins.rest_eq]

theorem Twins.perform (twins : Twins bus bus') {operation : Operation}
    (asks : operation.asked.isSome) :
    Outcome.Agree Twins ((perform link operation).run bus)
      ((perform link operation).run bus') := by
  obtain ⟨⟨motorId, asked⟩, asks⟩ := Option.isSome_iff_exists.1 asks
  apply agree_perform asks _ _ twins
  · rintro request rfl
    exact twins.writePacket link (Operation.asked_fills_image asks) motorId
  · exact fun expected one two sent => sent.readResponse link expected motorId

def itemsRequest (code address : Value) (items : List Value) : Request :=
  ⟨code, items.length + 1, .integer 0, some (Filler.items address items)⟩

theorem itemsRequest_fills (code address : Value) (items : List Value) :
    (itemsRequest code address items).Fills
      (address.needByte >>= fun address =>
        (Bytes.ofValues items).map (address :: ·)) :=
  ⟨1 + items.length, by simp [itemsRequest, Int.add_comm],
    Filler.writes_items address items⟩

theorem order_writeRaw (motorId code address : Value) (items : List Value) :
    order link (.writeRaw motorId code address items) =
      (do
        let request := itemsRequest code address items
        writePacket link motorId request.code
          (.integer request.parameterCount) request.fill
        return none) := rfl

theorem order_eq {given : Order} {operation : Operation}
    (makes : given.Makes operation) :
    order link given = perform link operation := by
  cases makes with
  | writeRaw areBytes =>
      rw [order, perform, writeItems_of_bytes link _ _ _ areBytes,
        writeRaw_eq_writePacket]
  | _ => rfl

theorem Twins.order (twins : Twins bus bus') (given : Order) :
    Outcome.Agree Twins ((order link given).run bus)
      ((order link given).run bus') := by
  rcases given.makes_or_spoilt with
    ⟨operation, makes⟩ | ⟨motorId, code, address, items, fault, rfl, _⟩
  · rw [order_eq link makes]
    exact twins.perform link makes.asks
  · rw [order_writeRaw]
    apply Act.agree_bind
      (twins.writePacket link (itemsRequest_fills code address items) motorId)
    intro _ _ sent
    exact Act.agree_pure none sent

end Bus

/-! ## What is asked of a bus -/

/-- A motor is given an order, or its reply to one is read. -/
inductive Errand where
  | order (order : Order)
  | response (expected expectedId : Value)

namespace Bus

variable {σ : Type}

def errand (link : Link σ) : Errand → Act (Bus σ) (Option Response)
  | .order given => order link given
  | .response expected expectedId => do
    return some (← readResponse link expected expectedId)

end Bus

namespace AsyncBus

variable {σ : Type} (link : Link σ)

def errand : Errand → Coroutine (Bus σ) (Option Response)
  | .order given => order link given
  | .response expected expectedId => do
    return some (← readResponse link expected expectedId)

theorem errand_complete (asked : Errand) :
    (errand link asked).complete link.serve = Bus.errand link asked := by
  cases asked with
  | order given => exact order_complete link given
  | response expected expectedId =>
      simp [errand, Bus.errand, readResponse_complete]

end AsyncBus

namespace Discipline

variable {σ : Type} (link : Link σ)

/-- Does what is asked of a bus of the discipline. -/
def errand (asked : Errand) : Discipline → Act (Bus σ) (Option Response)
  | blocking => Bus.errand link asked
  | suspending => (AsyncBus.errand link asked).complete link.serve

theorem errand_eq (asked : Errand) (discipline : Discipline) :
    discipline.errand link asked = Bus.errand link asked := by
  cases discipline with
  | blocking => rfl
  | suspending => exact AsyncBus.errand_complete link asked

end Discipline

namespace Bus

variable {σ : Type} (link : Link σ) {bus bus' : Bus σ} {given : Order}

theorem Twins.errand (twins : Twins bus bus') (asked : Errand) :
    Outcome.Agree Twins ((errand link asked).run bus)
      ((errand link asked).run bus') := by
  cases asked with
  | order given => exact twins.order link given
  | response expected expectedId =>
      apply Act.agree_bind (twins.readResponse link expected expectedId)
      intro response _ received
      exact Act.agree_pure (some response) received

/-- An order is refused: it fails, and nothing shows that it was given but what
the write buffer holds. -/
def Refuses (bus : Bus σ) (given : Order) : Prop :=
  ∃ fault final, Twins bus final ∧
    (order link given).run bus = ⟨.error fault, final, []⟩

theorem twins_written {left : Bytes}
    (lengthEq : left.length = bus.writeBuffer.length) :
    Twins bus { bus with writeBuffer := left } :=
  ⟨lengthEq, rfl⟩

theorem refuses_items {motorId code address : Value} {items : List Value}
    {fault : Fault} (noBytes : Bytes.ofValues items = .error fault) :
    Refuses link bus (.writeRaw motorId code address items) := by
  have fills := itemsRequest_fills code address items
  cases made : (itemsRequest code address items).packet
      bus.writeBuffer.length motorId (address.needByte >>= fun address =>
        (Bytes.ofValues items).map (address :: ·)) with
  | ok packet =>
      -- A packet would have been made of bytes.
      have imageEq := (Packet.assembled made).parameters_eq
      obtain ⟨byte, _, imageEq⟩ := bind_eq_ok_iff.1 imageEq
      rw [noBytes] at imageEq
      cases imageEq
  | error fault =>
      obtain ⟨left, lengthEq, run⟩ := writePacket_error link fills made
      refine ⟨fault, _, twins_written lengthEq, ?_⟩
      rw [order_writeRaw, Act.run_bind, run]
      rfl

theorem refuses_uninstructed {operation : Operation}
    (makes : given.Makes operation)
    (nothing : ∀ packet,
      ¬ operation.Instructs bus.writeBuffer.length packet) :
    Refuses link bus given := by
  obtain ⟨fault, left, run⟩ :=
    perform_without_instruction link rfl makes.asks nothing
  have room :
      HasRoom bus.writeBuffer.length ((perform link operation).run bus).state :=
    perform_keeps_room operation bus rfl
  rw [run] at room
  exact ⟨fault, _, twins_written room, (order_eq link makes) ▸ run⟩

theorem refuses_of_rejected
    (rejected : given.Rejected bus.writeBuffer.length) :
    Refuses link bus given := by
  rcases given.makes_or_spoilt with
    ⟨operation, makes⟩ | ⟨motorId, code, address, items, fault, rfl, noBytes⟩
  · apply refuses_uninstructed link makes
    exact fun _ instructs =>
      rejected.not_accepted (makes.accepted instructs)
  · exact refuses_items link noBytes

/-- What comes to an instruction is announced before it is sent. -/
theorem perform_announces {operation : Operation} {packet : Packet}
    (instructs : operation.Instructs bus.writeBuffer.length packet) :
    ((perform link operation).run bus).notes ≠ [] := by
  obtain ⟨motorId, tells, _⟩ := instructs.tells
  obtain ⟨request, asks, _⟩ := tells.asked_eq
  have made := (Operation.instructs_iff asks).1 instructs
  have sends :=
    writePacket_ok link (Operation.asked_fills_image asks) made
  rw [perform_eq link asks, Act.ofExcept_ok, pure_bind]
  obtain ⟨more, notesEq⟩ := Act.run_bind_notes _ bus
  rw [notesEq, sends]
  exact List.cons_ne_nil _ _

theorem rejected_of_refuses (refuses : Refuses link bus given) :
    given.Rejected bus.writeBuffer.length := by
  by_contra fine
  obtain ⟨operation, packet, makes, instructs⟩ :=
    (Order.accepted_of_not_rejected fine).instructs
  obtain ⟨fault, final, _, run⟩ := refuses
  rw [order_eq link makes] at run
  apply perform_announces link instructs
  rw [run]

/-- An order is rejected if and only if it is refused, whether the bus blocks
or suspends, whatever the line is and whatever was done with the bus before. The
line is not used: it can be one that counts its uses. All that is asked later
comes to the same as if the order had not been given. -/
theorem rejected_iff_refuses (discipline : Discipline) (bus : Bus σ)
    (given : Order) :
    given.Rejected bus.writeBuffer.length ↔
      ∃ fault final, Twins bus final ∧
        (discipline.errand link (.order given)).run bus =
          ⟨.error fault, final, []⟩ ∧
        ∀ errands : List Errand,
          List.Forall₂ (Outcome.Agree Twins)
            (Act.transcript (errands.map (discipline.errand link)) bus)
            (Act.transcript (errands.map (discipline.errand link)) final) := by
  constructor
  · intro rejected
    obtain ⟨fault, final, twins, run⟩ := refuses_of_rejected link rejected
    refine ⟨fault, final, twins, ?_, fun errands => ?_⟩
    · rw [Discipline.errand_eq]
      exact run
    · have steps : ∀ asked one two, Twins one two →
          Outcome.Agree Twins ((discipline.errand link asked).run one)
            ((discipline.errand link asked).run two) := by
        intro asked one two related
        rw [Discipline.errand_eq]
        exact related.errand link asked
      exact Act.agree_transcript steps errands bus final twins
  · rintro ⟨fault, final, twins, run, _⟩
    rw [Discipline.errand_eq] at run
    exact rejected_of_refuses link ⟨fault, final, twins, run⟩

end Bus

end ActuatorBus
