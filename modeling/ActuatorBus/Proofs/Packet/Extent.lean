import ActuatorBus.Proofs.Packet.Room
import ActuatorBus.Proofs.Packet.Sealing

/-!
# What writing a packet touches

A packet is written over the front of a buffer, by a filler that may do with
the bytes of the parameters whatever it likes, and may stop half way. What is
left in the buffer is known in every case (`putFields_run`), so that nothing
behind the packet is ever touched (`write_touches_packet`).
-/

namespace ActuatorBus.Packet

open Filler

variable {count : Nat} {fill : Option Filler} {field rest : Bytes}

/-- What the filler makes of the bytes of the parameters. Without a filler they
stay. -/
def filledFrom (fill : Option Filler) (field : Bytes) : Outcome Bytes Unit :=
  (fill.getD (pure ())).run field

theorem putParameters_run {done : Bytes}
    (doneLength : done.length = parametersPosition)
    (fieldLength : field.length = count) :
    (putParameters count fill).run (done ++ (field ++ rest)) =
      ⟨(filledFrom fill field).result,
        done ++ ((filledFrom fill field).state ++ rest),
        (filledFrom fill field).notes⟩ := by
  have view :
      Bytes.slice parametersPosition (parametersPosition + count)
        (done ++ (field ++ rest)) = field := by
    rw [Bytes.slice, ← List.append_assoc, ← doneLength, ← fieldLength,
      ← List.length_append, List.take_left, List.drop_left]
  have behind :
      (done ++ (field ++ rest)).drop (parametersPosition + count) = rest := by
    rw [← List.append_assoc, ← doneLength, ← fieldLength,
      ← List.length_append, List.drop_left]
  have front : (done ++ (field ++ rest)).take parametersPosition = done := by
    rw [← doneLength, List.take_left]
  cases fill with
  | none => rfl
  | some filler =>
      simp [putParameters, Filler.within, filledFrom, view, behind, front]

/-- What is in the buffer once the fields before the checksum were written, as
far as they could be. -/
theorem putFields_run (motorId code : Int) (a b c d e : UInt8)
    (countable : (count : Int) + 2 ≤ maximumLength)
    (fieldLength : field.length = count) :
    (putFields (.integer motorId) (.integer code) count fill).run
        (a :: b :: c :: d :: e :: (field ++ rest)) =
      match Bytes.needByte motorId, Bytes.needByte code with
      | .error fault, _ =>
        ⟨.error fault, headerByte :: headerByte :: c :: d :: e ::
          (field ++ rest), []⟩
      | .ok idByte, .error fault =>
        ⟨.error fault, headerByte :: headerByte :: idByte ::
          UInt8.ofNat (count + 2) :: e :: (field ++ rest), []⟩
      | .ok idByte, .ok codeByte =>
        ⟨(filledFrom fill field).result,
          headerByte :: headerByte :: idByte :: UInt8.ofNat (count + 2) ::
            codeByte :: ((filledFrom fill field).state ++ rest),
          (filledFrom fill field).notes⟩ := by
  -- The steps before the filler do not look at what follows the code.
  generalize tailEq : field ++ rest = tail
  have counted := needByte_length countable
  generalize UInt8.ofNat (count + 2) = length at counted ⊢
  have headerPut :
      putHeader.run (a :: b :: c :: d :: e :: tail) =
        ⟨.ok (), headerByte :: headerByte :: c :: d :: e :: tail, []⟩ := by
    simp [putHeader, putByte_run]
  cases idEq : Bytes.needByte motorId with
  | error fault =>
      have idPut :
          (putByte idPosition motorId).run
              (headerByte :: headerByte :: c :: d :: e :: tail) =
            ⟨.error fault, headerByte :: headerByte :: c :: d :: e :: tail,
              []⟩ := by
        rw [putByte_run (by simp [idPosition]), idEq]
      simp [putFields, headerPut, idPut]
  | ok idByte =>
      have idPut :
          (putByte idPosition motorId).run
              (headerByte :: headerByte :: c :: d :: e :: tail) =
            ⟨.ok (), headerByte :: headerByte :: idByte :: d :: e :: tail,
              []⟩ := by
        rw [putByte_run (by simp [idPosition]), idEq]
        rfl
      have lengthPut :
          (putByte lengthPosition (count + 2)).run
              (headerByte :: headerByte :: idByte :: d :: e :: tail) =
            ⟨.ok (), headerByte :: headerByte :: idByte :: length :: e ::
              tail, []⟩ := by
        rw [putByte_run (by simp [lengthPosition]), counted]
        rfl
      cases codeEq : Bytes.needByte code with
      | error fault =>
          have codePut :
              (putByte codePosition code).run
                  (headerByte :: headerByte :: idByte :: length :: e ::
                    tail) =
                ⟨.error fault, headerByte :: headerByte :: idByte ::
                  length :: e :: tail, []⟩ := by
            rw [putByte_run (by simp [codePosition]), codeEq]
          simp [putFields, headerPut, idPut, lengthPut, codePut]
      | ok codeByte =>
          have codePut :
              (putByte codePosition code).run
                  (headerByte :: headerByte :: idByte :: length :: e ::
                    tail) =
                ⟨.ok (), headerByte :: headerByte :: idByte :: length ::
                  codeByte :: tail, []⟩ := by
            rw [putByte_run (by simp [codePosition]), codeEq]
            rfl
          have doneLength :
              [headerByte, headerByte, idByte, length, codeByte].length =
                parametersPosition := rfl
          have filled :
              (putParameters count fill).run (_ ++ (field ++ rest)) = _ :=
            putParameters_run doneLength fieldLength
          simp only [List.cons_append, List.nil_append, tailEq] at filled
          simp [putFields, headerPut, idPut, lengthPut, codePut, filled]

/-- A buffer with room for a packet. -/
theorem exists_room {buffer : Bytes}
    (enough : count + minimumSize ≤ buffer.length) :
    ∃ a b c d e field old rest,
      buffer = a :: b :: c :: d :: e :: (field ++ old :: rest) ∧
        field.length = count := by
  match buffer with
  | a :: b :: c :: d :: e :: tail =>
      have inside : count < tail.length := by
        simp only [List.length_cons, minimumSize] at enough
        omega
      have tailEq : tail = tail.take count ++ tail[count] ::
          tail.drop (count + 1) := by
        rw [← List.drop_eq_getElem_cons inside, List.take_append_drop]
      refine ⟨a, b, c, d, e, tail.take count, tail[count],
        tail.drop (count + 1), ?_, List.length_take_of_le (by omega)⟩
      rw [← tailEq]
  | [] | [_] | [_, _] | [_, _, _] | [_, _, _, _] =>
      simp [minimumSize] at enough

/-- An id and a code are bytes. -/
def AreBytes (motorId code : Int) : Prop :=
  (0 ≤ motorId ∧ motorId ≤ 255) ∧ 0 ≤ code ∧ code ≤ 255

/-- What became of a packet in a buffer that has room for it. -/
inductive Ended (motorId code : Int) (filled : Outcome Bytes Unit)
    (outcome : Outcome Bytes Nat) : Prop where
  | misfit (outside : ¬ AreBytes motorId code)
    (result_eq : outcome.result = .error .notAByte)
  | stopped {fault : Fault} (inside : AreBytes motorId code)
    (filled_eq : filled.result = .error fault)
    (result_eq : outcome.result = .error fault)
  | written (packet : Packet) (motorId_eq : motorId = packet.motorId.toNat)
    (code_eq : code = packet.code.toNat) (filled_eq : filled.result = .ok ())
    (parameters_eq : packet.parameters = filled.state)
    (result_eq : outcome.result = .ok packet.encode.length)
    (encode_eq : outcome.state.take packet.encode.length = packet.encode)

theorem areBytes_of_packet (packet : Packet) :
    AreBytes packet.motorId.toNat packet.code.toNat := by
  have idSmall := packet.motorId.toNat_lt
  have codeSmall := packet.code.toNat_lt
  exact ⟨⟨by omega, by omega⟩, by omega, by omega⟩

section

variable {motorId code : Int} {filled : Outcome Bytes Unit}
  {outcome : Outcome Bytes Nat}

theorem Ended.succeeds_iff (ended : Ended motorId code filled outcome) :
    (∃ size, outcome.result = .ok size) ↔
      AreBytes motorId code ∧ filled.result = .ok () := by
  cases ended with
  | misfit outside resultEq => simp [outside, resultEq]
  | stopped inside filledEq resultEq => simp [filledEq, resultEq]
  | written packet idEq codeEq filledEq parametersEq resultEq encodeEq =>
      subst idEq codeEq
      simp [areBytes_of_packet, filledEq, resultEq]

theorem Ended.refuses (ended : Ended motorId code filled outcome)
    (outside : ¬ AreBytes motorId code) :
    outcome.result = .error .notAByte := by
  cases ended with
  | misfit _ resultEq => exact resultEq
  | stopped inside _ _ => exact absurd inside outside
  | written packet idEq codeEq _ _ _ _ =>
      subst idEq codeEq
      exact absurd (areBytes_of_packet packet) outside

theorem Ended.stops (ended : Ended motorId code filled outcome)
    (inside : AreBytes motorId code) {fault : Fault}
    (stopped : filled.result = .error fault) :
    outcome.result = .error fault := by
  cases ended with
  | misfit outside _ => exact absurd inside outside
  | stopped _ filledEq resultEq =>
      cases filledEq.symm.trans stopped
      exact resultEq
  | written _ _ _ filledEq _ _ _ => cases filledEq.symm.trans stopped

theorem Ended.encoded (ended : Ended motorId code filled outcome) {size : Nat}
    (made : outcome.result = .ok size) :
    ∃ packet : Packet, motorId = packet.motorId.toNat ∧
      code = packet.code.toNat ∧ packet.parameters = filled.state ∧
      size = packet.encode.length ∧
      outcome.state.take size = packet.encode := by
  cases ended with
  | misfit _ resultEq => cases resultEq.symm.trans made
  | stopped _ _ resultEq => cases resultEq.symm.trans made
  | written packet idEq codeEq _ parametersEq resultEq encodeEq =>
      cases resultEq.symm.trans made
      exact ⟨packet, idEq, codeEq, parametersEq, rfl, encodeEq⟩

end

/-- A buffer is as long as another one, and the same from a position on. -/
structure Framed (position : Nat) (buffer left : Bytes) : Prop where
  length_eq : left.length = buffer.length
  drop_eq : left.drop position = buffer.drop position

theorem framed_fields {a b c d e old a' b' c' d' e' old' : UInt8}
    {left : Bytes} (fieldLength : field.length = count)
    (leftLength : left.length = count) :
    Framed (count + minimumSize)
      (a :: b :: c :: d :: e :: (field ++ old :: rest))
      (a' :: b' :: c' :: d' :: e' :: (left ++ old' :: rest)) := by
  have behind (bytes : Bytes) (last : UInt8) (length : bytes.length = count) :
      (bytes ++ last :: rest).drop (count + 1) = rest := by
    rw [List.append_cons]
    exact List.drop_left' (by rw [List.length_append, length]; rfl)
  constructor
  · simp [fieldLength, leftLength]
  · exact (behind left old' leftLength).trans
      (behind field old fieldLength).symm

theorem write_ended {buffer : Bytes} (motorId code : Int)
    (kept : ∀ field : Bytes, field.length = count →
      (filledFrom fill field).state.length = count)
    (fits : size count ≤ buffer.length)
    (countable : (count : Int) + 2 ≤ maximumLength) :
    let outcome := (write (.integer motorId) (.integer code) (.integer count)
      fill).run buffer
    Ended motorId code
        (filledFrom fill
          (buffer.slice parametersPosition (parametersPosition + count)))
        outcome ∧
      Framed (count + minimumSize) buffer outcome.state := by
  intro outcome
  have enough : count + minimumSize ≤ buffer.length := by
    simp only [size] at fits
    omega
  have run : outcome = _ := write_run (.integer motorId) (.integer code)
    fits countable
  obtain ⟨a, b, c, d, e, field, old, rest, rfl, fieldLength⟩ :=
    exists_room enough
  have view : Bytes.slice parametersPosition (parametersPosition + count)
      (a :: b :: c :: d :: e :: (field ++ old :: rest)) = field := by
    rw [Nat.add_comm]
    exact List.take_left' fieldLength
  rw [view]
  have leftLength := kept field fieldLength
  rw [Act.run_bind, putFields_run motorId code a b c d e countable
    fieldLength] at run
  generalize outcome = final at run ⊢
  subst run
  cases idEq : Bytes.needByte motorId with
  | error fault =>
      obtain ⟨rfl, outside⟩ := Bytes.needByte_error idEq
      refine ⟨.misfit (fun inside => outside inside.1) rfl, ?_⟩
      exact framed_fields fieldLength fieldLength
  | ok idByte =>
      cases codeEq : Bytes.needByte code with
      | error fault =>
          obtain ⟨rfl, outside⟩ := Bytes.needByte_error codeEq
          refine ⟨.misfit (fun inside => outside inside.2) rfl, ?_⟩
          exact framed_fields fieldLength fieldLength
      | ok codeByte =>
          have inside := And.intro (Bytes.exists_needByte_iff.1 ⟨_, idEq⟩)
            (Bytes.exists_needByte_iff.1 ⟨_, codeEq⟩)
          rcases filledEq : filledFrom fill field with ⟨fault | _, left, notes⟩
          · refine ⟨.stopped inside rfl rfl, ?_⟩
            rw [filledEq] at leftLength
            exact framed_fields fieldLength leftLength
          · rw [filledEq] at leftLength
            simp only at leftLength
            have sealed := putChecksum_fields ⟨idByte, codeByte, left⟩ old rest
            have encodeEq : (Packet.mk idByte codeByte left).encode ++ rest =
                headerByte :: headerByte :: idByte ::
                  UInt8.ofNat (left.length + 2) :: codeByte ::
                    (left ++ checksum (Packet.mk idByte codeByte left).body ::
                      rest) := by
              simp [encode, Packet.body]
            simp only [fields, List.cons_append, leftLength] at sealed
            simp only [Outcome.andThen_ok, sealed]
            constructor
            · exact .written ⟨idByte, codeByte, left⟩
                (Bytes.toNat_of_needByte idEq)
                (Bytes.toNat_of_needByte codeEq) rfl rfl rfl List.take_left
            · rw [encodeEq]
              exact framed_fields fieldLength leftLength

/-- A packet is written if there is room for it, the length byte can count its
parameters, the id and the code are bytes, and the filler does not stop. Then
the buffer begins with the packet: its parameters are what the filler left in
their place, or what was there if there is no filler, and the bytes from the id
to the checksum add up to `255` modulo `256`. Without room nothing is touched,
and in no case is anything behind the packet. -/
theorem write_touches_packet
    (kept : ∀ filler ∈ fill, ∀ view : Bytes, view.length = count →
      (filler.run view).state.length = count)
    (motorId code : Int) (buffer : Bytes) :
    let outcome := (write (.integer motorId) (.integer code) (.integer count)
      fill).run buffer
    let filled := filledFrom fill
      (buffer.slice parametersPosition (parametersPosition + count))
    (buffer.length < count + 6 →
        outcome = ⟨.error (.bufferTooSmall (count + 6) buffer.length),
          buffer, []⟩) ∧
      (count + 6 ≤ buffer.length → 253 < count →
        outcome = ⟨.error (.tooManyParameters (.integer count)), buffer,
          []⟩) ∧
      (count + 6 ≤ buffer.length → count ≤ 253 →
        ((∃ size, outcome.result = .ok size) ↔
            AreBytes motorId code ∧ filled.result = .ok ()) ∧
          (¬ AreBytes motorId code → outcome.result = .error .notAByte) ∧
          (∀ fault, AreBytes motorId code → filled.result = .error fault →
            outcome.result = .error fault) ∧
          ∀ size, outcome.result = .ok size →
            size = count + 6 ∧
              ∃ idByte codeByte sum : UInt8,
                let body := idByte :: UInt8.ofNat (count + 2) :: codeByte ::
                  filled.state
                motorId = idByte.toNat ∧ code = codeByte.toNat ∧
                  outcome.state.take size =
                    0xFF :: 0xFF :: (body ++ [sum]) ∧
                  Bytes.total (body ++ [sum]) % 256 = 255) ∧
      outcome.state.length = buffer.length ∧
      outcome.state.drop (count + 6) = buffer.drop (count + 6) := by
  intro outcome filled
  have keptField : ∀ field : Bytes, field.length = count →
      (filledFrom fill field).state.length = count := by
    intro field fieldLength
    cases fill with
    | none => exact fieldLength
    | some filler => exact kept filler rfl field fieldLength
  have sizeEq : size count = count + 6 := Int.add_comm _ _
  by_cases enough : count + 6 ≤ buffer.length
  · have fits : size count ≤ buffer.length := by omega
    by_cases few : count ≤ 253
    · have countable : (count : Int) + 2 ≤ maximumLength := by
        simp only [maximumLength]
        omega
      obtain ⟨ended, framed⟩ :=
        write_ended motorId code keptField fits countable
      refine ⟨fun small => absurd enough (Nat.not_le.2 small),
        fun _ many => absurd few (Nat.not_le.2 many), fun _ _ => ?_,
        framed.length_eq, framed.drop_eq⟩
      refine ⟨ended.succeeds_iff, ended.refuses,
        fun _ inside stopped => ended.stops inside stopped, ?_⟩
      intro size made
      obtain ⟨packet, idEq, codeEq, parametersEq, rfl, encodeEq⟩ :=
        ended.encoded made
      have counted : packet.parameters.length = count := by
        rw [parametersEq]
        apply keptField
        simp only [Bytes.slice, List.length_drop, List.length_take,
          parametersPosition]
        omega
      refine ⟨by rw [length_encode, counted, minimumSize], packet.motorId,
        packet.code, checksum packet.body, ?_⟩
      have bodyEq : packet.motorId :: UInt8.ofNat (count + 2) ::
          packet.code :: filled.state = packet.body := by
        rw [Packet.body, counted, parametersEq]
      intro body
      refine ⟨idEq, codeEq, ?_, ?_⟩
      · simp only [body, bodyEq]
        exact encodeEq
      · simp only [body, bodyEq]
        exact total_checked packet.body
    · have large : ¬ (count : Int) + 2 ≤ maximumLength := by
        simp only [maximumLength]
        omega
      have refused : outcome = _ := write_uncountable (.integer motorId)
        (.integer code) fits large
      rw [refused]
      exact ⟨fun small => absurd enough (Nat.not_le.2 small), fun _ _ => rfl,
        fun _ less => absurd less few, rfl, rfl⟩
  · have small : ¬ size count ≤ buffer.length := by omega
    have refused : outcome = _ := write_without_room (.integer motorId)
      (.integer code) small
    rw [refused, sizeEq]
    exact ⟨fun _ => rfl, fun room => absurd room enough,
      fun room => absurd room enough, rfl, rfl⟩

/-- A filler stores one of two parameters and stops: the byte behind the packet
stays, and the same packet without a filler has the parameters that were
there. -/
theorem write_touches_packet_half_filled :
    let filler : Filler := do
      putByte 0 7
      Act.fail .lengthMismatch
    let buffer : Bytes := List.replicate 9 0xAA
    let writing (fill : Option Filler) :=
      (write (.integer 1) (.integer 3) (.integer 2) fill).run buffer
    (∀ view : Bytes, view.length = 2 →
        (filler.run view).state.length = 2) ∧
      (writing (some filler)).result = .error .lengthMismatch ∧
      (writing (some filler)).state.drop 8 = [0xAA] ∧
      (writing (some filler)).state =
        [0xFF, 0xFF, 1, 4, 3, 7, 0xAA, 0xAA, 0xAA] ∧
      (∃ size, (writing none).result = .ok size) ∧
      (writing none).state.drop 8 = [0xAA] ∧
      (writing none).state =
        [0xFF, 0xFF, 1, 4, 3, 0xAA, 0xAA, 0xA3, 0xAA] := by
  intro filler buffer writing
  have steady : Steady filler :=
    (steady_putByte 0 7).bind fun _ => steady_fail .lengthMismatch
  have keptBySome : ∀ other ∈ some filler, ∀ view : Bytes,
      view.length = 2 → (other.run view).state.length = 2 := by
    rintro other ⟨⟩
    exact steady 2
  have keptByNone : ∀ other ∈ (none : Option Filler), ∀ view : Bytes,
      view.length = 2 → (other.run view).state.length = 2 := by
    rintro other ⟨⟩
  have inside : AreBytes 1 3 := by
    unfold AreBytes
    omega
  obtain ⟨_, _, stopping, _, behind⟩ :=
    write_touches_packet keptBySome 1 3 buffer
  obtain ⟨_, _, keeping, _, behindOld⟩ :=
    write_touches_packet keptByNone 1 3 buffer
  obtain ⟨_, _, stops, _⟩ := stopping (by decide) (by decide)
  obtain ⟨succeeds, _⟩ := keeping (by decide) (by decide)
  refine ⟨keptBySome filler rfl, stops _ inside rfl, behind, ?_,
    succeeds.2 ⟨inside, rfl⟩, behindOld, ?_⟩
  · decide +kernel
  · decide +kernel

end ActuatorBus.Packet
