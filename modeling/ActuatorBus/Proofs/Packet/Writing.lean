import ActuatorBus.Packet.Writer
import ActuatorBus.Proofs.Results

/-!
# What is written

A filler has a field of the buffer to itself. What it leaves there, and whether
it stops, does not depend on what the field held before: `Filler.Writes` says
so, and has one lemma for each way to make a filler. A packet is its fields one
behind the other, so that `Packet.write_eq` describes writing a packet by what
it is made of and by the size of the buffer alone.
-/

namespace ActuatorBus

/-- The byte that an integer has to be. -/
def Bytes.needByte (n : Int) : Except Fault UInt8 :=
  match Bytes.ofInt? n with
  | some byte => .ok byte
  | none => .error .notAByte

/-- The byte that a value has to be. -/
def Value.needByte (value : Value) : Except Fault UInt8 := do
  Bytes.needByte (← value.needCount)

theorem Bytes.ofInt?_toNat (byte : UInt8) :
    Bytes.ofInt? byte.toNat = some byte := by
  have bound := byte.toNat_lt
  rw [Bytes.ofInt?, if_pos (by omega)]
  simp

@[simp] theorem Bytes.needByte_toNat (byte : UInt8) :
    Bytes.needByte byte.toNat = .ok byte := by
  rw [Bytes.needByte, Bytes.ofInt?_toNat]

@[simp] theorem Value.needByte_integer (n : Int) :
    (Value.integer n).needByte = Bytes.needByte n := rfl

namespace Bytes

theorem toNat_of_needByte {n : Int} {byte : UInt8}
    (isByte : needByte n = .ok byte) : n = byte.toNat := by
  unfold needByte ofInt? at isByte
  split at isByte
  · rename_i found
    split at found
    · cases found
      cases isByte
      rename_i bounds
      rw [UInt8.toNat_ofNat']
      omega
    · cases found
  · cases isByte

theorem exists_needByte_iff {n : Int} :
    (∃ byte, needByte n = .ok byte) ↔ 0 ≤ n ∧ n ≤ 255 := by
  unfold needByte ofInt?
  by_cases inside : 0 ≤ n ∧ n ≤ 255
  · rw [if_pos inside]
    exact iff_of_true ⟨_, rfl⟩ inside
  · rw [if_neg inside]
    refine iff_of_false ?_ inside
    rintro ⟨byte, ⟨⟩⟩

theorem needByte_error {n : Int} {fault : Fault}
    (misfit : needByte n = .error fault) :
    fault = .notAByte ∧ ¬ (0 ≤ n ∧ n ≤ 255) := by
  constructor
  · unfold needByte at misfit
    split at misfit
    · cases misfit
    · exact (Except.error.inj misfit).symm
  · rw [← exists_needByte_iff]
    rintro ⟨byte, isByte⟩
    cases misfit.symm.trans isByte

end Bytes

namespace Value

/-- A value counts a byte: it is an integer from zero to 255, or a flag. -/
def IsByte (value : Value) : Prop :=
  ∃ n, value.whole? = some n ∧ 0 ≤ n.toInt ∧ n.toInt ≤ 255

theorem exists_needByte_iff {value : Value} :
    (∃ byte, value.needByte = .ok byte) ↔ value.IsByte := by
  unfold needByte needCount IsByte
  cases value.whole? with
  | none =>
      refine iff_of_false ?_ ?_
      · rintro ⟨byte, ⟨⟩⟩
      · rintro ⟨n, ⟨⟩, _⟩
  | some n =>
      simp only [ok_bind, Bytes.exists_needByte_iff, Option.some.injEq,
        exists_eq_left']

variable {motorId : Value} {target : UInt8}

/-- A value that is a byte is an integer or a flag. -/
theorem cases_of_needByte (isByte : motorId.needByte = .ok target) :
    motorId = .integer target.toNat ∨
      ∃ value, motorId = .flag value ∧
        (if value then 1 else 0 : Int) = target.toNat := by
  obtain ⟨count, counted, byteEq⟩ := bind_eq_ok_iff.1 isByte
  have countEq := Bytes.toNat_of_needByte byteEq
  cases motorId with
  | number value =>
      cases value with
      | integer m =>
          cases counted
          left
          rw [← countEq]
          rfl
      | real x => cases counted
  | flag value =>
      cases counted
      right
      refine ⟨value, rfl, ?_⟩
      rw [← countEq]
      cases value <;> rfl
  | _ => cases counted

theorem same_of_needByte (isByte : motorId.needByte = .ok target) (n : Int) :
    motorId.same (.integer n) = ((target.toNat : Int) == n) := by
  rcases cases_of_needByte isByte with rfl | ⟨value, rfl, counted⟩
  · exact same_integer _ n
  · rw [← counted]
    cases value <;> simp [same, number?, Number.same]

theorem sameId_of_needByte (isByte : motorId.needByte = .ok target) :
    motorId ≠ .nothing ∧
      checkSameId (.integer target.toNat) motorId = .ok () := by
  rcases cases_of_needByte isByte with rfl | ⟨value, rfl, counted⟩
  · exact ⟨by simp, by simp [checkSameId]⟩
  · refine ⟨by simp, ?_⟩
    rw [← counted]
    cases value <;> simp [checkSameId, same, number?, Number.same]

end Value

namespace Filler

/-- What became of a field of `size` bytes between `done` and `rest`: it was
replaced by its image, or there was the fault of the image. The size of the
buffer stays. -/
inductive Wrote (outcome : Outcome Bytes Unit) (done : Bytes) (size : Nat)
    (rest : Bytes) : (image : Except Fault Bytes) → Prop where
  | ok {bytes : Bytes} (length_eq : bytes.length = size)
    (run_eq : outcome = ⟨.ok (), done ++ (bytes ++ rest), []⟩) :
    Wrote outcome done size rest (.ok bytes)
  | error {fault : Fault} (left : Bytes)
    (length_eq : left.length = done.length + (size + rest.length))
    (run_eq : outcome = ⟨.error fault, left, []⟩) :
    Wrote outcome done size rest (.error fault)

/-- A filler writes an image to the field of `size` bytes behind the first
`front` ones and before the last `tail` ones. -/
def Writes (fill : Filler) (front size tail : Nat)
    (image : Except Fault Bytes) : Prop :=
  ∀ done field rest : Bytes,
    done.length = front → field.length = size → rest.length = tail →
      Wrote (fill.run (done ++ (field ++ rest))) done size rest image

variable {fill next : Filler} {front size middle more behind tail : Nat}
  {image nextImage : Except Fault Bytes}

theorem writes_nothing : Writes (pure ()) front 0 tail (.ok []) := by
  intro done field rest _ fieldLength _
  have empty := List.length_eq_zero_iff.1 fieldLength
  subst empty
  exact .ok rfl rfl

theorem putByte_run {position : Nat} {buffer : Bytes}
    (inside : position < buffer.length) (value : Int) :
    (putByte position value).run buffer =
      match Bytes.needByte value with
      | .ok byte => ⟨.ok (), buffer.set position byte, []⟩
      | .error fault => ⟨.error fault, buffer, []⟩ := by
  unfold Bytes.needByte
  cases stored : Bytes.ofInt? value <;> simp [putByte, inside, stored]

theorem writes_putByte (position : Nat) (value : Int) :
    Writes (putByte position value) position 1 tail
      ((Bytes.needByte value).map fun byte => [byte]) := by
  intro done field rest doneLength fieldLength restLength
  obtain ⟨old, rfl⟩ := List.length_eq_one_iff.1 fieldLength
  subst doneLength
  have inside : done.length < (done ++ ([old] ++ rest)).length := by simp
  rw [putByte_run inside]
  cases Bytes.needByte value with
  | error fault =>
      refine .error (done ++ ([old] ++ rest)) ?_ rfl
      simp only [List.length_append, List.length_cons, List.length_nil]
  | ok byte => exact .ok rfl (by simp)

theorem Writes.of_except {α : Type} {given : Except Fault α}
    {make : α → Filler} {imageOf : α → Except Fault Bytes}
    (writes : ∀ value, given = .ok value →
      Writes (make value) front size tail (imageOf value)) :
    Writes (Act.ofExcept given >>= make) front size tail
      (given >>= imageOf) := by
  intro done field rest doneLength fieldLength restLength
  cases given with
  | error fault =>
      refine .error (done ++ (field ++ rest)) ?_ rfl
      simp only [List.length_append]
      omega
  | ok value =>
      exact
        writes value rfl done field rest doneLength fieldLength restLength

theorem writes_putValue (position : Nat) (value : Value) :
    Writes (putValue position value) position 1 tail
      (value.needByte.map fun byte => [byte]) := by
  have image :
      (value.needByte.map fun byte => [byte]) =
        value.needCount >>= fun n =>
          (Bytes.needByte n).map fun byte => [byte] := by
    unfold Value.needByte
    cases value.needCount <;> rfl
  intro done field rest doneLength fieldLength restLength
  have inside : position < (done ++ (field ++ rest)).length := by
    simp only [List.length_append]
    omega
  have run :
      (putValue position value).run (done ++ (field ++ rest)) =
        (Act.ofExcept value.needCount >>= putByte position).run
          (done ++ (field ++ rest)) := by
    simp only [putValue, Act.run_bind, Act.run_get, Outcome.andThen_ok,
      decide_eq_true inside, Act.require_true, Act.run_pure,
      List.nil_append]
  rw [run, image]
  exact Writes.of_except (fun n _ => writes_putByte position n)
    done field rest doneLength fieldLength restLength

/-- Two fields one behind the other are one field. -/
theorem Writes.append
    (first : Writes fill front size behind image)
    (second : Writes next middle more tail nextImage)
    (middleEq : middle = front + size) (behindEq : behind = more + tail) :
    Writes (fill >>= fun _ => next) front (size + more) tail
      (image >>= fun bytes => nextImage.map (bytes ++ ·)) := by
  subst middleEq behindEq
  intro done field rest doneLength fieldLength restLength
  have fieldEq := (List.take_append_drop size field).symm
  have takeLength : (field.take size).length = size := by
    simp only [List.length_take]
    omega
  have dropLength : (field.drop size).length = more := by
    simp only [List.length_drop]
    omega
  generalize field.take size = left at fieldEq takeLength
  generalize field.drop size = right at fieldEq dropLength
  subst fieldEq
  have firstRuns :=
    first done left (right ++ rest) doneLength takeLength
      (by simp only [List.length_append]; omega)
  cases firstRuns with
  | error state lengthEq ran =>
      refine .error state ?_ ?_
      · simp only [List.length_append] at lengthEq
        omega
      · simp [List.append_assoc, ran]
  | @ok bytes lengthEq ran =>
      have secondRuns :=
        second (done ++ bytes) right rest
          (by simp only [List.length_append]; omega) dropLength restLength
      simp only [List.append_assoc] at secondRuns ran
      cases secondRuns with
      | error state nextLength nextRan =>
          refine .error state ?_ ?_
          · simp only [List.length_append] at nextLength
            omega
          · simp [ran, nextRan]
      | ok nextLength nextRan =>
          refine .ok ?_ ?_
          · simp only [List.length_append]
            omega
          · simp [ran, nextRan]

theorem Writes.within (writes : Writes fill 0 size 0 image) :
    Writes (within front (front + size) fill) front size tail image := by
  intro done field rest doneLength fieldLength restLength
  have outcome := writes [] field [] rfl fieldLength rfl
  simp only [List.nil_append, List.append_nil] at outcome
  subst doneLength fieldLength
  have view :
      Bytes.slice done.length (done.length + field.length)
        (done ++ (field ++ rest)) = field := by
    rw [Bytes.slice, ← List.append_assoc, ← List.length_append,
      List.take_left, List.drop_left]
  have rear :
      (done ++ (field ++ rest)).drop (done.length + field.length) =
        rest := by
    rw [← List.append_assoc, ← List.length_append, List.drop_left]
  cases outcome with
  | error left lengthEq ran =>
      refine .error (done ++ (left ++ rest)) ?_ ?_
      · simp_all
      · simp [Filler.within, view, rear, ran]
  | ok lengthEq ran =>
      refine .ok lengthEq ?_
      simp [Filler.within, view, rear, ran]

theorem Writes.after (writes : Writes fill 0 size 0 image) :
    Writes (after front fill) front size 0 image := by
  intro done field rest doneLength fieldLength restLength
  have empty := List.length_eq_zero_iff.1 restLength
  subst empty
  have outcome := writes [] field [] rfl fieldLength rfl
  simp only [List.nil_append, List.append_nil] at outcome ⊢
  subst doneLength
  cases outcome with
  | error left lengthEq ran =>
      refine .error (done ++ left) ?_ ?_
      · simp_all
      · simp [Filler.after, ran]
  | ok lengthEq ran =>
      refine .ok lengthEq ?_
      simp [Filler.after, ran]

/-- The bytes that fill a field of the given size, if they are as many. -/
def fitting (size : Nat) (bytes : Bytes) : Except Fault Bytes :=
  if bytes.length = size then .ok bytes else .error .lengthMismatch

theorem length_fitting {size : Nat} {bytes data : Bytes}
    (fitted : fitting size bytes = .ok data) : data.length = size := by
  unfold fitting at fitted
  split at fitted
  · cases fitted
    assumption
  · cases fitted

theorem writes_putAll (bytes : Bytes) :
    Writes (putAll bytes) 0 size 0 (fitting size bytes) := by
  intro done field rest doneLength fieldLength restLength
  have doneEmpty := List.length_eq_zero_iff.1 doneLength
  have restEmpty := List.length_eq_zero_iff.1 restLength
  subst doneEmpty restEmpty fieldLength
  unfold fitting
  by_cases fits : bytes.length = field.length
  · rw [if_pos fits]
    exact .ok fits (by simp [putAll, fits])
  · rw [if_neg fits]
    have differ := beq_eq_false_iff_ne.2 fits
    exact .error field (by simp) (by simp [putAll, differ])

/-- The parameters of a packet are written by a filler, unless there are
none. -/
def Fills : (fill : Option Filler) → (count : Nat) →
    (image : Except Fault Bytes) → Prop
  | some fill, count, image => Writes fill 0 count 0 image
  | none, count, image => count = 0 ∧ image = .ok []

theorem Fills.length_eq {given : Option Filler} {count : Nat} {bytes : Bytes}
    (fills : Fills given count (.ok bytes)) : bytes.length = count := by
  cases given with
  | none =>
      obtain ⟨rfl, imageEq⟩ := fills
      cases imageEq
      rfl
  | some fill =>
      have wrote : Wrote _ [] count [] (.ok bytes) :=
        fills [] (List.replicate count 0) [] rfl List.length_replicate rfl
      cases wrote with
      | ok lengthEq _ => exact lengthEq

end Filler

namespace Packet

/-- The packet with an id, a code and parameters. -/
def ofParts (motorId code : Value) (parameters : Except Fault Bytes) :
    Except Fault Packet := do
  let motorId ← motorId.needByte
  let code ← Bytes.needByte (← code.wholeNumber)
  return ⟨motorId, code, ← parameters⟩

/-- The packet with an id, a code and parameters, if there is room for it. -/
def assemble (room : Nat) (motorId code : Value) (count : Nat)
    (parameters : Except Fault Bytes) : Except Fault Packet := do
  checkBufferSize (size count) room
  if maximumLength < count + 2 then
    throw (.tooManyParameters (.integer count))
  ofParts motorId code parameters

/-- What an assembled packet is made of. -/
structure Assembled (room : Nat) (motorId code : Value) (count : Nat)
    (parameters : Except Fault Bytes) (packet : Packet) : Prop where
  fits : size count ≤ room
  countable : (count : Int) + 2 ≤ maximumLength
  motorId_eq : motorId.needByte = .ok packet.motorId
  code_eq : code.wholeNumber >>= Bytes.needByte = .ok packet.code
  parameters_eq : parameters = .ok packet.parameters

theorem assembled {room : Nat} {motorId code : Value} {count : Nat}
    {parameters : Except Fault Bytes} {packet : Packet}
    (made : assemble room motorId code count parameters = .ok packet) :
    Assembled room motorId code count parameters packet := by
  obtain ⟨_, checked, rest⟩ := bind_eq_ok_iff.1 made
  have fits : size count ≤ room := by
    unfold checkBufferSize at checked
    split at checked
    · assumption
    · cases checked
  by_cases large : maximumLength < count + 2
  · rw [if_pos large] at rest
    cases rest
  · rw [if_neg large] at rest
    obtain ⟨idByte, idEq, rest⟩ := bind_eq_ok_iff.1 rest
    obtain ⟨number, numberEq, rest⟩ := bind_eq_ok_iff.1 rest
    obtain ⟨codeByte, codeEq, rest⟩ := bind_eq_ok_iff.1 rest
    obtain ⟨bytes, bytesEq, returned⟩ := bind_eq_ok_iff.1 rest
    cases returned
    exact ⟨fits, by omega, idEq, by rw [numberEq]; exact codeEq, bytesEq⟩

theorem Assembled.assemble_eq {room : Nat} {motorId code : Value}
    {count : Nat} {parameters : Except Fault Bytes} {packet : Packet}
    (made : Assembled room motorId code count parameters packet) :
    assemble room motorId code count parameters = .ok packet := by
  obtain ⟨fits, countable, idEq, codeEq, parametersEq⟩ := made
  obtain ⟨number, numberEq, byteEq⟩ := bind_eq_ok_iff.1 codeEq
  rw [assemble, checkBufferSize, if_pos fits, if_neg (by omega)]
  simp [ofParts, idEq, numberEq, byteEq, parametersEq]

/-- The bytes before the checksum of a packet with the given length byte. -/
def fields (length : UInt8) (packet : Packet) : Bytes :=
  headerByte :: headerByte :: packet.motorId :: length :: packet.code ::
    packet.parameters

/-- Stores the parameters of a packet. -/
def putParameters (count : Nat) : (fill : Option Filler) → Filler
  | some fill =>
    Filler.within parametersPosition (parametersPosition + count) fill
  | none => pure ()

theorem writes_putParameters {fill : Option Filler} {count tail : Nat}
    {parameters : Except Fault Bytes}
    (fills : Filler.Fills fill count parameters) :
    Filler.Writes (putParameters count fill) parametersPosition count tail
      parameters := by
  cases fill with
  | some fill => exact Filler.Writes.within fills
  | none =>
      obtain ⟨rfl, rfl⟩ := fills
      exact Filler.writes_nothing

theorem writes_putHeader {tail : Nat} :
    Filler.Writes putHeader 0 2 tail (.ok [headerByte, headerByte]) := by
  have first : Filler.Writes _ 0 1 (1 + tail) _ :=
    Filler.writes_putByte 0 headerByte.toNat
  have second : Filler.Writes _ 1 1 tail _ :=
    Filler.writes_putByte 1 headerByte.toNat
  have both := first.append second rfl rfl
  rw [Bytes.needByte_toNat] at both
  exact both

/-- The fields before the checksum. -/
def putFields (motorId code : Value) (count : Nat) (fill : Option Filler) :
    Filler := do
  putHeader
  Filler.putValue idPosition motorId
  Filler.putByte lengthPosition (count + 2)
  putCode code
  putParameters count fill

theorem writes_putCode {tail : Nat} (code : Value) :
    Filler.Writes (putCode code) codePosition 1 tail
      (code.wholeNumber >>= fun n =>
        (Bytes.needByte n).map fun byte => [byte]) :=
  Filler.Writes.of_except fun n _ => Filler.writes_putByte codePosition n

/-- The length byte of a packet. -/
theorem needByte_length {count : Nat}
    (countable : (count : Int) + 2 ≤ maximumLength) :
    Bytes.needByte (count + 2) = .ok (UInt8.ofNat (count + 2)) := by
  have small : count + 2 < 256 := by
    simp only [maximumLength] at countable
    omega
  have value : (UInt8.ofNat (count + 2)).toNat = count + 2 := by
    simp only [UInt8.toNat_ofNat']
    omega
  have stored := Bytes.needByte_toNat (UInt8.ofNat (count + 2))
  rw [value] at stored
  exact stored

theorem writes_putFields {motorId code : Value} {count tail : Nat}
    {fill : Option Filler} {parameters : Except Fault Bytes}
    (fills : Filler.Fills fill count parameters)
    (countable : (count : Int) + 2 ≤ maximumLength) :
    Filler.Writes (putFields motorId code count fill) 0
      (parametersPosition + count) tail
      ((ofParts motorId code parameters).map
        (fields (UInt8.ofNat (count + 2)))) := by
  have written : Filler.Writes _ _ count tail parameters :=
    writes_putParameters fills
  have behindCode := (writes_putCode code).append written rfl rfl
  have behindLength :=
    (Filler.writes_putByte lengthPosition (count + 2)).append behindCode
      rfl rfl
  have behindId :=
    (Filler.writes_putValue idPosition motorId).append behindLength rfl rfl
  have all := writes_putHeader.append behindId rfl rfl
  rw [needByte_length countable] at all
  have imageEq :
      (ofParts motorId code parameters).map
          (fields (UInt8.ofNat (count + 2))) =
        ((.ok [headerByte, headerByte]) >>= fun bytes =>
          (((motorId.needByte.map fun byte => [byte]) >>= fun bytes =>
            ((((.ok (UInt8.ofNat (count + 2)) : Except Fault UInt8).map
              fun byte => [byte]) >>= fun bytes =>
                (((code.wholeNumber >>= fun n =>
                  (Bytes.needByte n).map fun byte => [byte]) >>=
                    fun bytes => parameters.map (bytes ++ ·))).map
                  (bytes ++ ·))).map (bytes ++ ·))).map (bytes ++ ·)) := by
    unfold ofParts
    cases motorId.needByte with
    | error fault => rfl
    | ok motorId =>
        cases code.wholeNumber with
        | error fault => rfl
        | ok code =>
            simp only [ok_bind]
            cases Bytes.needByte code <;> cases parameters <;> rfl
  have sizeEq : parametersPosition + count = 2 + (1 + (1 + (1 + count))) := by
    simp only [parametersPosition]
    omega
  rw [imageEq, sizeEq]
  exact all

/-- Stores the checksum at a position and gives the size of the packet. -/
def putChecksum (position : Nat) : Act Bytes Nat := do
  let body := (← Act.get).slice idPosition position
  Filler.putByte position (checksum body).toNat
  return position + 1

theorem write_eq_fields (motorId code : Value) (count : Nat)
    (fill : Option Filler) :
    write motorId code (.integer count) fill = (do
      Act.ofExcept (checkBufferSize (size count) (← Act.get).length)
      Act.require ((count : Int) + 2 ≤ maximumLength)
        (.tooManyParameters (.integer count))
      putFields motorId code count fill
      putChecksum (parametersPosition + count)) := by
  have position :
      ((parametersPosition : Int) + (count : Int)).toNat =
        parametersPosition + count := by omega
  have needed :
      Act.ofExcept (Value.integer count).needNumber =
        (pure (.integer count) : Act Bytes Number) := rfl
  cases fill with
  | none =>
      simp only [write, writeWith, putFields, putParameters, putChecksum,
        needed, pure_bind, bind_assoc, position]
  | some fill =>
      simp only [write, writeWith, putFields, putParameters, putChecksum,
        needed, pure_bind, bind_assoc, position]

/-- What became of a buffer in which a packet with `count` parameters was to be
written. -/
inductive Written (outcome : Outcome Bytes Nat) (count : Nat)
    (buffer : Bytes) : (packet : Except Fault Packet) → Prop where
  | ok {packet : Packet} (length_eq : packet.parameters.length = count)
    (run_eq : outcome =
      ⟨.ok packet.encode.length,
        packet.encode ++ buffer.drop packet.encode.length, []⟩) :
    Written outcome count buffer (.ok packet)
  | error {fault : Fault} (left : Bytes)
    (length_eq : left.length = buffer.length)
    (run_eq : outcome = ⟨.error fault, left, []⟩) :
    Written outcome count buffer (.error fault)

theorem putChecksum_fields (packet : Packet) (old : UInt8) (rest : Bytes) :
    (putChecksum (parametersPosition + packet.parameters.length)).run
        (packet.fields (UInt8.ofNat (packet.parameters.length + 2)) ++
          (old :: rest)) =
      ⟨.ok packet.encode.length, packet.encode ++ rest, []⟩ := by
  have position :
      (packet.fields (UInt8.ofNat (packet.parameters.length + 2))).length =
        parametersPosition + packet.parameters.length := by
    simp only [fields, List.length_cons, parametersPosition]
    omega
  have body :
      Bytes.slice idPosition (parametersPosition + packet.parameters.length)
          (packet.fields (UInt8.ofNat (packet.parameters.length + 2)) ++
            (old :: rest)) =
        packet.body := by
    rw [← position, Bytes.slice, List.take_left]
    rfl
  have stores : Filler.Writes _ _ 1 rest.length _ :=
    Filler.writes_putByte (parametersPosition + packet.parameters.length)
      (checksum packet.body).toNat
  have stored := stores _ [old] rest position rfl rfl
  rw [Bytes.needByte_toNat] at stored
  cases stored with
  | ok _ ran =>
      have size :
          parametersPosition + packet.parameters.length + 1 =
            packet.encode.length := by
        rw [length_encode, parametersPosition, minimumSize]
        omega
      have encoded :
          packet.fields (UInt8.ofNat (packet.parameters.length + 2)) ++
              ([checksum packet.body] ++ rest) =
            packet.encode ++ rest := by
        simp [fields, encode, Packet.body]
      simp only [List.cons_append, List.nil_append] at ran
      simp only [putChecksum, Act.run_bind, Act.run_get, Act.run_pure,
        Outcome.andThen_ok, body, ran, size, List.append_nil]
      simp only [← encoded, List.cons_append, List.nil_append]

theorem written_fields {motorId code : Value} {count : Nat}
    {fill : Option Filler} {parameters : Except Fault Bytes}
    {buffer : Bytes} (fills : Filler.Fills fill count parameters)
    (countable : (count : Int) + 2 ≤ maximumLength)
    (fits : parametersPosition + count < buffer.length) :
    Written
      ((putFields motorId code count fill >>= fun _ =>
        putChecksum (parametersPosition + count)).run buffer)
      count buffer (ofParts motorId code parameters) := by
  have split : buffer =
      [] ++ (buffer.take (parametersPosition + count) ++
        buffer.drop (parametersPosition + count)) :=
    (List.take_append_drop _ _).symm
  have writes :
      Filler.Writes (putFields motorId code count fill) 0
        (parametersPosition + count)
        (buffer.length - (parametersPosition + count)) _ :=
    writes_putFields fills countable
  have wrote :=
    writes [] (buffer.take (parametersPosition + count))
      (buffer.drop (parametersPosition + count)) rfl
      (List.length_take_of_le (Nat.le_of_lt fits)) List.length_drop
  rw [← split] at wrote
  cases made : ofParts motorId code parameters with
  | error fault =>
      rw [made] at wrote
      cases wrote with
      | error left lengthEq ran =>
          refine .error left ?_ (by simp [ran])
          simp only [List.length_nil, List.length_drop] at lengthEq
          omega
  | ok packet =>
      rw [made] at wrote
      cases wrote with
      | ok lengthEq ran =>
          have counted : packet.parameters.length = count := by
            simp only [fields, List.length_cons, parametersPosition]
              at lengthEq
            omega
          subst counted
          refine .ok rfl ?_
          rw [List.drop_eq_getElem_cons fits, List.nil_append] at ran
          have sealed :=
            putChecksum_fields packet
              (buffer[parametersPosition + packet.parameters.length])
              (buffer.drop
                (parametersPosition + packet.parameters.length + 1))
          have size :
              parametersPosition + packet.parameters.length + 1 =
                packet.encode.length := by
            rw [length_encode, parametersPosition, minimumSize]
            omega
          rw [size] at sealed
          rw [Act.run_bind, ran, Outcome.andThen_ok, size, sealed]
          rfl

section

variable {count : Nat} {fill : Option Filler} {buffer : Bytes}
  (motorId code : Value)

theorem write_without_room (small : ¬ size count ≤ buffer.length) :
    (write motorId code (.integer count) fill).run buffer =
      ⟨.error (.bufferTooSmall (size count) buffer.length), buffer, []⟩ := by
  rw [write_eq_fields]
  simp [checkBufferSize, small]

theorem write_uncountable (fits : size count ≤ buffer.length)
    (large : ¬ (count : Int) + 2 ≤ maximumLength) :
    (write motorId code (.integer count) fill).run buffer =
      ⟨.error (.tooManyParameters (.integer count)), buffer, []⟩ := by
  rw [write_eq_fields]
  simp [checkBufferSize, fits, large]

theorem write_run (fits : size count ≤ buffer.length)
    (countable : (count : Int) + 2 ≤ maximumLength) :
    (write motorId code (.integer count) fill).run buffer =
      (putFields motorId code count fill >>= fun _ =>
        putChecksum (parametersPosition + count)).run buffer := by
  rw [write_eq_fields]
  simp [checkBufferSize, fits, countable]

end

/-- A packet is written if there is room for it and everything in it is a
byte, and the bytes behind it stay; else there is the first fault. -/
theorem write_written (motorId code : Value) {count : Nat}
    {fill : Option Filler} {parameters : Except Fault Bytes}
    (fills : Filler.Fills fill count parameters) (buffer : Bytes) :
    Written ((write motorId code (.integer count) fill).run buffer) count
      buffer (assemble buffer.length motorId code count parameters) := by
  unfold assemble checkBufferSize
  by_cases enough : size count ≤ buffer.length
  · by_cases countable : (count : Int) + 2 ≤ maximumLength
    · have fits : parametersPosition + count < buffer.length := by
        simp only [size, minimumSize] at enough
        simp only [parametersPosition]
        omega
      rw [write_run motorId code enough countable, if_pos enough,
        if_neg (by omega)]
      exact written_fields fills countable fits
    · rw [write_uncountable motorId code enough countable, if_pos enough,
        if_pos (by omega)]
      exact .error buffer rfl rfl
  · rw [write_without_room motorId code enough, if_neg enough]
    exact .error buffer rfl rfl

/-! ## Status packets -/

theorem ofValues_cons (value : Value) (rest : List Value) :
    Bytes.ofValues (value :: rest) = (do
      let byte ← value.needByte
      return byte :: (← Bytes.ofValues rest)) := by
  unfold Bytes.ofValues
  rw [List.mapM_cons]
  unfold Value.needByte Bytes.needByte
  cases value.needCount with
  | error fault => rfl
  | ok n =>
      simp only [ok_bind]
      cases Bytes.ofInt? n <;> rfl

theorem ofValues_integers (bytes : Bytes) :
    Bytes.ofValues (bytes.map fun byte => .integer byte.toNat) =
      .ok bytes := by
  induction bytes with
  | nil => rfl
  | cons byte rest restEq =>
      rw [List.map_cons, ofValues_cons, restEq]
      simp

theorem exists_ofValues_iff {values : List Value} :
    (∃ bytes, Bytes.ofValues values = .ok bytes) ↔
      ∀ value ∈ values, value.IsByte := by
  induction values with
  | nil => exact iff_of_true ⟨[], rfl⟩ (by simp)
  | cons value rest restIff =>
      rw [List.forall_mem_cons, ← restIff, ← Value.exists_needByte_iff,
        ofValues_cons]
      constructor
      · rintro ⟨bytes, made⟩
        obtain ⟨byte, isByte, made⟩ := bind_eq_ok_iff.1 made
        obtain ⟨others, areBytes, _⟩ := bind_eq_ok_iff.1 made
        exact ⟨⟨byte, isByte⟩, others, areBytes⟩
      · rintro ⟨⟨byte, isByte⟩, others, areBytes⟩
        exact ⟨byte :: others, by rw [isByte, areBytes]; rfl⟩

theorem length_ofValues {values : List Value} :
    ∀ {bytes : Bytes}, Bytes.ofValues values = .ok bytes →
      bytes.length = values.length := by
  induction values with
  | nil =>
      rintro bytes ⟨⟩
      rfl
  | cons value rest restLength =>
      intro bytes made
      rw [ofValues_cons] at made
      obtain ⟨byte, _, made⟩ := bind_eq_ok_iff.1 made
      obtain ⟨others, areBytes, returned⟩ := bind_eq_ok_iff.1 made
      cases returned
      rw [List.length_cons, List.length_cons, restLength areBytes]

theorem assemble_bytes {room : Nat} (motorId code : UInt8)
    {parameters : Bytes} (enough : minimumSize + parameters.length ≤ room)
    (countable : (parameters.length : Int) + 2 ≤ maximumLength) :
    assemble room (.integer motorId.toNat) (.integer code.toNat)
        parameters.length (.ok parameters) =
      .ok ⟨motorId, code, parameters⟩ := by
  have sizeFits : size parameters.length ≤ room := by
    simp only [size]
    omega
  rw [assemble, checkBufferSize, if_pos sizeFits, if_neg (by omega)]
  have whole : (Value.integer code.toNat).wholeNumber = .ok code.toNat := rfl
  simp [ofParts, whole]

/-- Values that are made bytes together fill the parameters. -/
theorem fills_ofValues (values : List Value) :
    Filler.Fills
      (some (Act.ofExcept (Bytes.ofValues values) >>= Filler.putAll))
      values.length (Bytes.ofValues values) := by
  have writes :
      Filler.Writes (Act.ofExcept (Bytes.ofValues values) >>= Filler.putAll) 0
        values.length 0
        (Bytes.ofValues values >>= Filler.fitting values.length) :=
    Filler.Writes.of_except fun bytes _ => Filler.writes_putAll bytes
  have image :
      Bytes.ofValues values >>= Filler.fitting values.length =
        Bytes.ofValues values := by
    cases made : Bytes.ofValues values with
    | error fault => rfl
    | ok bytes => exact if_pos (length_ofValues made)
  rw [image] at writes
  exact writes

/-- A packet is built as it is assembled in a buffer that has room for it. -/
theorem build_eq (motorId code : Value) (parameters : List Value) :
    build motorId code parameters =
      (assemble (minimumSize + parameters.length) motorId code
        parameters.length (Bytes.ofValues parameters)).map encode := by
  have written :=
    write_written motorId code (fills_ofValues parameters)
      (List.replicate (minimumSize + parameters.length) 0)
  rw [List.length_replicate] at written
  cases made : assemble (minimumSize + parameters.length) motorId code
      parameters.length (Bytes.ofValues parameters) with
  | error fault =>
      rw [made] at written
      cases written with
      | error left lengthEq ran =>
          simp only [build]
          rw [ran]
          rfl
  | ok packet =>
      rw [made] at written
      cases written with
      | ok lengthEq ran =>
          simp only [build]
          rw [ran]
          simp [length_encode, lengthEq, Nat.add_comm, Except.map]

/-- A packet built of bytes. -/
theorem build_bytes (motorId code : UInt8) (parameters : Bytes) :
    build (.integer motorId.toNat) (.integer code.toNat)
        (parameters.map fun byte => .integer byte.toNat) =
      (assemble (minimumSize + parameters.length) (.integer motorId.toNat)
        (.integer code.toNat) parameters.length (.ok parameters)).map
          encode := by
  rw [build_eq, ofValues_integers, List.length_map]

/-- A status packet whose parameters the length byte can count. -/
theorem status_eq (motorId error : UInt8) {parameters : Bytes}
    (countable : (parameters.length : Int) + 2 ≤ maximumLength) :
    status (.integer motorId.toNat) (.integer error.toNat) parameters =
      .ok (Packet.mk motorId error parameters).encode := by
  have built := build_bytes motorId error parameters
  rw [assemble_bytes motorId error (Nat.le_refl _) countable] at built
  exact built

end Packet

end ActuatorBus
