import ActuatorBus.Proofs.Register.Codec
import Mathlib.Control.Monad.Basic

/-!
# Values in a buffer

A register stores the bytes of a number at the front of a buffer, which may be
a view into a larger one. It stores all of them or none: a buffer without room
for them is refused before the number is looked at, a number that has no bytes
is refused before anything is stored, and nothing but these bytes ever changes.
An entry of a multiple write carries the same bytes.
-/

namespace ActuatorBus

/-! ## Views into a buffer -/

/-- A buffer whose bytes from `start` up to `stop` were replaced. -/
def Bytes.splice (start stop : Nat) (view buffer : Bytes) : Bytes :=
  buffer.take start ++ (view ++ buffer.drop (max start stop))

namespace Bytes

variable {start stop : Nat} {view buffer : Bytes}

theorem length_slice (start stop : Nat) (buffer : Bytes) :
    (buffer.slice start stop).length = min stop buffer.length - start := by
  rw [slice, List.length_drop, List.length_take]

theorem getElem?_slice {i : Nat} (start stop : Nat) (buffer : Bytes)
    (inside : i < (buffer.slice start stop).length) :
    (buffer.slice start stop)[i]? = buffer[start + i]? := by
  rw [length_slice] at inside
  rw [slice, List.getElem?_drop, List.getElem?_take_of_lt (by omega)]

/-- A view covers its bytes of the buffer, and the others stay. -/
theorem getElem?_splice
    (counted : view.length = (buffer.slice start stop).length) (i : Nat) :
    (splice start stop view buffer)[i]? =
      if start ≤ i ∧ i < start + view.length then view[i - start]?
      else buffer[i]? := by
  rw [length_slice] at counted
  by_cases before : i < min start buffer.length
  · have outside : ¬ (start ≤ i ∧ i < start + view.length) := by omega
    rw [if_neg outside, splice,
      List.getElem?_append_left (by rw [List.length_take]; exact before),
      List.getElem?_take_of_lt (by omega)]
  · rw [splice, List.getElem?_append_right
      (by rw [List.length_take]; exact Nat.le_of_not_lt before),
      List.length_take]
    by_cases within : start ≤ i ∧ i < start + view.length
    · have front : min start buffer.length = start := by omega
      rw [if_pos within, front, List.getElem?_append_left (by omega)]
    · rw [if_neg within, List.getElem?_append_right (by omega),
        List.getElem?_drop]
      -- Behind the view the buffer goes on where the view ends, unless the
      -- buffer ended before.
      by_cases ended : buffer.length ≤ i
      · rw [List.getElem?_eq_none ended, List.getElem?_eq_none (by omega)]
      · congr 1
        omega

/-- A view that holds what it held leaves the buffer as it was. -/
theorem splice_slice (start stop : Nat) (buffer : Bytes) :
    splice start stop (buffer.slice start stop) buffer = buffer := by
  apply List.ext_getElem?
  intro i
  rw [getElem?_splice rfl]
  split
  · rename_i inside
    rw [getElem?_slice start stop buffer (by omega)]
    congr 1
    omega
  · rfl

end Bytes

/-! ## All or nothing -/

namespace Filler

/-- What became of a buffer, in which there were `room` bytes from `start` on
for an image that needs `width`: either the whole image was stored, or nothing
was and there is the first reason why. -/
structure AllOrNothing (width room start : Nat) (image : Except Fault Bytes)
    (buffer : Bytes) (outcome : Outcome Bytes Unit) : Prop where
  /-- Without room the image does not matter. -/
  cramped : room < width →
    outcome = ⟨.error (.bufferTooSmall width room), buffer, []⟩
  refused : width ≤ room → ∀ fault, image = .error fault →
    outcome = ⟨.error fault, buffer, []⟩
  stored : width ≤ room → ∀ bytes, image = .ok bytes →
    outcome.result = .ok () ∧ bytes.length = width ∧
      ∀ i : Nat, outcome.state[i]? =
        if start ≤ i ∧ i < start + width then bytes[i - start]?
        else buffer[i]?

/-- Stores an image at the front of a buffer that has room for it. -/
def front (width : Nat) (image : Except Fault Bytes) (buffer : Bytes) :
    Outcome Bytes Unit :=
  if buffer.length < width then
    ⟨.error (.bufferTooSmall width buffer.length), buffer, []⟩
  else
    match image with
    | .error fault => ⟨.error fault, buffer, []⟩
    | .ok bytes => ⟨.ok (), bytes ++ buffer.drop width, []⟩

section

variable {width : Nat} {image : Except Fault Bytes} {buffer bytes : Bytes}

theorem front_cramped (small : buffer.length < width) :
    front width image buffer =
      ⟨.error (.bufferTooSmall width buffer.length), buffer, []⟩ :=
  if_pos small

theorem front_error {fault : Fault} (fits : width ≤ buffer.length) :
    front width (.error fault) buffer = ⟨.error fault, buffer, []⟩ :=
  if_neg (Nat.not_lt.2 fits)

theorem front_ok (fits : width ≤ buffer.length) :
    front width (.ok bytes) buffer =
      ⟨.ok (), bytes ++ buffer.drop width, []⟩ :=
  if_neg (Nat.not_lt.2 fits)

end

theorem run_within (start stop : Nat) (fill : Filler) (buffer : Bytes) :
    (within start stop fill).run buffer =
      ⟨(fill.run (buffer.slice start stop)).result,
        Bytes.splice start stop (fill.run (buffer.slice start stop)).state
          buffer,
        (fill.run (buffer.slice start stop)).notes⟩ := rfl

theorem run_within_all (fill : Filler) (buffer : Bytes) :
    (within 0 buffer.length fill).run buffer = fill.run buffer := by
  simp [run_within, Bytes.slice, Bytes.splice]

variable {width : Nat} {image : Except Fault Bytes} {fill : Filler}

/-- What is stored at the front of a view is stored in the buffer where the
view starts. -/
theorem allOrNothing_within
    (fills : ∀ view, fill.run view = front width image view)
    (counted : ∀ bytes, image = .ok bytes → bytes.length = width)
    (start stop : Nat) (buffer : Bytes) :
    AllOrNothing width (buffer.slice start stop).length start image buffer
      ((within start stop fill).run buffer) := by
  rw [run_within, fills]
  have unchanged := Bytes.splice_slice start stop buffer
  refine ⟨?_, ?_, ?_⟩
  · intro small
    rw [front_cramped small, unchanged]
  · intro fits fault misfit
    rw [misfit, front_error fits, unchanged]
  · intro fits bytes made
    have length := counted bytes made
    rw [made, front_ok fits]
    refine ⟨rfl, length, ?_⟩
    intro i
    have whole : (bytes ++ (buffer.slice start stop).drop width).length =
        (buffer.slice start stop).length := by
      rw [List.length_append, List.length_drop]
      omega
    simp only [Bytes.getElem?_splice whole i, whole]
    by_cases stored : start ≤ i ∧ i < start + width
    · rw [if_pos stored, if_pos (by omega),
        List.getElem?_append_left (by omega)]
    · rw [if_neg stored]
      split
      · rename_i inside
        rw [List.getElem?_append_right (by omega), List.getElem?_drop,
          Bytes.getElem?_slice start stop buffer (by omega)]
        congr 1
        omega
      · rfl

end Filler

/-! ## The bytes of a number -/

theorem Precision.length_encode_flag {precision : Precision} {yes : Bool}
    {bytes : Bytes} (encoded : precision.encode (.flag yes) = .ok bytes) :
    bytes.length = precision.bytes := by
  have single : precision.encode (.flag yes) =
      (doubleOf (.flag yes)).map (NumberFormat.realBytes precision) := by
    cases made : doubleOf (.flag yes) <;>
      simp [encode, Value.leaves, Value.isRegular, Value.shape?, made,
        Except.map]
  rw [single] at encoded
  cases made : doubleOf (.flag yes) with
  | error fault =>
      rw [made] at encoded
      cases encoded
  | ok x =>
      rw [made] at encoded
      cases encoded
      exact Bytes.length_ofNat _ _

namespace Register

variable {register : Register} {value : Value} {number : Number}
  {bytes : Bytes}

/-- A number, or a flag that counts as one, has as many bytes as the register
is wide. -/
theorem length_encode (isNumber : value.number? = some number)
    (encoded : register.encode value = .ok bytes) :
    bytes.length = register.width := by
  cases value with
  | number n => exact length_encodeNumber encoded
  | flag yes =>
      unfold encode at encoded
      unfold width
      cases format : register.format with
      | unsigned width =>
          simp only [format] at encoded
          exact length_encodeInteger encoded
      | signed width =>
          simp only [format] at encoded
          exact length_encodeInteger encoded
      | real precision =>
          simp only [format] at encoded
          exact Precision.length_encode_flag encoded
  | _ => cases isNumber

theorem fill_run (register : Register)
    (isNumber : value.number? = some number) (buffer : Bytes) :
    (register.fill value).run buffer =
      Filler.front register.width (register.encode value) buffer := by
  by_cases small : buffer.length < register.width
  · have cramped : ¬ register.width ≤ buffer.length := Nat.not_le.2 small
    rw [Filler.front_cramped small]
    simp [fill, checkBufferSize, cramped]
  · have fits : register.width ≤ buffer.length := Nat.le_of_not_lt small
    cases encoded : register.encode value with
    | error fault =>
        rw [Filler.front_error fits]
        simp [fill, checkBufferSize, fits, encoded]
    | ok bytes =>
        have counted := length_encode isNumber encoded
        have view :
            bytes.length = (buffer.slice 0 register.width).length := by
          rw [Bytes.length_slice]
          omega
        rw [Filler.front_ok fits]
        simp [fill, checkBufferSize, fits, encoded, Filler.run_within,
          Filler.putAll, view, Bytes.splice]

/-- A number is stored at the front of a buffer, or of a view into a larger
one, all of its bytes at once: without room for them the buffer is refused
whatever the number is, and else the number is refused exactly if it cannot be
encoded, with the same fault. Nothing is changed then, and never anything but
these bytes. An entry of a multiple write can be made exactly if the register
can be written, has four bytes and encodes the number; it has the address of
the register and the four bytes that a buffer would hold. -/
theorem fill_all_or_nothing (register : Register)
    (isNumber : value.number? = some number) :
    (∀ buffer : Bytes,
      Filler.AllOrNothing register.width buffer.length 0
        (register.encode value) buffer
        ((register.fill value).run buffer)) ∧
    (∀ (start stop : Nat) (buffer : Bytes),
      Filler.AllOrNothing register.width (buffer.slice start stop).length
        start (register.encode value) buffer
        ((Filler.within start stop (register.fill value)).run buffer)) ∧
    ((∃ entry, WriteEntry.ofValue register value = .ok entry) ↔
      register.writable = true ∧ register.width = 4 ∧
        ∃ bytes, register.encode value = .ok bytes) ∧
    ∀ entry, WriteEntry.ofValue register value = .ok entry →
      entry.address = register.address ∧ entry.data.length = 4 ∧
        ∀ buffer : Bytes, buffer.length = 4 →
          (register.fill value).run buffer = ⟨.ok (), entry.data, []⟩ := by
  have onView := Filler.allOrNothing_within (register.fill_run isNumber)
    fun _ encoded => length_encode isNumber encoded
  refine ⟨?_, onView, ?_, ?_⟩
  · intro buffer
    have whole := onView 0 buffer.length buffer
    rw [Filler.run_within_all, Bytes.length_slice, Nat.min_self,
      Nat.sub_zero] at whole
    exact whole
  · constructor
    · rintro ⟨entry, made⟩
      obtain ⟨writable, wide, encoded, _⟩ :=
        WriteEntry.ofValue_eq_ok_iff.1 made
      exact ⟨writable, wide, entry.data, encoded⟩
    · rintro ⟨writable, wide, bytes, encoded⟩
      exact ⟨⟨register, bytes⟩,
        WriteEntry.ofValue_eq_ok_iff.2 ⟨writable, wide, encoded, rfl⟩⟩
  · intro entry made
    obtain ⟨_, wide, encoded, same⟩ := WriteEntry.ofValue_eq_ok_iff.1 made
    refine ⟨by rw [WriteEntry.address, same], ?_, ?_⟩
    · rw [length_encode isNumber encoded, wide]
    · intro buffer counted
      rw [fill_run register isNumber, encoded, Filler.front_ok (by omega),
        List.drop_eq_nil_of_le (by omega), List.append_nil]

/-- A mode is stored into a part of six bytes, but not into three of them, and
a fraction is not stored at all; an entry has the four bytes. -/
theorem fill_all_or_nothing_in_view :
    let mode : Register :=
      ⟨.words "mode", "<u4", .unsigned .four, .flag true, some .config,
        .integer 1⟩
    let buffer : Bytes := List.replicate 6 0xAA
    let store (stop : Nat) (value : Value) :=
      (Filler.within 1 stop (mode.fill value)).run buffer
    let half : Value := .real ⟨0x3FE0000000000000⟩
    (Value.integer 0x01020304).number? = some (.integer 0x01020304) ∧
      half.number? = some (.real ⟨0x3FE0000000000000⟩) ∧
      store 4 half = ⟨.error (.bufferTooSmall 4 3), buffer, []⟩ ∧
      store 6 half =
        ⟨.error (.notAnInteger "mode" half), buffer, []⟩ ∧
      (store 6 (.integer 0x01020304)).result = .ok () ∧
      (store 6 (.integer 0x01020304)).state =
        [0xAA, 4, 3, 2, 1, 0xAA] ∧
      ∃ entry,
        WriteEntry.ofValue mode (.integer 0x01020304) = .ok entry ∧
          entry.address = .integer 1 ∧ entry.data = [4, 3, 2, 1] := by
  intro mode buffer store half
  have isNumber :
      (Value.integer 0x01020304).number? = some (.integer 0x01020304) := rfl
  have isFraction : half.number? = some (.real ⟨0x3FE0000000000000⟩) := rfl
  have encoded : mode.encode (.integer 0x01020304) = .ok [4, 3, 2, 1] := by
    decide +kernel
  have misfit : mode.encode half = .error (.notAnInteger "mode" half) := by
    decide +kernel
  obtain ⟨_, onView, entries, entryEq⟩ := fill_all_or_nothing mode isNumber
  obtain ⟨_, halfOnView, _, _⟩ := fill_all_or_nothing mode isFraction
  refine ⟨isNumber, isFraction, ?_, ?_, ?_, ?_, ?_⟩
  · exact (halfOnView 1 4 buffer).cramped (by decide)
  · exact (halfOnView 1 6 buffer).refused (by decide) _ misfit
  · exact ((onView 1 6 buffer).stored (by decide) _ encoded).1
  · decide +kernel
  · obtain ⟨entry, made⟩ := entries.2 ⟨rfl, rfl, _, encoded⟩
    obtain ⟨addressEq, _, onFour⟩ := entryEq entry made
    have held := congrArg Outcome.state (onFour [0, 0, 0, 0] rfl)
    refine ⟨entry, made, addressEq, held.symm.trans ?_⟩
    decide +kernel

end Register

end ActuatorBus
