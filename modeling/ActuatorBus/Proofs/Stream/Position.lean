import ActuatorBus.Proofs.Stream.Continuation

/-!
# Where the first message is

A message can begin at a position of a stream if there is a header and the
length byte, if it is there, counts the code and the checksum. Taking the
stream apart starts at the least such position (`isFirst_iff`).
-/

namespace ActuatorBus.Stream

open ActuatorBus.Packet (headerByte)

/-- A header at a position: two header bytes, or one that is the last byte. -/
def HeaderAt (bytes : Bytes) (position : Nat) : Prop :=
  bytes[position]? = some headerByte ∧
    (bytes[position + 1]? = some headerByte ∨ position + 1 = bytes.length)

/-- There is a header at a position, and the bytes end before its length byte,
or the length is at least two. -/
def ViableAt (bytes : Bytes) (position : Nat) : Prop :=
  HeaderAt bytes position ∧
    (bytes.length < position + Packet.headerSize ∨
      ∃ length, bytes[position + Packet.lengthPosition]? = some length ∧
        2 ≤ length)

/-- The least position that is viable, or the end if there is none. -/
structure IsFirst (bytes : Bytes) (position : Nat) : Prop where
  inside : position ≤ bytes.length
  viable : position < bytes.length → ViableAt bytes position
  least : ∀ earlier, earlier < position → ¬ ViableAt bytes earlier

variable {b : UInt8} {bytes rest : Bytes} {position : Nat}

theorem viableAt_cons_succ :
    ViableAt (b :: rest) (position + 1) ↔ ViableAt rest position := by
  have next : position + 1 + Packet.lengthPosition =
      position + Packet.lengthPosition + 1 := Nat.add_right_comm _ _ _
  have size : rest.length + 1 < position + 1 + Packet.headerSize ↔
      rest.length < position + Packet.headerSize := by
    omega
  simp only [ViableAt, HeaderAt, next, List.length_cons, size,
    List.getElem?_cons_succ, Nat.add_right_cancel_iff]

theorem mayBegin_iff : mayBegin bytes = true ↔ ViableAt bytes 0 := by
  match bytes with
  | [] => simp [mayBegin, ViableAt, HeaderAt]
  | [b] => simp [mayBegin, ViableAt, HeaderAt, Packet.headerSize]
  | [b, c] => simp [mayBegin, ViableAt, HeaderAt, Packet.headerSize]
  | [b, c, d] => simp [mayBegin, ViableAt, HeaderAt, Packet.headerSize]
  | b :: c :: d :: length :: rest =>
      have whole : ¬ rest.length + 1 + 1 + 1 + 1 < Packet.headerSize := by
        rw [Packet.headerSize]
        omega
      simp [mayBegin, ViableAt, HeaderAt, whole, Packet.lengthPosition]

theorem isFirst_zero (viable : ViableAt bytes 0) : IsFirst bytes 0 :=
  ⟨Nat.zero_le _, fun _ => viable, fun _ before => absurd before (by omega)⟩

theorem IsFirst.cons (garbage : ¬ ViableAt (b :: rest) 0)
    (first : IsFirst rest position) :
    IsFirst (b :: rest) (position + 1) := by
  refine ⟨Nat.succ_le_succ first.inside, ?_, ?_⟩
  · intro before
    exact viableAt_cons_succ.2 (first.viable (Nat.lt_of_succ_lt_succ before))
  · intro earlier before
    cases earlier with
    | zero => exact garbage
    | succ earlier =>
        rw [viableAt_cons_succ]
        exact first.least earlier (Nat.lt_of_succ_lt_succ before)

theorem isFirst_start (bytes : Bytes) : IsFirst bytes (start bytes) := by
  induction bytes with
  | nil => exact ⟨Nat.le_refl 0, fun before => absurd before (by simp [start]),
      fun _ before => absurd before (by simp [start])⟩
  | cons b rest first =>
      cases begins : mayBegin (b :: rest) with
      | true =>
          rw [(start_eq_zero_iff (List.cons_ne_nil b rest)).2 begins]
          exact isFirst_zero (mayBegin_iff.1 begins)
      | false =>
          rw [start_cons_of_not_mayBegin begins]
          apply first.cons
          rw [← mayBegin_iff, begins]
          exact Bool.false_ne_true

/-- There is one first position only. -/
theorem IsFirst.le {other : Nat} (first : IsFirst bytes position)
    (second : IsFirst bytes other) : position ≤ other := by
  apply Nat.not_lt.1
  intro before
  have viable : ViableAt bytes other :=
    second.viable (Nat.lt_of_lt_of_le before first.inside)
  exact first.least other before viable

theorem isFirst_iff : IsFirst bytes position ↔ position = start bytes := by
  constructor
  · intro first
    have second := isFirst_start bytes
    exact Nat.le_antisymm (first.le second) (second.le first)
  · rintro rfl
    exact isFirst_start bytes

end ActuatorBus.Stream
