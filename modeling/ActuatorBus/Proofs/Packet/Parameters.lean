import ActuatorBus.Bus.Operation
import ActuatorBus.Proofs.Packet.Writing

/-!
# The parameters of instructions

What the parameters of an instruction come to, for each request on registers.
A request fills all of its parameters, so that none of them are left over from
an earlier instruction.
-/

namespace ActuatorBus

/-- The bytes that a register holds a value in; they must be as many as the
register is wide. -/
def Register.image (register : Register) (value : Value) :
    Except Fault Bytes := do
  Filler.fitting register.width (← register.encode value)

theorem Register.writable_of_check {register : Register}
    (checked : register.checkWritable = .ok ()) :
    register.writable = true := by
  by_cases writable : register.writable = true
  · exact writable
  · cases space : register.space <;>
      simp [Register.checkWritable, writable, space] at checked

namespace WriteEntry

/-- The bytes of an entry on the line. -/
def image (entry : WriteEntry) : Except Fault Bytes := do
  let address ← entry.address.needByte
  return address :: (← Filler.fitting 4 entry.data)

/-- The bytes of several entries on the line. -/
def images : List WriteEntry → Except Fault Bytes
  | [] => .ok []
  | entry :: rest => do
    let bytes ← entry.image
    return bytes ++ (← images rest)

theorem ofValue_eq_ok_iff {register : Register} {value : Value}
    {entry : WriteEntry} :
    ofValue register value = .ok entry ↔
      register.writable = true ∧ register.width = 4 ∧
        register.encode value = .ok entry.data ∧
        entry.register = register := by
  constructor
  · intro made
    obtain ⟨_, checked, rest⟩ := bind_eq_ok_iff.1 made
    have writable := Register.writable_of_check checked
    by_cases wide : register.width + 1 = width
    · rw [if_neg (not_not_intro wide)] at rest
      obtain ⟨data, encoded, returned⟩ := bind_eq_ok_iff.1 rest
      cases returned
      exact ⟨writable, Nat.succ.inj wide, encoded, rfl⟩
    · rw [if_pos wide] at rest
      cases rest
  · rintro ⟨writable, wide, encoded, rfl⟩
    have checked : entry.register.checkWritable = .ok () := if_pos writable
    have fits : ¬ entry.register.width + 1 ≠ width :=
      not_not_intro (congrArg Nat.succ wide)
    rw [ofValue, checked, ok_bind, if_neg fits, encoded]
    rfl

theorem ofValue_eq {register : Register} {value : Value} {entry : WriteEntry}
    (made : ofValue register value = .ok entry) :
    register.writable = true ∧
      ∃ data, register.encode value = .ok data ∧ entry = ⟨register, data⟩ := by
  obtain ⟨writable, _, encoded, rfl⟩ := ofValue_eq_ok_iff.1 made
  exact ⟨writable, entry.data, encoded, rfl⟩

end WriteEntry

namespace Filler

theorem writes_fill (register : Register) (value : Value) :
    Writes (register.fill value) 0 register.width 0
      (register.image value) := by
  have writes :
      Writes
        (Act.ofExcept (register.encode value) >>= fun bytes =>
          within 0 register.width (putAll bytes))
        0 register.width 0 (register.image value) :=
    Writes.of_except fun bytes _ => by
      have covers :
          Writes (within 0 (0 + register.width) (putAll bytes)) 0
            register.width 0 _ :=
        (writes_putAll bytes).within
      rw [Nat.zero_add] at covers
      exact covers
  intro done field rest doneLength fieldLength restLength
  have size :
      (done ++ (field ++ rest)).length = register.width := by
    simp only [List.length_append]
    omega
  have run :
      (register.fill value).run (done ++ (field ++ rest)) =
        (Act.ofExcept (register.encode value) >>= fun bytes =>
          within 0 register.width (putAll bytes)).run
            (done ++ (field ++ rest)) := by
    simp [Register.fill, checkBufferSize, size]
  rw [run]
  exact writes done field rest doneLength fieldLength restLength

/-- An address byte in front of a field. -/
theorem writes_address {fill : Filler} {size tail : Nat}
    {image : Except Fault Bytes} (address : Value)
    (writes : Writes fill 1 size tail image) :
    Writes (Filler.address address >>= fun _ => fill) 0 (1 + size) tail
      (address.needByte >>= fun address =>
        image.map (address :: ·)) := by
  have both := (writes_putValue 0 address).append writes rfl rfl
  have imageEq :
      (address.needByte >>= fun address => image.map (address :: ·)) =
        ((address.needByte.map fun byte => [byte]) >>= fun bytes =>
          image.map (bytes ++ ·)) := by
    cases address.needByte <;> rfl
  rw [imageEq]
  exact both

theorem writes_register (register : Register) (value : Value) :
    Writes (Filler.register register value) 0 (1 + register.width) 0
      (register.address.needByte >>= fun address =>
        (register.image value).map (address :: ·)) :=
  writes_address register.address (writes_fill register value).after

theorem writes_data (address : Value) (bytes : Bytes) :
    Writes (data address bytes) 0 (1 + bytes.length) 0
      (address.needByte >>= fun address => .ok (address :: bytes)) := by
  have covers :
      Writes (after 1 (putAll bytes)) 1 bytes.length 0 _ :=
    (writes_putAll bytes).after
  rw [fitting, if_pos rfl] at covers
  exact writes_address address covers

/-- Items that are bytes are written as these. -/
theorem items_of_bytes (address : Value) {items : List Value} {bytes : Bytes}
    (areBytes : Bytes.ofValues items = .ok bytes) :
    Filler.items address items = data address bytes := by
  rw [Filler.items, areBytes]
  rfl

theorem writes_items (address : Value) (items : List Value) :
    Writes (Filler.items address items) 0 (1 + items.length) 0
      (address.needByte >>= fun address =>
        (Bytes.ofValues items).map (address :: ·)) := by
  have writes :
      Writes (Act.ofExcept (Bytes.ofValues items) >>= putAll) 0 items.length
        0 (Bytes.ofValues items >>= fitting items.length) :=
    Writes.of_except fun bytes _ => writes_putAll bytes
  have imageEq :
      (Bytes.ofValues items >>= fitting items.length) =
        Bytes.ofValues items := by
    cases made : Bytes.ofValues items with
    | error fault => rfl
    | ok bytes =>
        rw [ok_bind, fitting, if_pos (Packet.length_ofValues made)]
  rw [imageEq] at writes
  exact writes_address address writes.after

theorem writes_entries (entries : List WriteEntry) :
    Writes (Filler.entries entries) 0 (entries.length * WriteEntry.width) 0
      (WriteEntry.images entries) := by
  induction entries with
  | nil => exact writes_nothing
  | cons entry rest restWrites =>
      have dataWrites :
          Writes (within 1 (1 + 4) (putAll entry.data)) 1 4
            (rest.length * WriteEntry.width) _ :=
        (writes_putAll entry.data).within
      have entryWrites := writes_address entry.address dataWrites
      have both :=
        entryWrites.append restWrites.after rfl (Nat.add_zero _).symm
      have sizeEq :
          (entry :: rest).length * WriteEntry.width =
            1 + 4 + rest.length * WriteEntry.width := by
        rw [List.length_cons, Nat.succ_mul, WriteEntry.width]
        omega
      have imageEq :
          WriteEntry.images (entry :: rest) =
            ((entry.address.needByte >>= fun address =>
              (fitting 4 entry.data).map (address :: ·)) >>= fun bytes =>
                (WriteEntry.images rest).map (bytes ++ ·)) := by
        simp only [WriteEntry.images, WriteEntry.image]
        cases entry.address.needByte with
        | error fault => rfl
        | ok address =>
            cases fitting 4 entry.data with
            | error fault => rfl
            | ok bytes => cases WriteEntry.images rest <;> rfl
      rw [sizeEq, imageEq]
      rw [bind_assoc] at both
      exact both

end Filler

/-! ## Requests -/

/-- The parameters of a request are written whole, and nothing else is sent as
such. -/
def Request.Fills (request : Request) (image : Except Fault Bytes) : Prop :=
  ∃ count : Nat, request.parameterCount = count ∧
    Filler.Fills request.fill count image

namespace Request

/-! What a request is, once it is made. -/

theorem read_eq {register : Register} {request : Request}
    (made : read register = .ok request) :
    ∃ space, register.space = some space ∧
      request =
        { code := .integer space.readInstruction.code.toNat
          parameterCount := 1
          expected := .integer register.width
          fill := some (Filler.address register.address) } := by
  obtain ⟨instruction, found, returned⟩ := bind_eq_ok_iff.1 made
  cases returned
  unfold Register.readInstruction at found
  cases space : register.space with
  | none =>
      rw [space] at found
      cases found
  | some space' =>
      rw [space] at found
      cases found
      exact ⟨space', rfl, rfl⟩

theorem write_eq {register : Register} {value : Value} {request : Request}
    (made : write register value = .ok request) :
    ∃ space, register.space = some space ∧ register.writable = true ∧
      request =
        { code := .integer space.writeInstruction.code.toNat
          parameterCount := register.width + 1
          expected := .integer 0
          fill := some (Filler.register register value) } := by
  obtain ⟨_, checked, instructed⟩ := bind_eq_ok_iff.1 made
  obtain ⟨instruction, found, returned⟩ := bind_eq_ok_iff.1 instructed
  have writable := Register.writable_of_check checked
  unfold Register.writeInstruction at found
  rw [writable] at found
  cases space : register.space with
  | none =>
      rw [space] at found
      cases found
  | some space' =>
      rw [space] at found
      cases found
      cases returned
      exact ⟨space', rfl, writable, rfl⟩

theorem writeAll_eq {entries : List WriteEntry} {request : Request}
    (made : writeAll entries = .ok request) :
    ∃ space, entries ≠ [] ∧
      (∀ entry ∈ entries, entry.register.space = some space) ∧
      request =
        { code := .integer space.writeInstruction.code.toNat
          parameterCount := entries.length * WriteEntry.width
          expected := .integer 0
          fill := some (Filler.entries entries) } := by
  cases entries with
  | nil => cases made
  | cons first rest =>
      simp only [writeAll] at made
      split at made
      · cases made
      · rename_i same
        have rest_eq : ∀ entry ∈ rest,
            entry.register.space = first.register.space := by
          simpa using same
        cases space : first.register.space with
        | none =>
            rw [space] at made
            cases made
        | some space' =>
            rw [space] at made rest_eq
            cases made
            refine ⟨space', by simp, ?_, rfl⟩
            intro entry member
            rcases List.mem_cons.1 member with rfl | member
            · exact space
            · exact rest_eq entry member

/-! A request fills all of its parameters. -/

theorem bare_fills (instruction : Instruction) (expected : Value) :
    (bare instruction expected).Fills (.ok []) :=
  ⟨0, rfl, rfl, rfl⟩

theorem readRaw_fills (code address length : Value) :
    (readRaw code address length).Fills
      (address.needByte.map fun byte => [byte]) :=
  ⟨1, rfl, Filler.writes_putValue 0 address⟩

theorem read_fills {register : Register} {request : Request}
    (made : read register = .ok request) :
    request.Fills (register.address.needByte.map fun byte => [byte]) := by
  obtain ⟨_, _, rfl⟩ := read_eq made
  exact ⟨1, rfl, Filler.writes_putValue 0 register.address⟩

theorem write_fills {register : Register} {value : Value}
    {request : Request} (made : write register value = .ok request) :
    request.Fills
      (register.address.needByte >>= fun address =>
        (register.image value).map (address :: ·)) := by
  obtain ⟨_, _, _, rfl⟩ := write_eq made
  exact ⟨1 + register.width, by simp [Int.add_comm],
    Filler.writes_register register value⟩

theorem writeAll_fills {entries : List WriteEntry} {request : Request}
    (made : writeAll entries = .ok request) :
    request.Fills (WriteEntry.images entries) := by
  obtain ⟨_, _, _, rfl⟩ := writeAll_eq made
  exact ⟨entries.length * WriteEntry.width, rfl,
    Filler.writes_entries entries⟩

end Request

end ActuatorBus
