import ActuatorBus.Proofs.Bus.Suspending
import ActuatorBus.Proofs.Bus.Transcript

/-!
# Orders

An order is what a motor is asked with one instruction. It is rejected for what
is wrong with one of its parts, and for nothing else: what is not rejected comes
to an instruction that fits into the write buffer.
-/

namespace ActuatorBus

/-- What a motor can be asked. Raw data can be any items. -/
inductive Order where
  | ping (motorId : Value)
  | read (motorId : Value) (register : Register)
  | write (motorId : Value) (register : Register) (value : Value)
  | multiWrite (motorId : Value) (entries : List WriteEntry)
  | saveConfig (motorId : Value)
  | readRaw (motorId code address length : Value)
  | writeRaw (motorId code address : Value) (items : List Value)

/-- Carries out an order. It may have no response even if it succeeds. -/
def Bus.order {σ : Type} (link : Link σ) :
    Order → Act (Bus σ) (Option Response)
  | .ping motorId => ping link motorId
  | .read motorId register => read link motorId register
  | .write motorId register value => write link motorId register value
  | .multiWrite motorId entries => multiWrite link motorId entries
  | .saveConfig motorId => do
    saveConfig link motorId
    return none
  | .readRaw motorId code address length =>
    readRaw link motorId code address length
  | .writeRaw motorId code address items => do
    writeItems link motorId code address items
    return none

/-- Carries out an order as a suspending bus does. -/
def AsyncBus.order {σ : Type} (link : Link σ) :
    Order → Coroutine (Bus σ) (Option Response)
  | .ping motorId => ping link motorId
  | .read motorId register => read link motorId register
  | .write motorId register value => write link motorId register value
  | .multiWrite motorId entries => multiWrite link motorId entries
  | .saveConfig motorId => do
    saveConfig link motorId
    return none
  | .readRaw motorId code address length =>
    readRaw link motorId code address length
  | .writeRaw motorId code address items => do
    writeItems link motorId code address items
    return none

theorem AsyncBus.order_complete {σ : Type} (link : Link σ) (given : Order) :
    (order link given).complete link.serve = Bus.order link given := by
  cases given with
  | ping motorId => exact ping_complete link motorId
  | read motorId register => exact read_complete link motorId register
  | write motorId register value =>
      exact write_complete link motorId register value
  | multiWrite motorId entries =>
      exact multiWrite_complete link motorId entries
  | readRaw motorId code address length =>
      exact readRaw_complete link motorId code address length
  | saveConfig motorId => simp [order, Bus.order, saveConfig_complete]
  | writeRaw motorId code address items =>
      simp [order, Bus.order, writeItems_complete]

namespace Order

/-! ## The parts of an order -/

def target : Order → Value
  | ping motorId | read motorId _ | write motorId _ _ | multiWrite motorId _
  | saveConfig motorId | readRaw motorId _ _ _ | writeRaw motorId _ _ _ =>
    motorId

/-- Whether an order is nothing without a reply. -/
def asksBack : Order → Bool
  | ping _ | read _ _ | readRaw _ _ _ _ => true
  | write _ _ _ | multiWrite _ _ | saveConfig _ | writeRaw _ _ _ _ => false

def written? : Order → Option (Register × Value)
  | write _ register value => some (register, value)
  | _ => none

def entries : Order → List WriteEntry
  | multiWrite _ entries => entries
  | _ => []

def registers : Order → List Register
  | read _ register | write _ register _ => [register]
  | multiWrite _ entries => entries.map WriteEntry.register
  | _ => []

/-- The codes that are given; registers have their own. -/
def codes : Order → List Value
  | readRaw _ code _ _ | writeRaw _ code _ _ => [code]
  | _ => []

def addresses : Order → List Value
  | read _ register | write _ register _ => [register.address]
  | multiWrite _ entries => entries.map WriteEntry.address
  | readRaw _ _ address _ | writeRaw _ _ address _ => [address]
  | ping _ | saveConfig _ => []

def items : Order → List Value
  | writeRaw _ _ _ items => items
  | _ => []

/-- The number of parameters of the instruction. -/
def count : Order → Nat
  | ping _ | saveConfig _ => 0
  | read _ _ | readRaw _ _ _ _ => 1
  | write _ register _ => register.width + 1
  | multiWrite _ entries => entries.length * WriteEntry.width
  | writeRaw _ _ _ items => items.length + 1

/-- An order makes an operation. One with data that are no bytes makes none. -/
inductive Makes : Order → Operation → Prop where
  | ping {motorId : Value} : Makes (.ping motorId) (.ping motorId)
  | read {motorId : Value} {register : Register} :
    Makes (.read motorId register) (.read motorId register)
  | write {motorId : Value} {register : Register} {value : Value} :
    Makes (.write motorId register value) (.write motorId register value)
  | multiWrite {motorId : Value} {entries : List WriteEntry} :
    Makes (.multiWrite motorId entries) (.multiWrite motorId entries)
  | saveConfig {motorId : Value} :
    Makes (.saveConfig motorId) (.saveConfig motorId)
  | readRaw {motorId code address length : Value} :
    Makes (.readRaw motorId code address length)
      (.readRaw motorId code address length)
  | writeRaw {motorId code address : Value} {items : List Value}
    {bytes : Bytes} (areBytes : Bytes.ofValues items = .ok bytes) :
    Makes (.writeRaw motorId code address items)
      (.writeRaw motorId code address bytes)

end Order

/-- A value counts as the code of an instruction, which is made a whole number
first. -/
def Value.IsCode (value : Value) : Prop :=
  ∃ n, value.wholeNumber = .ok n ∧ 0 ≤ n ∧ n ≤ 255

/-- What an order can be rejected for, given the size of the write buffer. -/
inductive Order.Rejected (room : Nat) (order : Order) : Prop where
  | broadcast (asksBack : order.asksBack = true)
    (everyone : order.target.same (.integer broadcastId) = true)
  | readOnly {register : Register} {value : Value}
    (given : order.written? = some (register, value))
    (readOnly : register.writable = false)
  | spaceless {register : Register} (member : register ∈ order.registers)
    (spaceless : register.space = none)
  | unencodable {register : Register} {value : Value}
    (given : order.written? = some (register, value))
    (unfit : ∀ data, register.encode value = .ok data →
      data.length ≠ register.width)
  | empty (motorId : Value) (isEmpty : order = .multiWrite motorId [])
  | mixed {first second : Register} (member : first ∈ order.registers)
    (other : second ∈ order.registers) (differ : first.space ≠ second.space)
  | uneven {entry : WriteEntry} (member : entry ∈ order.entries)
    (uneven : entry.data.length ≠ 4)
  | tooLarge (large : (room : Int) < Packet.size order.count)
  | uncountable (long : Packet.maximumLength < (order.count : Int) + 2)
  | noMotor (noByte : ¬ order.target.IsByte)
  | noCode {code : Value} (member : code ∈ order.codes)
    (noByte : ¬ code.IsCode)
  | noAddress {address : Value} (member : address ∈ order.addresses)
    (noByte : ¬ address.IsByte)
  | noData {item : Value} (member : item ∈ order.items)
    (noByte : ¬ item.IsByte)

structure Order.Accepted (room : Nat) (order : Order) : Prop where
  single : order.asksBack = true →
    order.target.same (.integer broadcastId) = false
  writable : ∀ register value, order.written? = some (register, value) →
    register.writable = true
  spaced : ∀ register ∈ order.registers, register.space ≠ none
  encodable : ∀ register value, order.written? = some (register, value) →
    ∃ data, register.encode value = .ok data ∧
      data.length = register.width
  nonempty : ∀ motorId, order ≠ .multiWrite motorId []
  uniform : ∀ first ∈ order.registers, ∀ second ∈ order.registers,
    first.space = second.space
  even : ∀ entry ∈ order.entries, entry.data.length = 4
  fits : Packet.size order.count ≤ room
  countable : (order.count : Int) + 2 ≤ Packet.maximumLength
  target : order.target.IsByte
  codes : ∀ code ∈ order.codes, code.IsCode
  addresses : ∀ address ∈ order.addresses, address.IsByte
  items : ∀ item ∈ order.items, item.IsByte

namespace Order

variable {room : Nat} {order : Order}

theorem accepted_of_not_rejected (fine : ¬ order.Rejected room) :
    order.Accepted room := by
  constructor
  · intro asksBack
    rw [← Bool.not_eq_true]
    exact fun everyone => fine (.broadcast asksBack everyone)
  · intro register value given
    rw [← Bool.not_eq_false]
    exact fun readOnly => fine (.readOnly given readOnly)
  · exact fun register member spaceless => fine (.spaceless member spaceless)
  · intro register value given
    by_contra none
    refine fine (.unencodable given fun data encoded whole => ?_)
    exact none ⟨data, encoded, whole⟩
  · exact fun motorId isEmpty => fine (.empty motorId isEmpty)
  · intro first member second other
    by_contra differ
    exact fine (.mixed member other differ)
  · intro entry member
    by_contra uneven
    exact fine (.uneven member uneven)
  · exact Int.not_lt.1 fun large => fine (.tooLarge large)
  · exact Int.not_lt.1 fun long => fine (.uncountable long)
  · exact not_not.1 fun noByte => fine (.noMotor noByte)
  · exact fun code member => not_not.1 fun noByte =>
      fine (.noCode member noByte)
  · exact fun address member => not_not.1 fun noByte =>
      fine (.noAddress member noByte)
  · exact fun item member => not_not.1 fun noByte =>
      fine (.noData member noByte)

/-! ## The instruction of an order -/

theorem exists_code_iff {value : Value} :
    (∃ code, value.wholeNumber >>= Bytes.needByte = .ok code) ↔
      value.IsCode := by
  unfold Value.IsCode
  cases value.wholeNumber with
  | error fault =>
      refine iff_of_false ?_ ?_
      · rintro ⟨code, ⟨⟩⟩
      · rintro ⟨n, ⟨⟩, _⟩
  | ok n =>
      simp only [ok_bind, Bytes.exists_needByte_iff, Except.ok.injEq,
        exists_eq_left']

theorem exists_image_iff {entry : WriteEntry} :
    (∃ bytes, entry.image = .ok bytes) ↔
      entry.address.IsByte ∧ entry.data.length = 4 := by
  rw [WriteEntry.image, ← Value.exists_needByte_iff, Filler.fitting]
  cases entry.address.needByte with
  | error fault =>
      refine iff_of_false ?_ ?_
      · rintro ⟨bytes, ⟨⟩⟩
      · rintro ⟨⟨byte, ⟨⟩⟩, _⟩
  | ok byte =>
      by_cases even : entry.data.length = 4
      · rw [if_pos even]
        exact iff_of_true ⟨_, rfl⟩ ⟨⟨byte, rfl⟩, even⟩
      · rw [if_neg even]
        refine iff_of_false ?_ fun fine => even fine.2
        rintro ⟨bytes, ⟨⟩⟩

theorem exists_images_iff {entries : List WriteEntry} :
    (∃ bytes, WriteEntry.images entries = .ok bytes) ↔
      ∀ entry ∈ entries, entry.address.IsByte ∧ entry.data.length = 4 := by
  induction entries with
  | nil => exact iff_of_true ⟨[], rfl⟩ (by simp)
  | cons entry rest restIff =>
      rw [List.forall_mem_cons, ← restIff, ← exists_image_iff,
        WriteEntry.images]
      constructor
      · rintro ⟨bytes, made⟩
        obtain ⟨first, firstMade, made⟩ := bind_eq_ok_iff.1 made
        obtain ⟨others, othersMade, _⟩ := bind_eq_ok_iff.1 made
        exact ⟨⟨first, firstMade⟩, others, othersMade⟩
      · rintro ⟨⟨first, firstMade⟩, others, othersMade⟩
        exact ⟨first ++ others, by rw [firstMade, othersMade]; rfl⟩

theorem length_images {entries : List WriteEntry} {bytes : Bytes}
    (made : WriteEntry.images entries = .ok bytes) :
    bytes.length = entries.length * WriteEntry.width := by
  have fills :
      Filler.Fills (some (Filler.entries entries))
        (entries.length * WriteEntry.width) (WriteEntry.images entries) :=
    Filler.writes_entries entries
  rw [made] at fills
  exact fills.length_eq

variable {operation : Operation} {motorId : Value} {code : UInt8}
  {parameters : Bytes} {packet : Packet}

/-- Nothing but items that are no bytes keeps an order from making an
operation. -/
theorem makes_or_spoilt (order : Order) :
    (∃ operation, order.Makes operation) ∨
      ∃ motorId code address items fault,
        order = .writeRaw motorId code address items ∧
          Bytes.ofValues items = .error fault := by
  cases order with
  | ping motorId => exact .inl ⟨_, .ping⟩
  | read motorId register => exact .inl ⟨_, .read⟩
  | write motorId register value => exact .inl ⟨_, .write⟩
  | multiWrite motorId entries => exact .inl ⟨_, .multiWrite⟩
  | saveConfig motorId => exact .inl ⟨_, .saveConfig⟩
  | readRaw motorId code address length => exact .inl ⟨_, .readRaw⟩
  | writeRaw motorId code address items =>
      cases areBytes : Bytes.ofValues items with
      | ok bytes => exact .inl ⟨_, .writeRaw areBytes⟩
      | error fault =>
          exact .inr ⟨motorId, code, address, items, fault, rfl, areBytes⟩

theorem Makes.asks (makes : order.Makes operation) :
    operation.asked.isSome := by
  cases makes <;> rfl

theorem Makes.tells_single (makes : order.Makes operation)
    (tells : operation.Tells motorId code parameters)
    (asksBack : order.asksBack = true) :
    order.target.same (.integer broadcastId) = false := by
  cases makes with
  | ping =>
      cases tells with
      | ping single => exact single
  | read =>
      cases tells with
      | read single _ _ => exact single
  | readRaw =>
      cases tells with
      | readRaw single _ _ => exact single
  | _ => cases asksBack

theorem Makes.tells_parts (makes : order.Makes operation)
    (tells : operation.Tells motorId code parameters) :
    motorId = order.target ∧ parameters.length = order.count := by
  cases makes with
  | ping =>
      cases tells
      exact ⟨rfl, rfl⟩
  | read =>
      cases tells
      exact ⟨rfl, rfl⟩
  | write =>
      cases tells with
      | write _ _ _ _ whole => exact ⟨rfl, congrArg (· + 1) whole⟩
  | multiWrite =>
      cases tells with
      | multiWrite _ _ encoded => exact ⟨rfl, length_images encoded⟩
  | saveConfig =>
      cases tells
      exact ⟨rfl, rfl⟩
  | readRaw =>
      cases tells
      exact ⟨rfl, rfl⟩
  | writeRaw areBytes =>
      cases tells
      exact ⟨rfl, congrArg (· + 1) (Packet.length_ofValues areBytes)⟩

theorem Makes.tells_written {register : Register} {value : Value}
    (makes : order.Makes operation)
    (tells : operation.Tells motorId code parameters)
    (given : order.written? = some (register, value)) :
    register.writable = true ∧
      ∃ data, register.encode value = .ok data ∧
        data.length = register.width := by
  cases makes with
  | write =>
      cases given
      cases tells with
      | write writable _ _ encoded whole =>
          exact ⟨writable, _, encoded, whole⟩
  | _ => cases given

theorem Makes.tells_space (makes : order.Makes operation)
    (tells : operation.Tells motorId code parameters) :
    ∃ space, ∀ register ∈ order.registers, register.space = some space := by
  cases makes with
  | read =>
      cases tells with
      | @read _ _ space _ _ placed _ =>
          exact ⟨space, by simpa [registers] using placed⟩
  | write =>
      cases tells with
      | @write _ _ _ space _ _ _ placed _ _ _ =>
          exact ⟨space, by simpa [registers] using placed⟩
  | multiWrite =>
      cases tells with
      | @multiWrite _ _ space _ _ placed _ =>
          exact ⟨space, by simpa [registers] using placed⟩
  | _ => exact ⟨.config, by simp [registers]⟩

theorem Makes.tells_entries (makes : order.Makes operation)
    (tells : operation.Tells motorId code parameters) :
    (∀ motorId, order ≠ .multiWrite motorId []) ∧
      ∀ entry ∈ order.entries, entry.data.length = 4 := by
  cases makes with
  | multiWrite =>
      cases tells with
      | multiWrite several _ encoded =>
          constructor
          · rintro motorId ⟨⟩
            exact several rfl
          · intro entry member
            exact (exists_images_iff.1 ⟨_, encoded⟩ entry member).2
  | _ => exact ⟨nofun, nofun⟩

theorem Makes.tells_codes (makes : order.Makes operation)
    (tells : operation.Tells motorId code parameters) :
    ∀ given ∈ order.codes, given.IsCode := by
  cases makes with
  | readRaw =>
      cases tells with
      | readRaw _ coded _ =>
          simpa [codes] using exists_code_iff.1 ⟨_, coded⟩
  | writeRaw =>
      cases tells with
      | writeRaw coded _ =>
          simpa [codes] using exists_code_iff.1 ⟨_, coded⟩
  | _ => exact nofun

theorem Makes.tells_addresses (makes : order.Makes operation)
    (tells : operation.Tells motorId code parameters) :
    ∀ address ∈ order.addresses, address.IsByte := by
  cases makes with
  | read =>
      cases tells with
      | read _ _ located =>
          simpa [addresses] using Value.exists_needByte_iff.1 ⟨_, located⟩
  | write =>
      cases tells with
      | write _ _ located _ _ =>
          simpa [addresses] using Value.exists_needByte_iff.1 ⟨_, located⟩
  | multiWrite =>
      cases tells with
      | multiWrite _ _ encoded =>
          have located := exists_images_iff.1 ⟨_, encoded⟩
          simp only [addresses, List.forall_mem_map]
          exact fun entry member => (located entry member).1
  | readRaw =>
      cases tells with
      | readRaw _ _ located =>
          simpa [addresses] using Value.exists_needByte_iff.1 ⟨_, located⟩
  | writeRaw =>
      cases tells with
      | writeRaw _ located =>
          simpa [addresses] using Value.exists_needByte_iff.1 ⟨_, located⟩
  | _ => exact nofun

theorem Makes.items (makes : order.Makes operation) :
    ∀ item ∈ order.items, item.IsByte := by
  cases makes with
  | writeRaw areBytes => exact Packet.exists_ofValues_iff.1 ⟨_, areBytes⟩
  | _ => exact nofun

/-- There is nothing wrong with an order that comes to an instruction. -/
theorem Makes.accepted (makes : order.Makes operation)
    (instructs : operation.Instructs room packet) : order.Accepted room := by
  obtain ⟨motorId, tells, idEq⟩ := instructs.tells
  obtain ⟨target, counted⟩ := makes.tells_parts tells
  obtain ⟨space, placed⟩ := makes.tells_space tells
  obtain ⟨nonempty, even⟩ := makes.tells_entries tells
  constructor
  case single => exact makes.tells_single tells
  case writable =>
    exact fun register value given => (makes.tells_written tells given).1
  case encodable =>
    exact fun register value given => (makes.tells_written tells given).2
  case spaced =>
    intro register member
    simp [placed register member]
  case uniform =>
    intro first member second other
    rw [placed first member, placed second other]
  case nonempty => exact nonempty
  case even => exact even
  case fits =>
    have fits := instructs.fits
    rw [Packet.length_encode, counted] at fits
    simp only [Packet.size]
    omega
  case countable => exact counted ▸ instructs.countable
  case target => exact target ▸ Value.exists_needByte_iff.1 ⟨_, idEq⟩
  case codes => exact makes.tells_codes tells
  case addresses => exact makes.tells_addresses tells
  case items => exact makes.items

/-! ## Orders that are accepted -/

theorem Accepted.placed (accepted : order.Accepted room) {register : Register}
    (member : register ∈ order.registers) :
    ∃ space, ∀ other ∈ order.registers, other.space = some space := by
  obtain ⟨space, placed⟩ :=
    Option.ne_none_iff_exists'.1 (accepted.spaced register member)
  refine ⟨space, fun other among => ?_⟩
  rw [accepted.uniform other among register member, placed]

theorem Accepted.located (accepted : order.Accepted room) {address : Value}
    (member : address ∈ order.addresses) :
    ∃ byte, address.needByte = .ok byte :=
  Value.exists_needByte_iff.2 (accepted.addresses address member)

theorem Accepted.coded (accepted : order.Accepted room) {given : Value}
    (member : given ∈ order.codes) :
    ∃ code, given.wholeNumber >>= Bytes.needByte = .ok code :=
  exists_code_iff.2 (accepted.codes given member)

theorem Accepted.tells (accepted : order.Accepted room) :
    ∃ operation motorId code parameters, order.Makes operation ∧
      operation.Tells motorId code parameters := by
  cases order with
  | ping motorId =>
      exact ⟨_, _, _, _, .ping, .ping (accepted.single rfl)⟩
  | read motorId register =>
      obtain ⟨space, placed⟩ := accepted.placed List.mem_cons_self
      obtain ⟨address, located⟩ := accepted.located List.mem_cons_self
      have registerPlaced := placed register List.mem_cons_self
      exact ⟨_, _, _, _, .read,
        .read (accepted.single rfl) registerPlaced located⟩
  | write motorId register value =>
      obtain ⟨space, placed⟩ := accepted.placed List.mem_cons_self
      obtain ⟨address, located⟩ := accepted.located List.mem_cons_self
      obtain ⟨data, encoded, whole⟩ := accepted.encodable register value rfl
      have writable := accepted.writable register value rfl
      have registerPlaced := placed register List.mem_cons_self
      exact ⟨_, _, _, _, .write,
        .write writable registerPlaced located encoded whole⟩
  | multiWrite motorId entries =>
      have several : entries ≠ [] := by
        rintro rfl
        exact accepted.nonempty motorId rfl
      obtain ⟨first, member⟩ := List.exists_mem_of_ne_nil entries several
      obtain ⟨space, placed⟩ :=
        accepted.placed (List.mem_map_of_mem member)
      obtain ⟨parameters, encoded⟩ :=
        exists_images_iff.2 fun entry among =>
          ⟨accepted.addresses _ (List.mem_map_of_mem among),
            accepted.even entry among⟩
      have entriesPlaced : ∀ entry ∈ entries,
          entry.register.space = some space :=
        fun entry among => placed _ (List.mem_map_of_mem among)
      exact ⟨_, _, _, _, .multiWrite,
        .multiWrite several entriesPlaced encoded⟩
  | saveConfig motorId =>
      exact ⟨_, _, _, _, .saveConfig, .saveConfig⟩
  | readRaw motorId given place length =>
      obtain ⟨code, coded⟩ := accepted.coded List.mem_cons_self
      obtain ⟨address, located⟩ := accepted.located List.mem_cons_self
      exact ⟨_, _, _, _, .readRaw,
        .readRaw (accepted.single rfl) coded located⟩
  | writeRaw motorId given place items =>
      obtain ⟨code, coded⟩ := accepted.coded List.mem_cons_self
      obtain ⟨address, located⟩ := accepted.located List.mem_cons_self
      obtain ⟨bytes, areBytes⟩ :=
        Packet.exists_ofValues_iff.2 accepted.items
      exact ⟨_, _, _, _, .writeRaw areBytes, .writeRaw coded located⟩

theorem Accepted.instructs (accepted : order.Accepted room) :
    ∃ operation packet, order.Makes operation ∧
      operation.Instructs room packet := by
  obtain ⟨operation, motorId, code, parameters, makes, tells⟩ :=
    accepted.tells
  obtain ⟨target, counted⟩ := makes.tells_parts tells
  obtain ⟨byte, isByte⟩ := Value.exists_needByte_iff.2 accepted.target
  refine ⟨operation, ⟨byte, code, parameters⟩, makes, ?_⟩
  constructor
  · exact ⟨motorId, tells, target ▸ isByte⟩
  · exact counted ▸ accepted.countable
  · have fits := accepted.fits
    simp only [Packet.size, ← counted] at fits
    simp only [Packet.length_encode]
    omega

theorem Rejected.not_accepted (rejected : order.Rejected room) :
    ¬ order.Accepted room := by
  intro accepted
  cases rejected with
  | broadcast asksBack everyone =>
      exact Bool.false_ne_true
        ((accepted.single asksBack).symm.trans everyone)
  | readOnly given readOnly =>
      exact Bool.false_ne_true
        (readOnly.symm.trans (accepted.writable _ _ given))
  | spaceless member spaceless => exact accepted.spaced _ member spaceless
  | unencodable given unfit =>
      obtain ⟨data, encoded, whole⟩ := accepted.encodable _ _ given
      exact unfit data encoded whole
  | empty motorId isEmpty => exact accepted.nonempty motorId isEmpty
  | mixed member other differ =>
      exact differ (accepted.uniform _ member _ other)
  | uneven member uneven => exact uneven (accepted.even _ member)
  | tooLarge large => exact absurd accepted.fits (Int.not_le.2 large)
  | uncountable long => exact absurd accepted.countable (Int.not_le.2 long)
  | noMotor noByte => exact noByte accepted.target
  | noCode member noCode => exact noCode (accepted.codes _ member)
  | noAddress member noByte => exact noByte (accepted.addresses _ member)
  | noData member noByte => exact noByte (accepted.items _ member)

end Order

end ActuatorBus
