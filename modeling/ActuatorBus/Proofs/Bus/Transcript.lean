import ActuatorBus.Proofs.Bus.History

/-!
# What is sent

Every operation sends the packet of its own instruction, or nothing at all if
there is none. What earlier operations left in the write buffer makes no
difference, also if they failed half way.
-/

namespace ActuatorBus

namespace Request

/-! When a request can be made. -/

theorem read_ok {register : Register} {space : AddressSpace}
    (placed : register.space = some space) :
    read register =
      .ok
        { code := .integer space.readInstruction.code.toNat
          parameterCount := 1
          expected := .integer register.width
          fill := some (Filler.address register.address) } := by
  rw [read, Register.readInstruction, placed]
  rfl

theorem write_ok {register : Register} {value : Value} {space : AddressSpace}
    (writable : register.writable = true)
    (placed : register.space = some space) :
    write register value =
      .ok
        { code := .integer space.writeInstruction.code.toNat
          parameterCount := register.width + 1
          expected := .integer 0
          fill := some (Filler.register register value) } := by
  rw [write, Register.checkWritable, Register.writeInstruction, writable,
    placed]
  rfl

theorem writeAll_ok {entries : List WriteEntry} {space : AddressSpace}
    (several : entries ≠ [])
    (placed : ∀ entry ∈ entries, entry.register.space = some space) :
    writeAll entries =
      .ok
        { code := .integer space.writeInstruction.code.toNat
          parameterCount := entries.length * WriteEntry.width
          expected := .integer 0
          fill := some (Filler.entries entries) } := by
  cases entries with
  | nil => exact absurd rfl several
  | cons first rest =>
      have restPlaced : ∀ entry ∈ rest, entry.register.space = some space :=
        fun entry member => placed entry (List.mem_cons_of_mem first member)
      simpa [writeAll, placed first List.mem_cons_self] using restPlaced

end Request

namespace Operation

/-- What an operation tells a motor: whom it is for, the code of the
instruction, and its parameters. -/
inductive Tells : Operation → (motorId : Value) → (code : UInt8) →
    (parameters : Bytes) → Prop where
  | ping {motorId : Value}
    (single : motorId.same (.integer broadcastId) = false) :
    Tells (.ping motorId) motorId Instruction.ping.code []
  | read {motorId : Value} {register : Register} {space : AddressSpace}
    {address : UInt8} (single : motorId.same (.integer broadcastId) = false)
    (placed : register.space = some space)
    (located : register.address.needByte = .ok address) :
    Tells (.read motorId register) motorId space.readInstruction.code
      [address]
  | write {motorId : Value} {register : Register} {value : Value}
    {space : AddressSpace} {address : UInt8} {data : Bytes}
    (writable : register.writable = true)
    (placed : register.space = some space)
    (located : register.address.needByte = .ok address)
    (encoded : register.encode value = .ok data)
    (whole : data.length = register.width) :
    Tells (.write motorId register value) motorId space.writeInstruction.code
      (address :: data)
  | multiWrite {motorId : Value} {entries : List WriteEntry}
    {space : AddressSpace} {parameters : Bytes} (several : entries ≠ [])
    (placed : ∀ entry ∈ entries, entry.register.space = some space)
    (encoded : WriteEntry.images entries = .ok parameters) :
    Tells (.multiWrite motorId entries) motorId space.writeInstruction.code
      parameters
  | saveConfig {motorId : Value} :
    Tells (.saveConfig motorId) motorId Instruction.saveConfig.code []
  | readRaw {motorId given place length : Value} {code address : UInt8}
    (single : motorId.same (.integer broadcastId) = false)
    (coded : given.wholeNumber >>= Bytes.needByte = .ok code)
    (located : place.needByte = .ok address) :
    Tells (.readRaw motorId given place length) motorId code [address]
  | writeRaw {motorId given place : Value} {code address : UInt8}
    {bytes : Bytes}
    (coded : given.wholeNumber >>= Bytes.needByte = .ok code)
    (located : place.needByte = .ok address) :
    Tells (.writeRaw motorId given place bytes) motorId code (address :: bytes)

theorem checkAddressable_ok {motorId : Value} :
    Request.checkAddressable motorId = .ok () ↔
      motorId.same (.integer broadcastId) = false := by
  unfold Request.checkAddressable
  cases motorId.same (.integer broadcastId) <;> simp

theorem needByte_code (code : UInt8) :
    (Value.integer code.toNat).wholeNumber >>= Bytes.needByte = .ok code :=
  Bytes.needByte_toNat code

theorem image_eq_ok_iff {register : Register} {value : Value} {data : Bytes} :
    register.image value = .ok data ↔
      register.encode value = .ok data ∧ data.length = register.width := by
  unfold Register.image
  cases register.encode value with
  | error fault => simp
  | ok bytes =>
      by_cases whole : bytes.length = register.width
      · simp only [ok_bind, Filler.fitting, if_pos whole, Except.ok.injEq]
        constructor
        · rintro rfl
          exact ⟨rfl, whole⟩
        · exact And.left
      · simp only [ok_bind, Filler.fitting, if_neg whole, Except.ok.injEq,
          reduceCtorEq, false_iff, not_and]
        rintro rfl
        exact whole

variable {operation : Operation} {motorId : Value} {code : UInt8}
  {parameters : Bytes}

theorem Tells.asked_eq (tells : operation.Tells motorId code parameters) :
    ∃ request, operation.asked = some (motorId, .ok request) ∧
      request.code.wholeNumber >>= Bytes.needByte = .ok code ∧
      operation.image = .ok parameters := by
  cases tells with
  | ping single =>
      have asks :
          (Operation.ping motorId).asked = some (motorId, .ok (.bare .ping
            Request.pingParameters)) := by
        rw [asked, checkAddressable_ok.2 single]
        rfl
      exact ⟨_, asks, needByte_code _, rfl⟩
  | @read _ register space address single placed located =>
      have asks :
          (Operation.read motorId register).asked =
            some (motorId, Request.read register) := by
        rw [asked, checkAddressable_ok.2 single]
        rfl
      rw [Request.read_ok placed] at asks
      refine ⟨_, asks, needByte_code _, ?_⟩
      rw [image, located]
      rfl
  | @write _ register value space address data writable placed located
      encoded whole =>
      have asks :
          (Operation.write motorId register value).asked =
            some (motorId, Request.write register value) := rfl
      rw [Request.write_ok writable placed] at asks
      refine ⟨_, asks, needByte_code _, ?_⟩
      rw [image, located, image_eq_ok_iff.2 ⟨encoded, whole⟩]
      rfl
  | @multiWrite _ entries space parameters several placed encoded =>
      have asks :
          (Operation.multiWrite motorId entries).asked =
            some (motorId, Request.writeAll entries) := rfl
      rw [Request.writeAll_ok several placed] at asks
      exact ⟨_, asks, needByte_code _, encoded⟩
  | saveConfig => exact ⟨_, rfl, needByte_code _, rfl⟩
  | @readRaw _ given place length code address single coded located =>
      have asks :
          (Operation.readRaw motorId given place length).asked =
            some (motorId, .ok (.readRaw given place length)) := by
        rw [asked, checkAddressable_ok.2 single]
        rfl
      refine ⟨_, asks, coded, ?_⟩
      rw [image, located]
      rfl
  | writeRaw coded located =>
      refine ⟨_, rfl, coded, ?_⟩
      rw [image, located]
      rfl

theorem tells_of_asked {request : Request}
    (asks : operation.asked = some (motorId, .ok request))
    (coded : request.code.wholeNumber >>= Bytes.needByte = .ok code)
    (encoded : operation.image = .ok parameters) :
    operation.Tells motorId code parameters := by
  cases operation with
  | ping given =>
      simp only [asked, Option.some.injEq, Prod.mk.injEq] at asks
      obtain ⟨rfl, made⟩ := asks
      obtain ⟨_, single, returned⟩ := bind_eq_ok_iff.1 made
      cases returned
      cases encoded
      cases (needByte_code _).symm.trans coded
      exact .ping (checkAddressable_ok.1 single)
  | read given register =>
      simp only [asked, Option.some.injEq, Prod.mk.injEq] at asks
      obtain ⟨rfl, made⟩ := asks
      obtain ⟨_, single, made⟩ := bind_eq_ok_iff.1 made
      obtain ⟨space, placed, rfl⟩ := Request.read_eq made
      obtain ⟨address, located, rfl⟩ := map_eq_ok_iff.1 encoded
      cases (needByte_code _).symm.trans coded
      exact .read (checkAddressable_ok.1 single) placed located
  | write given register value =>
      simp only [asked, Option.some.injEq, Prod.mk.injEq] at asks
      obtain ⟨rfl, made⟩ := asks
      obtain ⟨space, placed, writable, rfl⟩ := Request.write_eq made
      obtain ⟨address, located, encoded⟩ := bind_eq_ok_iff.1 encoded
      obtain ⟨data, dataEq, rfl⟩ := map_eq_ok_iff.1 encoded
      obtain ⟨encoded, whole⟩ := image_eq_ok_iff.1 dataEq
      cases (needByte_code _).symm.trans coded
      exact .write writable placed located encoded whole
  | multiWrite given entries =>
      simp only [asked, Option.some.injEq, Prod.mk.injEq] at asks
      obtain ⟨rfl, made⟩ := asks
      obtain ⟨space, several, placed, rfl⟩ := Request.writeAll_eq made
      cases (needByte_code _).symm.trans coded
      exact .multiWrite several placed encoded
  | saveConfig given =>
      cases asks
      cases encoded
      cases (needByte_code _).symm.trans coded
      exact .saveConfig
  | readRaw given givenCode place length =>
      simp only [asked, Option.some.injEq, Prod.mk.injEq] at asks
      obtain ⟨rfl, made⟩ := asks
      obtain ⟨_, single, returned⟩ := bind_eq_ok_iff.1 made
      cases returned
      obtain ⟨address, located, rfl⟩ := map_eq_ok_iff.1 encoded
      exact .readRaw (checkAddressable_ok.1 single) coded located
  | writeRaw given givenCode place bytes =>
      cases asks
      obtain ⟨address, located, returned⟩ := bind_eq_ok_iff.1 encoded
      cases returned
      exact .writeRaw coded located
  | readResponse expected expectedId => cases asks
  | setBaudRate baudRate => cases asks
  | writePacket given code parameterCount parameters => cases asks
  | transfer given code parameterCount expected parameters => cases asks

/-- The packet is the instruction of the operation, and it fits into a buffer
of the given size. -/
structure Instructs (size : Nat) (operation : Operation) (packet : Packet) :
    Prop where
  tells : ∃ motorId,
    operation.Tells motorId packet.code packet.parameters ∧
      motorId.needByte = .ok packet.motorId
  countable : (packet.parameters.length : Int) + 2 ≤ Packet.maximumLength
  fits : packet.encode.length ≤ size

/-- The instruction of an operation is what its request comes to. -/
theorem instructs_iff {request : Request} {size : Nat} {packet : Packet}
    (asks : operation.asked = some (motorId, .ok request)) :
    operation.Instructs size packet ↔
      request.packet size motorId operation.image = .ok packet := by
  obtain ⟨count, countEq, filled⟩ := asked_fills_image asks
  rw [Request.packet, countEq, Int.toNat_natCast]
  constructor
  · rintro ⟨⟨target, tells, idEq⟩, countable, fits⟩
    obtain ⟨made, makes, coded, encoded⟩ := tells.asked_eq
    cases asks.symm.trans makes
    rw [encoded] at filled
    rw [encoded, ← filled.length_eq]
    rw [Packet.length_encode] at fits
    have sizeFits : Packet.size packet.parameters.length ≤ size := by
      simp only [Packet.size]
      omega
    exact Packet.Assembled.assemble_eq ⟨sizeFits, countable, idEq, coded, rfl⟩
  · intro made
    obtain ⟨fits, countable, idEq, coded, encoded⟩ := Packet.assembled made
    rw [encoded] at filled
    rw [← filled.length_eq] at fits countable
    refine ⟨⟨motorId, tells_of_asked asks coded encoded, idEq⟩, countable, ?_⟩
    rw [Packet.length_encode]
    simp only [Packet.size] at fits
    omega

end Operation

namespace Bus

/-- What was written to the line of a bus so far. -/
def HasWritten (written : List Bytes) (bus : Bus MemoryLine) : Prop :=
  bus.line.written = written

variable (discipline : Discipline) {size : Nat} {operation : Operation}

theorem readResponse_keeps_written (written : List Bytes)
    (expected expectedId : Value) :
    Act.Keeps (HasWritten written)
      (readResponse (MemoryLine.link discipline) expected expectedId) := by
  apply readResponse_retains
  · exact fun _ _ same => same
  · intro space deadline bus same
    simp only [HasWritten, onLine, Act.run_on, MemoryLine.link,
      MemoryLine.read_run]
    exact same

theorem transmit_writes {bus : Bus MemoryLine} (packet : Bytes)
    (discards : bus.line.failures.discard = none)
    (writes : bus.line.failures.write = none) :
    HasWritten (bus.line.written ++ [packet])
      ((transmit (MemoryLine.link discipline) packet).run bus).state := by
  rw [transmit_discarded discipline packet discards]
  simp only [HasWritten, MemoryLine.writeAll_run, writes]

theorem writePacket_writes {bus : Bus MemoryLine} {motorId : Value}
    {request : Request} {image : Except Fault Bytes} {packet : Packet}
    (fills : request.Fills image)
    (made : request.packet bus.writeBuffer.length motorId image = .ok packet)
    (discards : bus.line.failures.discard = none)
    (writes : bus.line.failures.write = none) :
    HasWritten (bus.line.written ++ [packet.encode])
      ((writePacket (MemoryLine.link discipline) motorId request.code
        (.integer request.parameterCount) request.fill).run bus).state := by
  rw [writePacket_ok _ fills made]
  -- Preparing the packet left the line as it was.
  have untouched : (bus.prepared packet).line = bus.line := rfl
  rw [← untouched] at discards writes ⊢
  exact transmit_writes discipline packet.encode discards writes

theorem perform_writes_instruction {bus : Bus MemoryLine}
    (room : bus.HasRoom size) (discards : bus.line.failures.discard = none)
    (writes : bus.line.failures.write = none) {packet : Packet}
    (instructs : operation.Instructs size packet) :
    HasWritten (bus.line.written ++ [packet.encode])
      ((perform (MemoryLine.link discipline) operation).run bus).state := by
  obtain ⟨motorId, tells, _⟩ := instructs.tells
  obtain ⟨request, asks, _⟩ := tells.asked_eq
  have made := (Operation.instructs_iff asks).1 instructs
  rw [← show bus.writeBuffer.length = size from room] at made
  have sent :=
    writePacket_writes discipline (Operation.asked_fills_image asks) made
      discards writes
  rw [perform_eq _ asks, Act.ofExcept_ok, pure_bind]
  refine Act.run_bind_keeps sent fun _ => ?_
  by_cases awaits : operation.awaitsReply = true
  · rw [if_pos awaits]
    refine (readResponse_keeps_written _ _ _ _).bind fun response => ?_
    exact (Act.keeps_ofExcept _).bind fun _ => Act.keeps_pure _
  · rw [if_neg awaits]
    exact Act.keeps_pure none

/-- Without an instruction to send only the write buffer is touched. -/
theorem perform_without_instruction {σ : Type} (link : Link σ) {bus : Bus σ}
    (room : bus.HasRoom size) (asks : operation.asked.isSome)
    (nothing : ∀ packet, ¬ operation.Instructs size packet) :
    ∃ fault left, (perform link operation).run bus =
      ⟨.error fault, { bus with writeBuffer := left }, []⟩ := by
  obtain ⟨⟨motorId, asked⟩, asks⟩ := Option.isSome_iff_exists.1 asks
  rw [perform_eq link asks]
  cases asked with
  | error fault => exact ⟨fault, bus.writeBuffer, rfl⟩
  | ok request =>
      have fills := Operation.asked_fills_image asks
      cases made : request.packet size motorId operation.image with
      | ok packet =>
          exact absurd ((Operation.instructs_iff asks).2 made)
            (nothing packet)
      | error fault =>
          rw [← show bus.writeBuffer.length = size from room] at made
          obtain ⟨left, _, run⟩ := writePacket_error link fills made
          refine ⟨fault, left, ?_⟩
          rw [Act.ofExcept_ok, pure_bind, Act.run_bind, run]
          rfl

variable {discipline}

/-- A bus with room for instructions of eight bytes. -/
def narrow : Bus MemoryLine where
  line := MemoryLine.create (.integer 57600) .nothing []
  reader := ⟨List.replicate 6 0, 0, 0, 0⟩
  writeBuffer := [0xFF, 0xFF, 0, 0, 0, 0, 0, 0]
  baudRate := .integer 57600
  timeoutMargin := .real .zero

end Bus

end ActuatorBus
