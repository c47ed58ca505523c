import ActuatorBus.Decimal.Numeral
import ActuatorBus.ErrorFlags
import ActuatorBus.Instruction
import ActuatorBus.Report

/-!
# Faults

Why an action stopped. The constructors are the causes; `Fault.message?` words
them. A fault that only says that an index, a length or a conversion was out
of its domain has no words of its own.
-/

namespace ActuatorBus

/-- Why an action stopped. The texts and numbers are what the words of the
fault are about. -/
inductive Fault where
  /-- A fault of the bus, in words. -/
  | general (text : String)
  /-- A message that is not valid, in words. -/
  | invalidMessage (text : String)
  /-- A register without a write instruction, in words. -/
  | readOnlyRegister (text : String)
  /-- A message is larger than the buffer for it. -/
  | bufferTooSmall (required total : Int)
  /-- The line failed at a stage of an exchange. -/
  | line (stage : Stage) (error : DeviceError)
  | invalidChecksum (received computed : Int)
  /-- A packet comes from another motor. -/
  | invalidPacketId (actual : Int) (expected : Option Int)
  /-- A packet has not as many parameters as it should. -/
  | invalidParameterCount (actual : Int) (expected : ExpectedCount)
  /-- The motor reported an error instead of a valid response. -/
  | motorError (flags : ErrorFlags)
  /-- A fault of the bus, made from values of any kind. -/
  | reported (report : Report)
  /-- A failure of a device that no stage of an exchange accounts for. -/
  | device (error : DeviceError)
  /-- Nobody knows where the devices of the platform are. -/
  | unknownPlatform (platform : String)
  /-- No device fits one of the patterns. -/
  | noDevice (patterns : List String)
  /-- No device fits one of the patterns, and they cannot be listed because the
  one at a position is of another kind. -/
  | patternKind (position : Nat) (kind : String)
  /-- The length byte cannot count so many parameters. -/
  | tooManyParameters (count : Value)
  /-- More bytes were counted as received than there is room for. -/
  | invalidReadCount (count : Value)
  /-- More bytes were to be dropped than are buffered. -/
  | overconsumed (count : Value) (buffered : Int)
  /-- Bytes were left that were handed out, though all of them were dropped. -/
  | undropped
  /-- An integer register was given a number that is none. -/
  | notAnInteger (register : String) (value : Value)
  /-- An integer register was given an integer it has no room for. -/
  | outOfRange (register : String) (value least greatest : Int)
  /-- A register was to hold something that is no number. -/
  | unsupportedFormat (register spelling : String)
  /-- A register was to be wider than registers are. -/
  | unsupportedWidth (register : String) (width : Nat)
  /-- A register was to send its high byte first. -/
  | bigEndian (register : String)
  /-- A register of one address space was to be in a table of the other, or of
  none. -/
  | foreignSpace (register : String) (own : AddressSpace)
    (table : Option AddressSpace)
  /-- The address of a register is no byte. -/
  | addressTooLarge (register : String) (address : Value)
  | duplicateName (register : String)
  | duplicateAddress (address : Value)
  /-- A register is too narrow for a multiple write. -/
  | entryWidth (register : String) (width : Nat)
  | noRegisters
  /-- Some registers of a table have an address, and some have none. -/
  | someAddressesMissing
  | unknownRegister (name : String)
  | unknownAddress (address : Value)
  /-- A setup has no values under some keys. -/
  | unknownSetupKeys (keys : List String)
  /-- A table was indexed by something that is neither a name nor an integer,
  in words. -/
  | unusableKey (key : String)
  /-- A reply was expected from all motors at once. -/
  | broadcastReply
  | noEntries
  /-- A multiple write was to write registers of both address spaces. -/
  | mixedSpaces
  /-- A line that implements none of its operations was used. -/
  | unimplemented
  /-- A value outside `0 .. 255` was to be stored in a byte. -/
  | notAByte
  /-- Bytes were to be stored where there is room for another number of
  them. -/
  | lengthMismatch
  | unknownInstruction (code : UInt8)
  /-- A byte or an entry was asked for at a place where there is none. -/
  | indexOutOfRange
  /-- A table has no entry under a key. -/
  | missingKey
  /-- A time was to be computed for a baud rate of zero. -/
  | divisionByZero
  /-- An integer is too large for a double, or for the size of a buffer. -/
  | overflow
  | notANumber
  | negativeSize
  /-- A buffer was to be larger than there is memory for. -/
  | outOfMemory
  /-- A number in the words of a fault has more digits than are written
  out. -/
  | unwritable
  /-- A value is not of the kind that its use needs. -/
  | unsuitable
  /-- A bus was to be opened with an option that it does not have, or with one
  that was given already. -/
  | unexpectedOption
  /-- The data of a response was asked for before the response was there. -/
  | pendingResponse
  /-- A read-only register without an address space was to be written. -/
  | spaceless
  /-- Something was asked of a register, of its space or of a line where there
  is none. -/
  | unassigned
  /-- A number format is not spelled as one. -/
  | unreadableFormat
  /-- How often a format is repeated is not spelled as a count. -/
  | malformedRepeat
  /-- The parts of a format do not go together. -/
  | inconsistentFormat
  /-- A line neither failed nor delivered within the patience of the bus. -/
  | stalled
deriving DecidableEq, Repr

namespace Fault

def readOnly (space : AddressSpace) (register : Value) : Fault :=
  readOnlyRegister
    (space.label ++ " register " ++ register.representation ++
      " is read-only")

/-- The report that a fault of the bus comes to, where one has its parts. -/
def report? : Fault → Option Report
  | bufferTooSmall required total =>
    some (.bufferTooSmall (.integer required) (.integer total))
  | line stage error => some (.line stage (.failure error))
  | invalidChecksum received computed =>
    some (.checksum (.number received) (.number computed))
  | invalidPacketId actual expected =>
    some (.packetId (.number actual) (expected.map .number))
  | invalidParameterCount actual expected =>
    some (.parameterCount (.integer actual)
      (.requirement expected.requirement))
  | reported report => some report
  | _ => none

/-- The words of a fault, if it has any: those of its report where there is
one. -/
def message? : Fault → Option String
  | general text => text
  | invalidMessage text => text
  | readOnlyRegister text => text
  | motorError flags => "motor reported an error: " ++ flags.text
  | device error => error.text
  | unknownPlatform platform =>
    "Unrecognized platform " ++ platform ++
      ", a port must be given explicitly"
  | noDevice patterns =>
    "No serial device found matching " ++ String.intercalate ", " patterns
  | patternKind position kind =>
    "sequence item " ++ toString position ++
      ": expected str instance, " ++ kind ++ " found"
  | tooManyParameters count =>
    "too many parameters for one packet: " ++ count.text
  | invalidReadCount count => "invalid read count " ++ count.text
  | overconsumed count buffered =>
    "(" ++ count.text ++ ", " ++ toString buffered ++ ")"
  | notAnInteger register value =>
    register ++ ": " ++ value.text ++ " is not an integer"
  | outOfRange register value least greatest =>
    register ++ ": " ++ toString value ++ " is out of range [" ++
      toString least ++ ", " ++ toString greatest ++ "]"
  | unsupportedFormat register spelling =>
    register ++ ": unsupported register type " ++ spelling
  | unsupportedWidth register width =>
    register ++ ": register width must be 1, 2 or 4 bytes, got " ++
      toString width
  | bigEndian register => register ++ ": registers are little-endian"
  | foreignSpace register own table =>
    register ++ " belongs to " ++ own.qualifiedLabel ++ ", not " ++
      AddressSpace.qualifiedLabelOf table
  | addressTooLarge register address =>
    register ++ ": address " ++ address.text ++ " does not fit in one byte"
  | duplicateName register => "duplicate register name " ++ register
  | duplicateAddress address =>
    "duplicate register address " ++ address.text
  | entryWidth register width =>
    register ++ ": multi-write entries carry 4 byte values, register is " ++
      toString width ++ " bytes"
  | noRegisters => "Empty register seq"
  | someAddressesMissing => "Some-but-not-all offsets assigned"
  | unknownRegister name => name ++ " is not a valid register name"
  | unknownAddress address => address.text
  | unknownSetupKeys keys =>
    "unknown setup keys: " ++ String.intercalate ", " keys
  | unusableKey key => key
  | broadcastReply => "cannot read a reply from the broadcast id"
  | noEntries => "multi_write needs at least one entry"
  | mixedSpaces =>
    "multi_write entries must all be config or all be status registers"
  | unimplemented => ""
  | spaceless => "\x27NoneType\x27 object has no attribute \x27value\x27"
  | fault => fault.report?.map Report.text

/-- The fault that is told for a fault. A buffer size of too many digits keeps
the words about it from being written. -/
def told : Fault → Fault
  | bufferTooSmall required total =>
    if Numeral.isWritable required then bufferTooSmall required total
    else unwritable
  | fault => fault

end Fault

/-- The whole number next to a number on the side of zero. -/
def Number.truncate : Number → Except Fault Int
  | integer n => .ok n
  | real x =>
    match x.truncate? with
    | some n => .ok n
    | none => .error (if x.isNaN then .notANumber else .overflow)

/-- The double nearest to a number, which must not be too large for one. -/
def Number.toDouble (number : Number) : Except Fault Double :=
  match number.toDouble? with
  | some x => .ok x
  | none => .error .overflow

/-- Refuses flags with an error among them. -/
def ErrorFlags.check (flags : ErrorFlags) : Except Fault Unit :=
  if flags.errors.isEmpty then .ok () else .error (.motorError flags)

/-- Refuses a message or buffer size beyond the total. -/
def checkBufferSize (required total : Int) : Except Fault Unit :=
  if required ≤ total then .ok ()
  else .error (.bufferTooSmall required total)

/-- Refuses the id of another motor. -/
def checkPacketId (actual expected : Int) : Except Fault Unit :=
  if actual = expected then .ok ()
  else .error (.invalidPacketId actual expected)

/-- Refuses a number of parameters that was not expected. -/
def ExpectedCount.check (expected : ExpectedCount) (actual : Int) :
    Except Fault Unit :=
  if expected.admits actual then .ok ()
  else .error (.invalidParameterCount actual expected)

end ActuatorBus
