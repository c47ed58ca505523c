import ActuatorBus.Line.Link
import ActuatorBus.Number
import ActuatorBus.Packet.Timing
import ActuatorBus.Packet.Writer
import ActuatorBus.Reader

/-!
# The bus

A bus joins a line, a packet reader for what arrives and a buffer for what is
sent. The buffer is never cleared: what an instruction does not overwrite
stays from earlier ones.
-/

namespace ActuatorBus

structure Bus (σ : Type) where
  line : σ
  reader : Reader
  writeBuffer : Bytes
  /-- The baud rate that deadlines are computed with. -/
  baudRate : Value
  /-- The seconds that are added to every deadline. -/
  timeoutMargin : Value
deriving Repr

structure BusOptions where
  readBufferSize : Value
  writeBufferSize : Value
  /-- The baud rate of the line; without one the line is asked. -/
  baudRate : Value
  timeoutMargin : Value
deriving DecidableEq, Repr

namespace BusOptions

/-- Buffers of 128 bytes and a margin of a millisecond. -/
def default : BusOptions where
  readBufferSize := .integer 128
  writeBufferSize := .integer 128
  baudRate := .nothing
  timeoutMargin := .real ⟨0x3f50624dd2f1a9fc⟩

def put (options : BusOptions) (key : String) (value : Value) :
    Except Fault BusOptions :=
  if key == "read_buffer_size" then
    .ok { options with readBufferSize := value }
  else if key == "write_buffer_size" then
    .ok { options with writeBufferSize := value }
  else if key == "baud_rate" then .ok { options with baudRate := value }
  else if key == "timeout_margin" then
    .ok { options with timeoutMargin := value }
  else .error .unexpectedOption

/-- The options with some of them given by name. -/
def ofSettings (settings : List (String × Value)) :
    Except Fault BusOptions :=
  settings.foldlM (fun options setting => options.put setting.1 setting.2)
    default

end BusOptions

def Discipline.busName : Discipline → String
  | blocking => "Bus"
  | suspending => "AsyncBus"

namespace Bus

variable {σ α : Type}

/-- A bus over an open line. Both sizes are checked before a buffer is
made. -/
def start (link : Link σ) (line : σ) (options : BusOptions) :
    Except Fault (Bus σ) := do
  checkRoom (.integer (Packet.headerSize + 3)) options.writeBufferSize
  let reader ← Reader.ofSize options.readBufferSize
  let buffer ← Bytes.allocate options.writeBufferSize
  return {
    line
    reader
    writeBuffer := Packet.headerByte :: Packet.headerByte :: buffer.drop 2
    baudRate :=
      match options.baudRate with
      | .nothing => link.baudRate line
      | baudRate => baudRate
    timeoutMargin := options.timeoutMargin }

def onLine (action : Act σ α) : Act (Bus σ) α :=
  Act.on Bus.line (fun line bus => { bus with line }) action

def onReader (action : Act Reader α) : Act (Bus σ) α :=
  Act.on Bus.reader (fun reader bus => { bus with reader }) action

def onWriteBuffer (action : Act Bytes α) : Act (Bus σ) α :=
  Act.on Bus.writeBuffer
    (fun writeBuffer bus => { bus with writeBuffer }) action

def text (bus : Bus σ) (discipline : Discipline) : String :=
  discipline.busName ++ "(port=<port>, baud_rate=" ++
    bus.baudRate.text ++ ")"

def setBaudRate (link : Link σ) (baudRate : Value) : Act (Bus σ) Unit := do
  Act.modify fun bus =>
    { bus with line := link.setBaudRate baudRate bus.line, baudRate }
  Act.note (.baudRateSet baudRate)

def close (link : Link σ) : Act (Bus σ) Unit := onLine link.close

/-- The seconds that a reply with the given number of parameters may take. -/
def responseTimeout (bus : Bus σ) (expected : Value) :
    Except Fault Double := do
  let size ← Packet.sizeOf expected
  let baudRate ← bus.baudRate.needNumber
  let transfer ← Packet.transferTime size baudRate
  let margin ← bus.timeoutMargin.needNumber
  return transfer.add (← margin.toDouble)

end Bus

end ActuatorBus
