import ActuatorBus.Act
import ActuatorBus.Register.Codec

/-!
# Responses

What a status packet says: which motor answers, its warnings, and the
parameters, as raw bytes or as the value of a register.
-/

namespace ActuatorBus

inductive Payload where
  | raw (bytes : Bytes)
  | value (given : Value)
deriving DecidableEq, Repr

namespace Payload

def text : Payload → String
  | raw bytes => Text.quotedBytes bytes
  | value given => given.text

def representation : Payload → String
  | raw bytes => Text.quotedBytes bytes
  | value given => given.representation

/-- Whether two payloads are the same bytes or the same value. -/
def same : Payload → Payload → Bool
  | raw first, raw second => first == second
  | value first, value second => first.same second
  | _, _ => false

end Payload

/-- A status packet that came back from a motor. -/
structure Response where
  motorId : Int
  /-- The warnings, if there are any. -/
  warning : Option ErrorFlags
  data : Payload
deriving DecidableEq, Repr

namespace Response

/-- The response of a packet without its checksum. Undefined error bits leave
a note. A packet of another motor is refused before the errors of its motor
are looked at; without an expected id every packet will do. -/
def ofPacket {σ : Type} (packet : Bytes) (expectedId : Value) :
    Act σ Response :=
  match packet[Packet.idPosition]?, packet[Packet.codePosition]? with
  | some motorId, some error => do
    if ErrorFlags.definedMask < error.toNat then
      Act.note (.undefinedErrorBits motorId error)
    match expectedId with
    | .nothing => pure ()
    | expected =>
      Act.ofExcept (checkSameId (.integer motorId.toNat) expected)
    let flags := (ErrorFlags.mk error.toNat).known
    Act.ofExcept flags.check
    return {
      motorId := motorId.toNat
      warning := if flags.warnings.isEmpty then none else flags.warnings
      data := .raw (packet.drop Packet.parametersPosition) }
  | _, _ => Act.fail .indexOutOfRange

/-- The response with the value of a register in the place of its bytes. -/
def decode (response : Response) (register : Register) :
    Except Fault Response :=
  match response.data with
  | .raw bytes => do
    return { response with data := .value (.number (← register.decode bytes)) }
  | .value _ => return response

/-- A response as it may be made up: the motor can be a value of any kind. -/
structure Draft where
  motorId : Value
  /-- The warnings, if there are any. -/
  warning : Option ErrorFlags
  data : Payload
deriving DecidableEq, Repr

namespace Draft

/-- Whether two responses are equal; numbers count by their value. -/
def same (first second : Draft) : Bool :=
  first.motorId.same second.motorId && first.warning == second.warning &&
    first.data.same second.data

/-- A response in words. The motor must be a number for them. -/
def text (response : Draft) : Except Fault String := do
  let flags :=
    match response.warning with
    | some warning => if warning.isEmpty then "\"ok\"" else warning.text
    | none => "\"ok\""
  return "Response\x7b" ++ (← response.motorId.decimal) ++ ", " ++ flags ++
    ", data=" ++ response.data.text ++ "\x7d"

def representation (response : Draft) : String :=
  let warning :=
    match response.warning with
    | some warning => warning.representation
    | none => "None"
  "Response(motor_id=" ++ response.motorId.text ++ ", warning=" ++ warning ++
    ", data=" ++ response.data.representation ++ ")"

end Draft

end Response

end ActuatorBus
