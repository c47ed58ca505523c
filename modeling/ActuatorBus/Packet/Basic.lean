import ActuatorBus.Fault

/-!
# Packets

A packet is a header of two bytes `FF`, the id of a motor, a length byte, a
code, the parameters and a checksum. The length counts the code, the
parameters and the checksum. In an instruction the code says what to do; in a
status packet it holds the error flags.
-/

namespace ActuatorBus

/-- The id that every motor listens to and none answers. -/
def broadcastId : Int := 0xFE

/-- What a packet carries. -/
structure Packet where
  motorId : UInt8
  code : UInt8
  parameters : Bytes
deriving DecidableEq, Repr

namespace Packet

def headerByte : UInt8 := 0xFF

def idPosition : Nat := 2

def lengthPosition : Nat := 3

def codePosition : Nat := 4

/-- The bytes up to and including the length byte. -/
def headerSize : Nat := 4

def parametersPosition : Nat := 5

/-- The bytes of a packet without parameters. -/
def minimumSize : Nat := 6

/-- The greatest value of the length byte. -/
def maximumLength : Int := 0xFF

/-- The bytes of a packet with the given number of parameters. -/
def size (parameterCount : Int) : Int := minimumSize + parameterCount

/-- The checksum of numbers: what makes their sum `255` modulo `256`. -/
def checksumOf (values : List Int) : Int :=
  255 - values.foldr (· + ·) 0 % 256

/-- The checksum of bytes: what makes their sum `255` modulo `256`. -/
def checksum (bytes : Bytes) : UInt8 :=
  UInt8.ofNat (255 - Bytes.total bytes % 256)

/-- The bytes between the header and the checksum. -/
def body (packet : Packet) : Bytes :=
  packet.motorId :: UInt8.ofNat (packet.parameters.length + 2) ::
    packet.code :: packet.parameters

/-- The bytes of a packet on the line. -/
def encode (packet : Packet) : Bytes :=
  headerByte :: headerByte :: (packet.body ++ [checksum packet.body])

theorem length_encode (packet : Packet) :
    packet.encode.length = packet.parameters.length + minimumSize := by
  simp [encode, body, minimumSize]

theorem checksum_toNat (bytes : Bytes) :
    ((checksum bytes).toNat : Int) =
      checksumOf (bytes.map fun b => (b.toNat : Int)) := by
  have sums :
      (bytes.map fun b => (b.toNat : Int)).foldr (· + ·) 0 =
        (Bytes.total bytes : Int) := by
    induction bytes with
    | nil => rfl
    | cons b rest sumOfRest =>
        simp only [List.map_cons, List.foldr_cons, sumOfRest, Bytes.total]
        omega
  simp only [checksum, checksumOf, sums, UInt8.toNat_ofNat']
  omega

/-- The position of the first byte that may begin a header: two header bytes,
or one at the very end. Without one it is the length. -/
def headerPosition : Bytes → Nat
  | [] => 0
  | [b] => if b = headerByte then 0 else 1
  | b :: c :: rest =>
    if b = headerByte ∧ c = headerByte then 0
    else headerPosition (c :: rest) + 1

theorem headerPosition_le (bytes : Bytes) :
    headerPosition bytes ≤ bytes.length := by
  fun_induction headerPosition bytes <;> simp_all

end Packet

end ActuatorBus
