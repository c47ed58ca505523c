/-!
# Bytes on the line

A byte string is a list of bytes. Multi-byte values travel with their low
byte first.
-/

namespace ActuatorBus

/-- A byte string, in the order in which it travels. -/
abbrev Bytes := List UInt8

namespace Bytes

/-- The byte with the value `v`, if `v` lies in `0 .. 255`. -/
def ofInt? (v : Int) : Option UInt8 :=
  if 0 ≤ v ∧ v ≤ 255 then some (UInt8.ofNat v.toNat) else none

/-- The low `width` bytes of `n`, low byte first. -/
def ofNat : (width n : Nat) → Bytes
  | 0, _ => []
  | width + 1, n => UInt8.ofNat n :: ofNat width (n / 256)

/-- The value of a byte string whose low byte comes first. -/
def toNat : Bytes → Nat
  | [] => 0
  | b :: rest => b.toNat + 256 * toNat rest

def total : Bytes → Nat
  | [] => 0
  | b :: rest => b.toNat + total rest

/-- Bytes `start` up to, but not including, `stop`. -/
def slice (start stop : Nat) (bytes : Bytes) : Bytes :=
  (bytes.take stop).drop start

/-- `bytes` with the bytes from `start` on replaced by `piece`, which is cut
off at the end of `bytes`. -/
def overwrite (bytes : Bytes) (start : Nat) (piece : Bytes) : Bytes :=
  bytes.take start ++
    (piece.take (bytes.length - start) ++
      bytes.drop (start + piece.length))

@[simp] theorem length_ofNat (width n : Nat) :
    (ofNat width n).length = width := by
  induction width generalizing n with
  | zero => rfl
  | succ width inductive_length =>
      simp [ofNat, inductive_length]

theorem toNat_ofNat (width n : Nat) :
    toNat (ofNat width n) = n % Nat.pow 256 width := by
  induction width generalizing n with
  | zero => simp [ofNat, toNat, Nat.mod_one]
  | succ width lowBytes =>
      have lowByte : (UInt8.ofNat n).toNat = n % 256 := by simp
      have power : Nat.pow 256 (width + 1) = 256 * Nat.pow 256 width :=
        Nat.mul_comm _ _
      rw [ofNat, toNat, lowByte, lowBytes, power, Nat.mod_mul]

theorem toNat_lt (bytes : Bytes) :
    toNat bytes < Nat.pow 256 bytes.length := by
  induction bytes with
  | nil => simp [toNat]
  | cons b rest bound =>
      have low := b.toNat_lt
      have power : Nat.pow 256 (b :: rest).length =
          256 * Nat.pow 256 rest.length :=
        Nat.mul_comm _ _
      rw [toNat, power]
      omega

theorem ofNat_toNat (bytes : Bytes) :
    ofNat bytes.length (toNat bytes) = bytes := by
  induction bytes with
  | nil => rfl
  | cons b rest restBytes =>
      have low := b.toNat_lt
      have quotient : (b.toNat + 256 * toNat rest) / 256 = toNat rest := by
        omega
      simp only [List.length_cons, ofNat, toNat, quotient, restBytes]
      congr 1
      apply UInt8.toNat_inj.1
      simp only [UInt8.toNat_ofNat']
      omega

end Bytes

end ActuatorBus
