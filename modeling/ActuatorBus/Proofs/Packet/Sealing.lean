import ActuatorBus.Packet.Basic

/-!
# Seals

The bytes of a packet after its header add up to `255` modulo `256`. A byte
that is replaced by another one changes this sum, and a header byte that is
replaced is none, so that no packet is left.
-/

namespace ActuatorBus

namespace Bytes

theorem total_append (first second : Bytes) :
    total (first ++ second) = total first + total second := by
  induction first with
  | nil => simp [total]
  | cons b rest inductionHypothesis =>
      simp only [List.cons_append, total, inductionHypothesis]
      omega

variable {bytes : Bytes} {position : Nat} {old : UInt8}

theorem total_set (byte : UInt8) (found : bytes[position]? = some old) :
    total (bytes.set position byte) + old.toNat =
      total bytes + byte.toNat := by
  induction bytes generalizing position with
  | nil => cases found
  | cons b rest inductionHypothesis =>
      cases position with
      | zero =>
          cases found
          simp only [List.set_cons_zero, total]
          omega
      | succ position =>
          have restTotal := inductionHypothesis found
          simp only [List.set_cons_succ, total]
          omega

theorem eq_of_total_set {byte : UInt8} (found : bytes[position]? = some old)
    (same : total (bytes.set position byte) % 256 = total bytes % 256) :
    byte = old := by
  have sums := total_set byte found
  have small := byte.toNat_lt
  have oldSmall := old.toNat_lt
  apply UInt8.toNat_inj.1
  omega

end Bytes

namespace Packet

theorem eq_checksum_iff (body : Bytes) (byte : UInt8) :
    byte = checksum body ↔ (Bytes.total body + byte.toNat) % 256 = 255 := by
  have small := byte.toNat_lt
  rw [← UInt8.toNat_inj, checksum, UInt8.toNat_ofNat']
  omega

theorem total_checked (body : Bytes) :
    Bytes.total (body ++ [checksum body]) % 256 = 255 := by
  rw [Bytes.total_append]
  exact (eq_checksum_iff body (checksum body)).1 rfl

/-- Bytes with a header at their front and its checksum at their end. -/
def Sealed (bytes : Bytes) : Prop :=
  ∃ body, bytes = headerByte :: headerByte :: (body ++ [checksum body])

theorem sealed_encode (packet : Packet) : Sealed packet.encode :=
  ⟨packet.body, rfl⟩

/-- A seal does not survive that one byte is replaced by another. -/
theorem Sealed.eq_of_set {bytes : Bytes} {position : Nat} {byte old : UInt8}
    (whole : Sealed bytes) (found : bytes[position]? = some old)
    (again : Sealed (bytes.set position byte)) : byte = old := by
  obtain ⟨body, rfl⟩ := whole
  obtain ⟨other, replaced⟩ := again
  match position with
  | 0 =>
      cases found
      exact (List.cons.inj replaced).1
  | 1 =>
      cases found
      exact (List.cons.inj (List.cons.inj replaced).2).1
  | position + 2 =>
      have tail :
          (body ++ [checksum body]).set position byte =
            other ++ [checksum other] :=
        (List.cons.inj (List.cons.inj replaced).2).2
      have among : (body ++ [checksum body])[position]? = some old := found
      apply Bytes.eq_of_total_set among
      rw [tail, total_checked, total_checked]

end Packet

end ActuatorBus
