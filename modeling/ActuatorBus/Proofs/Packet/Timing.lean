import ActuatorBus.Packet.Timing
import ActuatorBus.Proofs.Binary.Rounding
import ActuatorBus.Proofs.Results

/-!
# Times of transfers

There is a time for every message at every positive baud rate, given as an
integer or as a double.
-/

namespace ActuatorBus

theorem Double.same_zero_of_positive {x : Double}
    (positive : (Number.integer 0).lt (.real x) = true) :
    x.same .zero = false := by
  have rankEq : x.rank = 0 → x.magnitude = 0 := by
    intro none
    unfold Double.rank at none
    split at none <;> omega
  have zeroRank : Double.zero.rank = 0 := by decide
  by_cases none : x.rank = 0
  · have magnitudeEq := rankEq none
    have isFinite : x.isFinite = true := by
      show decide (x.magnitude < BinaryFormat.double.infinityWord) = true
      rw [magnitudeEq]
      decide
    have unitsEq : x.units = 0 := by
      rw [Double.units, magnitudeEq]
      cases x.isNegative <;> rfl
    simp only [Number.lt, isFinite, if_true, unitsEq, Int.zero_mul] at positive
    exact absurd positive (by decide)
  · simp [Double.same, zeroRank, none]

theorem Number.toDouble_integer {n : Int}
    (fits : n.natAbs < 0x20000000000000) :
    ∃ x, (Number.integer n).toDouble = .ok x := by
  obtain ⟨x, nearest, _⟩ := Double.ofInt?_exact fits
  exact ⟨x, by rw [Number.toDouble, Number.toDouble?, nearest]⟩

namespace Packet

variable {size : Int}

theorem natAbs_negatedLoad (nonneg : 0 ≤ size)
    (small : size ≤ headerSize + maximumLength) :
    (negatedLoad size).natAbs < 0x20000000000000 := by
  simp only [headerSize, maximumLength] at small
  simp only [negatedLoad, bitsPerByte, nanosPerSecond]
  omega

theorem natAbs_transferNanos (size : Int) {rate : Int}
    (positive : 0 < rate) :
    (transferNanos size rate).natAbs ≤ (negatedLoad size).natAbs := by
  rw [transferNanos, Int.natAbs_neg,
    Int.fdiv_eq_ediv_of_nonneg _ (Int.le_of_lt positive)]
  exact Int.natAbs_ediv_le_natAbs _ _

/-- There is a time for a message of every size that a length byte can count. -/
theorem transferTime_ok (nonneg : 0 ≤ size)
    (small : size ≤ headerSize + maximumLength) {rate : Number}
    (positive : (Number.integer 0).lt rate = true) :
    ∃ seconds, transferTime (.integer size) rate = .ok seconds := by
  have bound := natAbs_negatedLoad nonneg small
  cases rate with
  | integer rate =>
      have ratePositive : 0 < rate := by simpa [Number.lt] using positive
      have nanosBound := natAbs_transferNanos size ratePositive
      obtain ⟨nanos, nanosEq⟩ :=
        Number.toDouble_integer (Nat.lt_of_le_of_lt nanosBound bound)
      refine ⟨nanos.div nanosPerSecondDouble, ?_⟩
      have nonzero : rate ≠ 0 := by omega
      simp [transferTime, nonzero, nanosEq]
  | real rate =>
      obtain ⟨load, loadEq⟩ := Number.toDouble_integer bound
      have nonzero := Double.same_zero_of_positive positive
      have rateEq : (Number.real rate).toDouble = .ok rate := rfl
      refine ⟨((load.floorDiv rate).neg).div nanosPerSecondDouble, ?_⟩
      simp [transferTime, negatedLoadDouble, loadEq, rateEq, nonzero]

end Packet

end ActuatorBus
