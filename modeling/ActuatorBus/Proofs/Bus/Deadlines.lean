import ActuatorBus.Bus.Basic
import ActuatorBus.Proofs.Binary.Order
import ActuatorBus.Proofs.Packet.Timing
import Mathlib.Order.Bounds.Basic

/-!
# The order of deadlines

The time of a message is rounded up to whole nanoseconds. It grows with the
message and with the time of a bit, and so does the time that a bus waits for
a reply: neither the double nearest to the nanoseconds, nor the quotient in
seconds, nor the sum with the margin is ever out of order.
-/

namespace ActuatorBus

theorem Number.ofInt?_of_toDouble {n : Int} {x : Double}
    (nearest : (Number.integer n).toDouble = .ok x) :
    Double.ofInt? n = some x := by
  rw [toDouble, toDouble?] at nearest
  cases made : Double.ofInt? n with
  | none =>
      rw [made] at nearest
      cases nearest
  | some y =>
      rw [made] at nearest
      cases nearest
      rfl

namespace Packet

variable {size size' rate rate' : Int} {seconds seconds' : Double}

/-- A time is the least number of nanoseconds in which the bits of a message
can be sent. -/
theorem transferNanos_isLeast (size : Int) (positive : 0 < rate) :
    IsLeast {n : Int | size * 10 * 1000000000 ≤ n * rate}
      (transferNanos size rate) := by
  have nanosEq : transferNanos size rate =
      -(-(size * 10 * 1000000000) / rate) := by
    rw [transferNanos, negatedLoad, bitsPerByte, nanosPerSecond,
      Int.fdiv_eq_ediv_of_nonneg _ positive.le, Int.neg_mul]
  rw [nanosEq]
  constructor
  · have below := Int.ediv_mul_le (-(size * 10 * 1000000000)) positive.ne'
    show _ ≤ _ * rate
    rw [Int.neg_mul]
    omega
  · intro n enough
    have within : -n * rate ≤ -(size * 10 * 1000000000) := by
      rw [Int.neg_mul]
      exact Int.neg_le_neg enough
    have quotient := (Int.le_ediv_iff_mul_le positive).2 within
    omega

/-- A longer message takes longer, and also on a slower line. -/
theorem transferNanos_mono (nonneg : 0 ≤ size) (longer : size ≤ size')
    (positive : 0 < rate') (slower : rate' ≤ rate) :
    transferNanos size rate ≤ transferNanos size' rate' := by
  obtain ⟨enough, _⟩ := transferNanos_isLeast size' positive
  have least := (transferNanos_isLeast size
    (Int.lt_of_lt_of_le positive slower)).2
  generalize transferNanos size' rate' = nanos at enough ⊢
  have load : 0 ≤ nanos * rate' :=
    Int.le_trans (by omega) enough
  have nanosNonneg : 0 ≤ nanos := nonneg_of_mul_nonneg_left load positive
  apply least
  show size * 10 * 1000000000 ≤ nanos * rate
  calc size * 10 * 1000000000
      ≤ size' * 10 * 1000000000 := by omega
    _ ≤ nanos * rate' := enough
    _ ≤ nanos * rate := Int.mul_le_mul_of_nonneg_left slower nanosNonneg

theorem transferTime_eq (size : Int) (positive : 0 < rate) :
    transferTime (.integer size) (.integer rate) = do
      let nanos ← (Number.integer (transferNanos size rate)).toDouble
      return nanos.div nanosPerSecondDouble := by
  have nonzero : rate ≠ 0 := positive.ne'
  simp [transferTime, nonzero]

/-- What a time in seconds is made of. -/
theorem exists_nanos (positive : 0 < rate)
    (made : transferTime (.integer size) (.integer rate) = .ok seconds) :
    ∃ nanos, Double.ofInt? (transferNanos size rate) = some nanos ∧
      seconds = nanos.div nanosPerSecondDouble := by
  rw [transferTime_eq size positive] at made
  obtain ⟨nanos, nearest, returned⟩ := bind_eq_ok_iff.1 made
  cases returned
  exact ⟨nanos, Number.ofInt?_of_toDouble nearest, rfl⟩

theorem value?_nanosPerSecond :
    nanosPerSecondDouble.value? = some 1000000000 := by
  have whole : nanosPerSecondDouble.toInt? = some 1000000000 := by
    decide +kernel
  have value := (Double.toInt?_eq_some_iff _ _).1 whole
  rw [value]
  norm_num

/-- A time in seconds is finite: there is a double next to the nanoseconds. -/
theorem isFinite_transferTime (positive : 0 < rate)
    (made : transferTime (.integer size) (.integer rate) = .ok seconds) :
    seconds.isFinite = true := by
  obtain ⟨nanos, nearest, rfl⟩ := exists_nanos positive made
  exact Double.isFinite_div
    (Double.value?_of_finite (Double.isFinite_of_ofInt? nearest))
    value?_nanosPerSecond (by norm_num)

/-- The order of the nanoseconds is the order of the seconds, whatever is
rounded on the way. -/
theorem transferTime_mono (nonneg : 0 ≤ size) (longer : size ≤ size')
    (positive : 0 < rate') (slower : rate' ≤ rate)
    (made : transferTime (.integer size) (.integer rate) = .ok seconds)
    (made' : transferTime (.integer size') (.integer rate') = .ok seconds') :
    seconds.le seconds' = true := by
  have positiveRate : 0 < rate := Int.lt_of_lt_of_le positive slower
  obtain ⟨nanos, nearest, rfl⟩ := exists_nanos positiveRate made
  obtain ⟨nanos', nearest', rfl⟩ := exists_nanos positive made'
  have order : ((transferNanos size rate : Int) : ℚ) ≤
      (transferNanos size' rate' : Int) :=
    Int.cast_le.2 (transferNanos_mono nonneg longer positive slower)
  have ranks := Double.Rounds.rank_le order (Double.rounds_ofInt? nearest)
    (Double.rounds_ofInt? nearest')
  have value := Double.value?_of_finite (Double.isFinite_of_ofInt? nearest)
  have value' := Double.value?_of_finite (Double.isFinite_of_ofInt? nearest')
  have values := Double.value_le_of_rank_le ranks value value'
  have second : (0 : ℚ) < 1000000000 := by norm_num
  exact Double.Rounds.le (div_le_div_of_nonneg_right values second.le)
    (Double.rounds_div value value?_nanosPerSecond second)
    (Double.rounds_div value' value?_nanosPerSecond second)

end Packet

namespace Bus

variable {σ : Type}

/-- What the time for a reply is made of. -/
theorem exists_seconds {bus : Bus σ} {count rate : Int} {timeout : Double}
    (rateEq : bus.baudRate = .integer rate)
    (made : bus.responseTimeout (.integer count) = .ok timeout) :
    ∃ seconds margin,
      Packet.transferTime (.integer (Packet.size count)) (.integer rate) =
        .ok seconds ∧
      (bus.timeoutMargin.needNumber >>= Number.toDouble) = .ok margin ∧
      timeout = seconds.add margin := by
  rw [responseTimeout, rateEq] at made
  obtain ⟨size, sizeEq, made⟩ := bind_eq_ok_iff.1 made
  obtain ⟨baudRate, rateEq, made⟩ := bind_eq_ok_iff.1 made
  cases sizeEq
  cases rateEq
  obtain ⟨seconds, secondsEq, made⟩ := bind_eq_ok_iff.1 made
  obtain ⟨margin, marginEq, made⟩ := bind_eq_ok_iff.1 made
  obtain ⟨margin', nearest, returned⟩ := bind_eq_ok_iff.1 made
  cases returned
  exact ⟨seconds, margin', secondsEq, by rw [marginEq]; exact nearest, rfl⟩

/-- Only a double that is no number is made a margin that is none. -/
theorem eq_real_of_invalid {value : Value} {margin : Double}
    (made : (value.needNumber >>= Number.toDouble) = .ok margin)
    (invalid : margin.isNaN = true) : value = .real margin := by
  obtain ⟨number, isNumber, nearest⟩ := bind_eq_ok_iff.1 made
  cases number with
  | integer n =>
      have isMargin := Number.ofInt?_of_toDouble nearest
      rw [(Double.rounds_ofInt? isMargin).isNaN] at invalid
      cases invalid
  | real x =>
      cases nearest
      cases value with
      | number given =>
          cases isNumber
          rfl
      | flag yes => cases yes <;> cases isNumber
      | _ => cases isNumber

/-- The same margin keeps the order of two times, unless it is no number. Then
the sums are none either. -/
theorem add_margin_mono {seconds seconds' : Double}
    (finite : seconds.isFinite = true) (finite' : seconds'.isFinite = true)
    (order : seconds.le seconds' = true) (margin : Double) :
    (seconds'.add margin).lt (seconds.add margin) = false ∧
      ((seconds.add margin).le (seconds'.add margin) = true ∨
        margin.isNaN = true) := by
  by_cases invalid : margin.isNaN = true
  · rw [Double.add_invalid invalid, Double.add_invalid invalid]
    exact ⟨by decide, Or.inr invalid⟩
  · have sums := Double.add_le_add_right finite finite' order
      (Bool.eq_false_iff.2 invalid)
    exact ⟨Double.lt_eq_false_of_le sums, Or.inl sums⟩

/-- A time is rounded up: the whole nanoseconds are the least in which the
message can be sent at its baud rate, and their double over the one of a second
is the time in seconds. Of two messages the longer one on the slower line never
has the smaller time. A reply with more parameters, or on a slower line, is
never waited for less long, but at least as long unless the margin is no
number. -/
theorem transferTime_orders_deadlines :
    (∀ size rate : Int, 0 < rate →
      IsLeast {n : Int | size * 10 * 1000000000 ≤ n * rate}
          (Packet.transferNanos size rate) ∧
        Packet.transferTime (.integer size) (.integer rate) = do
          let nanos ←
            (Number.integer (Packet.transferNanos size rate)).toDouble
          return nanos.div Packet.nanosPerSecondDouble) ∧
    (∀ (size size' rate rate' : Int) (seconds seconds' : Double),
      0 ≤ size → size ≤ size' → 0 < rate' → rate' ≤ rate →
      Packet.transferTime (.integer size) (.integer rate) = .ok seconds →
      Packet.transferTime (.integer size') (.integer rate') =
        .ok seconds' →
      seconds.le seconds' = true) ∧
    ∀ (bus bus' : Bus σ) (count count' rate rate' : Int)
      (timeout timeout' : Double),
      0 ≤ count → count ≤ count' → 0 < rate' → rate' ≤ rate →
      bus.baudRate = .integer rate → bus'.baudRate = .integer rate' →
      bus.timeoutMargin = bus'.timeoutMargin →
      bus.responseTimeout (.integer count) = .ok timeout →
      bus'.responseTimeout (.integer count') = .ok timeout' →
      timeout'.lt timeout = false ∧
        (timeout.le timeout' = true ∨
          ∃ x : Double, bus.timeoutMargin = .real x ∧ x.isNaN = true) := by
  refine ⟨?_, ?_, ?_⟩
  · intro size rate positive
    exact ⟨Packet.transferNanos_isLeast size positive,
      Packet.transferTime_eq size positive⟩
  · intro size size' rate rate' seconds seconds'
    exact Packet.transferTime_mono
  · intro bus bus' count count' rate rate' timeout timeout' nonneg more
      positive slower rateEq rateEq' margins made made'
    obtain ⟨seconds, margin, sent, marginEq, rfl⟩ :=
      exists_seconds rateEq made
    obtain ⟨seconds', margin', sent', marginEq', rfl⟩ :=
      exists_seconds rateEq' made'
    rw [← margins, marginEq] at marginEq'
    cases marginEq'
    have sizeNonneg : 0 ≤ Packet.size count := by
      simp only [Packet.size, Packet.minimumSize]
      omega
    have larger : Packet.size count ≤ Packet.size count' :=
      Int.add_le_add_left more _
    obtain ⟨notLess, ordered⟩ := add_margin_mono
      (Packet.isFinite_transferTime (Int.lt_of_lt_of_le positive slower) sent)
      (Packet.isFinite_transferTime positive sent')
      (Packet.transferTime_mono sizeNonneg larger positive slower sent sent')
      margin
    exact ⟨notLess, ordered.imp_right fun invalid =>
      ⟨margin, eq_real_of_invalid marginEq invalid, invalid⟩⟩

/-- Two sizes that differ by one byte have times that are the same double,
and four more parameters at a lower baud rate have a later deadline. -/
theorem transferTime_orders_deadlines_of_slower_line :
    let bus (rate : Int) : Bus Unit :=
      { line := ()
        reader := ⟨List.replicate 8 0, 0, 0, 0⟩
        writeBuffer := []
        baudRate := .integer rate
        timeoutMargin := BusOptions.default.timeoutMargin }
    let seconds : Double := ⟨0x43caaaaaaaaaaaab⟩
    let timeout : Double := ⟨0x3f515df6555c52e7⟩
    let timeout' : Double := ⟨0x3f666a0af1dcb7e2⟩
    IsLeast {n : Int | 7 * 10 * 1000000000 ≤ n * 57600} 1215278 ∧
      Packet.transferTime (.integer 0x1000000000000000) (.integer 3) =
        .ok seconds ∧
      Packet.transferTime (.integer 0x1000000000000001) (.integer 3) =
        .ok seconds ∧
      seconds.le seconds = true ∧
      (bus 1000000).responseTimeout (.integer 0) = .ok timeout ∧
      (bus 57600).responseTimeout (.integer 4) = .ok timeout' ∧
      timeout.le timeout' = true := by
  intro bus seconds timeout timeout'
  obtain ⟨least, orders, awaits⟩ := transferTime_orders_deadlines (σ := Unit)
  have sent : Packet.transferTime (.integer 0x1000000000000000)
      (.integer 3) = .ok seconds := by
    decide +kernel
  have sent' : Packet.transferTime (.integer 0x1000000000000001)
      (.integer 3) = .ok seconds := by
    decide +kernel
  have made : (bus 1000000).responseTimeout (.integer 0) = .ok timeout := by
    decide +kernel
  have made' : (bus 57600).responseTimeout (.integer 4) = .ok timeout' := by
    decide +kernel
  have nanos : Packet.transferNanos 7 57600 = 1215278 := by decide +kernel
  refine ⟨?_, sent, sent', ?_, made, made', ?_⟩
  · rw [← nanos]
    exact (least 7 57600 (by decide)).1
  · exact orders _ _ 3 3 _ _ (by decide) (by decide) (by decide) (by decide)
      sent sent'
  · obtain ⟨_, later⟩ := awaits (bus 1000000) (bus 57600) 0 4 1000000 57600
      timeout timeout' (by decide) (by decide) (by decide) (by decide) rfl
      rfl rfl made made'
    refine later.resolve_right ?_
    rintro ⟨x, margin, invalid⟩
    cases margin
    exact absurd invalid (by decide +kernel)

end Bus

end ActuatorBus
