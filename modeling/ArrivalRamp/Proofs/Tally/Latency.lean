import ArrivalRamp.Proofs.Duration.Seconds
import ArrivalRamp.Report.Basic

/-!
Latencies in milliseconds as machine numbers. They differ from the exact ones by a small part of
them, and they have their order.
-/

namespace ArrivalRamp

open Binary64

section Latency

variable {span : Span}

/-- A latency in milliseconds is the product of the seconds with a thousand, rounded. -/
theorem rational_latencyMillis (span : Span) :
    (latencyMillis span).isFinite ∧
      rational (latencyMillis span) = rounded (rational span.toSeconds * 1000) := by
  have thousand : rational 1000.0 = 1000 := by
    rw [Span.toFloat_thousand, rational_toFloat_of_fits (by decide), Nat.cast_ofNat]
  have finite : (1000.0 : Float).isFinite := by
    rw [Span.toFloat_thousand]
    exact isFinite_toFloat (by decide)
  have secondsFinite := (rational_toSeconds span).1
  obtain ⟨nonneg, most⟩ := toSeconds_mem span
  have product := rational_mul secondsFinite finite
  rw [thousand] at product
  refine product (abs_rounded_lt_bound 75 ?_ (by decide))
  rw [abs_of_nonneg (by positivity)]
  norm_num
  linarith

/-- A latency differs from the exact one by the rounding of three operations. -/
theorem isNear_latencyMillis (word : span.seconds ≤ Word.maxCount) :
    IsNear (3 / 2 ^ 52) (span.nanos / 1000000) (rational (latencyMillis span)) := by
  have product := (isNear_toSeconds word).mul_right (show (0 : ℚ) ≤ 1000 by norm_num)
  have exact : (span.nanos / 1000000000 * 1000 : ℚ) = span.nanos / 1000000 := by ring
  rw [exact] at product
  have rounding := product.rounded (by norm_num)
    (quotient_eq_zero_or_le span.nanos (show 0 < 1000000 by decide) (by decide))
  rw [(rational_latencyMillis span).2]
  convert rounding using 1
  norm_num

/-- A latency is less than a microsecond longer than its whole microseconds, as long as its rounding
is small beside a nanosecond. -/
theorem latencyMillis_lt_add {micros : ℕ} (small : micros < 2 ^ 33)
    (short : span.nanos ≤ 1000 * micros + 999) :
    rational (latencyMillis span) < rounded (micros / 1000) + 1 / 1000 := by
  have word : span.seconds ≤ Word.maxCount := by
    unfold Span.seconds Word.maxCount
    omega
  have exact : (span.nanos : ℚ) ≤ 1000 * micros + 999 := by exact_mod_cast short
  have bound : (micros : ℚ) < 2 ^ 33 := by exact_mod_cast small
  have rounding := (IsNear.refl (micros / 1000)).rounded (by norm_num)
    (quotient_eq_zero_or_le micros (show 0 < 1000 by decide) (by decide))
  have low := rounding.bounds.1
  have high := (isNear_latencyMillis word).bounds.2
  linarith

theorem latencyMillis_mono {earlier later : Span} (ordered : earlier.nanos ≤ later.nanos)
    (word : later.seconds ≤ Word.maxCount) : latencyMillis earlier ≤ latencyMillis later := by
  rw [rational_le_iff (rational_latencyMillis earlier).1 (rational_latencyMillis later).1,
    (rational_latencyMillis earlier).2, (rational_latencyMillis later).2]
  apply rounded_mono
  exact mul_le_mul_of_nonneg_right (toSeconds_mono ordered word) (by norm_num)

end Latency

end ArrivalRamp
