import ArrivalRamp.Duration.Span
import ArrivalRamp.Proofs.Binary64.Operations
import ArrivalRamp.Proofs.Binary64.Spacing

/-!
The milliseconds of a span as a machine number. Below `2 ^ 53` of them they have the order of the
spans. A span below `2 ^ 34` of them is rounded by less than a nanosecond, so that it compares with
half milliseconds as the exact one does.
-/

namespace ArrivalRamp.Span

open Binary64

/-- Multiples of one half are not rounded. -/
theorem rounded_half {half : ℕ} (fits : half < 2 ^ 53) : rounded (half / 2) = half / 2 := by
  have kept := nearest_eq_of_fits fits (show -1074 ≤ (-1 : ℤ) by decide)
  rwa [zpow_neg_one, ← div_eq_mul_inv, ← rounded_of_nonneg (by positivity)] at kept

theorem toFloat_thousand : (1000.0 : Float) = Word.toFloat 1000 := by
  decide

theorem toFloat_million : (1000000.0 : Float) = Word.toFloat 1000000 := by
  decide

variable (span : Span)

theorem nanos_eq : span.nanos = span.seconds * 1000000000 + span.subsecond :=
  (Nat.div_add_mod' span.nanos 1000000000).symm

theorem subsecond_lt : span.subsecond < 1000000000 :=
  Nat.mod_lt _ (by decide)

/-- The milliseconds past the whole seconds are the exact ones, rounded. -/
theorem rational_subsecondMillis :
    (Word.toFloat span.subsecond / 1000000.0).isFinite ∧
      rational (Word.toFloat span.subsecond / 1000000.0) =
        rounded (span.subsecond / 1000000) := by
  have quotient := rational_toFloat_div (span.subsecond_lt.le.trans (by decide))
    (show 1000000 ≤ 2 ^ 53 by decide) (by decide)
  rwa [Nat.cast_ofNat, ← toFloat_million] at quotient

theorem subsecondMillis_nonneg : 0 ≤ rounded (span.subsecond / 1000000) :=
  rounded_nonneg (by positivity)

/-- The milliseconds past the whole seconds are rounded by far less than a nanosecond. -/
theorem subsecondMillis_le :
    rounded (span.subsecond / 1000000) ≤ span.subsecond / 1000000 + 2 ^ (-43 : ℤ) / 2 := by
  have counted : (span.subsecond : ℚ) < 1000000000 := by exact_mod_cast span.subsecond_lt
  have power : (2 : ℚ) ^ ((-43 : ℤ) + 53) = 1024 := by norm_num
  rw [rounded_of_nonneg (by positivity)]
  refine nearest_le_add (by positivity) (by decide) ?_
  rw [power]
  linarith

theorem subsecondMillis_le_thousand : rounded (span.subsecond / 1000000) ≤ 1000 := by
  have counted : (span.subsecond : ℚ) < 1000000000 := by exact_mod_cast span.subsecond_lt
  have thousand : rounded (1000 : ℕ) = (1000 : ℕ) := rounded_natCast (by decide)
  have rounds := rounded_mono (show (span.subsecond / 1000000 : ℚ) ≤ (1000 : ℕ) by
    push_cast
    linarith)
  rwa [thousand, Nat.cast_ofNat] at rounds

section Exact

variable {span} (below : span.nanos < 2 ^ 53 * 1000000)

include below

/-- The milliseconds of the whole seconds are exact. -/
theorem rational_secondsMillis :
    (Word.toFloat span.seconds * 1000.0).isFinite ∧
      rational (Word.toFloat span.seconds * 1000.0) = span.seconds * 1000 := by
  have parts := span.nanos_eq
  have small : span.seconds * 1000 ≤ 2 ^ 53 := by omega
  have word : span.seconds ≤ Word.maxCount := (show span.seconds ≤ 2 ^ 53 by omega).trans (by decide)
  have left : rational (Word.toFloat span.seconds) = span.seconds :=
    rational_toFloat_of_fits (by omega)
  have right : rational (Word.toFloat 1000) = 1000 := by
    rw [rational_toFloat_of_fits (by decide), Nat.cast_ofNat]
  have counted : rounded (span.seconds * 1000) = span.seconds * 1000 := by
    exact_mod_cast rounded_natCast small
  have most : |(span.seconds * 1000 : ℚ)| ≤ 2 ^ 53 := by
    rw [abs_of_nonneg (by positivity)]
    exact_mod_cast small
  have product := rational_mul (isFinite_toFloat word)
    (isFinite_toFloat (show 1000 ≤ Word.maxCount by decide))
    (abs_rounded_lt_bound 53 (by rwa [left, right]) (by decide))
  rwa [left, right, counted, ← toFloat_thousand] at product

/-- The milliseconds are the sum of both parts, rounded once more. -/
theorem rational_toMillis :
    span.toMillis.isFinite ∧
      rational span.toMillis =
        rounded (span.seconds * 1000 + rounded (span.subsecond / 1000000)) := by
  obtain ⟨wholeFinite, wholeEq⟩ := rational_secondsMillis below
  obtain ⟨partFinite, partEq⟩ := span.rational_subsecondMillis
  have nonneg := span.subsecondMillis_nonneg
  have part := span.subsecondMillis_le_thousand
  have seconds : span.seconds * 1000 ≤ 2 ^ 53 := by
    have parts := span.nanos_eq
    omega
  have counted : (span.seconds * 1000 : ℚ) ≤ 2 ^ 53 := by exact_mod_cast seconds
  have small : |(span.seconds * 1000 + rounded (span.subsecond / 1000000) : ℚ)| ≤ 2 ^ 54 := by
    rw [abs_of_nonneg (by positivity)]
    linarith
  have sum := rational_add wholeFinite partFinite
    (abs_rounded_lt_bound 54 (by rwa [wholeEq, partEq]) (by decide))
  rwa [wholeEq, partEq] at sum

/-- The milliseconds of spans have the order of the spans, as long as whole milliseconds are
exact. -/
theorem toMillis_mono {earlier : Span} (ordered : earlier.nanos ≤ span.nanos) :
    rational earlier.toMillis ≤ rational span.toMillis := by
  rw [(rational_toMillis (ordered.trans_lt below)).2, (rational_toMillis below).2]
  apply rounded_mono
  have seconds : earlier.seconds ≤ span.seconds := Nat.div_le_div_right ordered
  rcases seconds.eq_or_lt with same | before
  · have parts : earlier.subsecond ≤ span.subsecond := by
      unfold subsecond Span.seconds at *
      omega
    rw [same, add_le_add_iff_left]
    apply rounded_mono
    have counted : (earlier.subsecond : ℚ) ≤ span.subsecond := by exact_mod_cast parts
    linarith
  · have next : (earlier.seconds + 1 : ℚ) ≤ span.seconds := by exact_mod_cast before
    have part := earlier.subsecondMillis_le_thousand
    have nonneg := span.subsecondMillis_nonneg
    linarith

end Exact

section Short

variable {span} (short : span.nanos < 2 ^ 34 * 1000000)

include short

/-- A nanosecond is left below the bound. -/
theorem exactMillis_le :
    (span.seconds * 1000 + span.subsecond / 1000000 : ℚ) + 1 / 1000000 ≤ 2 ^ 34 := by
  have parts := span.nanos_eq
  have next : span.seconds * 1000000000 + span.subsecond + 1 ≤ 2 ^ 34 * 1000000 := by omega
  have counted : (span.seconds * 1000000000 + span.subsecond + 1 : ℚ) ≤ 2 ^ 34 * 1000000 := by
    exact_mod_cast next
  linarith

theorem sumMillis_lt :
    (span.seconds * 1000 + rounded (span.subsecond / 1000000) : ℚ) < 2 ^ 34 := by
  have exact := exactMillis_le short
  have part := span.subsecondMillis_le
  have power : (2 : ℚ) ^ (-43 : ℤ) / 2 < 1 / 1000000 := by norm_num
  linarith

/-- Whole milliseconds of short spans are exact. -/
theorem lt_of_short : span.nanos < 2 ^ 53 * 1000000 :=
  short.trans (by decide)

/-- A multiple of one half is reached by the rounded milliseconds when it is by the exact ones. -/
theorem half_le_toMillis {half : ℕ} (reached : half * 500000 ≤ span.nanos) :
    half / 2 ≤ rational span.toMillis := by
  have parts := span.nanos_eq
  have kept : rounded (half / 2) = half / 2 := rounded_half (by omega)
  have sum : (half / 2 : ℚ) ≤ span.seconds * 1000 + rounded (span.subsecond / 1000000) := by
    rcases Nat.le_total half (span.seconds * 2000) with whole | beyond
    · have counted : (half : ℚ) ≤ span.seconds * 2000 := by exact_mod_cast whole
      have nonneg := span.subsecondMillis_nonneg
      linarith
    · obtain ⟨rest, rfl⟩ := Nat.exists_eq_add_of_le beyond
      have part : rest * 500000 ≤ span.subsecond := by linarith
      have counted : (rest * 500000 : ℚ) ≤ span.subsecond := by exact_mod_cast part
      have restKept : rounded (rest / 2) = rest / 2 := rounded_half (by omega)
      have rounds := rounded_mono (show (rest / 2 : ℚ) ≤ span.subsecond / 1000000 by linarith)
      rw [restKept] at rounds
      push_cast
      linarith
  have rounds := rounded_mono sum
  rwa [kept, ← (rational_toMillis (lt_of_short short)).2] at rounds

/-- A multiple of one half that the exact milliseconds miss by a nanosecond is not reached by the
rounded ones. Both roundings together add less. -/
theorem toMillis_lt_half {half : ℕ} (before : span.nanos < half * 500000) :
    rational span.toMillis < half / 2 := by
  have parts := span.nanos_eq
  have next : span.seconds * 1000000000 + span.subsecond + 1 ≤ half * 500000 := by omega
  have counted : (span.seconds * 1000000000 + span.subsecond + 1 : ℚ) ≤ half * 500000 := by
    exact_mod_cast next
  have part := span.subsecondMillis_le
  have nonneg := span.subsecondMillis_nonneg
  have brief := sumMillis_lt short
  have added : nearest (span.seconds * 1000 + rounded (span.subsecond / 1000000)) ≤
      span.seconds * 1000 + rounded (span.subsecond / 1000000) + 2 ^ (-19 : ℤ) / 2 :=
    nearest_le_add (by positivity) (by decide) (brief.trans_eq (by norm_num))
  have powers : (2 : ℚ) ^ (-43 : ℤ) / 2 + 2 ^ (-19 : ℤ) / 2 < 1 / 1000000 := by norm_num
  rw [(rational_toMillis (lt_of_short short)).2, rounded_of_nonneg (by positivity)]
  linarith

/-- The milliseconds compare with the multiples of one half as the nanoseconds do. -/
theorem toMillis_lt_half_iff (half : ℕ) :
    rational span.toMillis < half / 2 ↔ span.nanos < half * 500000 := by
  constructor
  · intro before
    by_contra reached
    exact absurd before (not_lt.mpr (half_le_toMillis short (not_lt.mp reached)))
  · exact toMillis_lt_half short

/-- A whole millisecond is reached by the rounded milliseconds when it is by the exact ones. -/
theorem toFloat_le_toMillis_iff {count : ℕ} (small : count ≤ 2 ^ 53) :
    Word.toFloat count ≤ span.toMillis ↔ count * 1000000 ≤ span.nanos := by
  have word : count ≤ Word.maxCount := small.trans (by decide)
  have halves : (count : ℚ) = (2 * count : ℕ) / 2 := by
    push_cast
    ring
  rw [rational_le_iff (isFinite_toFloat word) (rational_toMillis (lt_of_short short)).1,
    rational_toFloat_of_fits small, halves, ← not_lt, toMillis_lt_half_iff short]
  omega

/-- Every count is still to come in the rounded milliseconds when it is in the exact ones. Counts
that are not exact are beyond both. -/
theorem toMillis_lt_toFloat_iff {count : ℕ} (word : count ≤ Word.maxCount) :
    span.toMillis < Word.toFloat count ↔ span.nanos < count * 1000000 := by
  have finite := (rational_toMillis (lt_of_short short)).1
  rcases le_or_gt count (2 ^ 53) with small | great
  · rw [← not_iff_not, not_lt_toFloat_iff finite word, toFloat_le_toMillis_iff short small, not_lt]
  · have below := toMillis_lt_half short (show span.nanos < 2 ^ 54 * 500000 by omega)
    have later : 2 ^ 34 ≤ count := (show 2 ^ 34 ≤ 2 ^ 53 by decide).trans great.le
    have running : span.nanos < count * 1000000 :=
      short.trans_le (Nat.mul_le_mul_right 1000000 later)
    have above := nearest_natCast_mono great.le
    rw [nearest_natCast le_rfl] at above
    push_cast at below above
    rw [rational_lt_iff finite (isFinite_toFloat word), rational_toFloat word,
      iff_true_right running]
    linarith

/-- A span of some nanoseconds keeps positive milliseconds. -/
theorem rational_toMillis_pos_iff : 0 < rational span.toMillis ↔ 0 < span.nanos := by
  have parts := span.nanos_eq
  rw [(rational_toMillis (lt_of_short short)).2]
  constructor
  · intro positive
    by_contra none
    have seconds : span.seconds = 0 := by omega
    have subsecond : span.subsecond = 0 := by omega
    simp [seconds, subsecond, rounded_zero] at positive
  · intro some
    have least : (2 : ℚ) ^ (-20 : ℤ) ≤
        span.seconds * 1000 + rounded (span.subsecond / 1000000) := by
      have power : (2 : ℚ) ^ (-20 : ℤ) ≤ 1 / 1000000 := by norm_num
      rcases Nat.eq_zero_or_pos span.seconds with brief | long
      · have counted : (1 : ℚ) ≤ span.subsecond := by
          exact_mod_cast (show 1 ≤ span.subsecond by omega)
        have rounds := rounded_mono
          (show (2 : ℚ) ^ (-20 : ℤ) ≤ span.subsecond / 1000000 by linarith)
        rw [rounded_two_zpow (by decide)] at rounds
        rwa [brief, Nat.cast_zero, zero_mul, zero_add]
      · have counted : (1 : ℚ) ≤ span.seconds := by exact_mod_cast long
        have nonneg := span.subsecondMillis_nonneg
        linarith
    have rounds := rounded_mono least
    rw [rounded_two_zpow (by decide)] at rounds
    exact lt_of_lt_of_le (by positivity) rounds

/-- The whole milliseconds nearest to the rounded ones are those nearest to the exact ones. -/
theorem floor_toMillis :
    ⌊rational span.toMillis + 1 / 2⌋₊ = (span.nanos + 500000) / 1000000 := by
  have nonneg : 0 ≤ rational span.toMillis := by
    have least := half_le_toMillis short (show 0 * 500000 ≤ span.nanos by omega)
    simpa using least
  have below := Nat.div_mul_le_self (span.nanos + 500000) 1000000
  have above := Nat.lt_div_mul_add (a := span.nanos + 500000) (show 0 < 1000000 by decide)
  generalize (span.nanos + 500000) / 1000000 = millis at *
  rw [Nat.floor_eq_iff (by linarith)]
  constructor
  · cases millis with
    | zero =>
        rw [Nat.cast_zero]
        linarith
    | succ previous =>
        have reached := half_le_toMillis short
          (show (2 * previous + 1) * 500000 ≤ span.nanos by linarith)
        push_cast at reached ⊢
        linarith
  · have before := toMillis_lt_half short
      (show span.nanos < (2 * millis + 1) * 500000 by linarith)
    push_cast at before
    linarith

end Short

end ArrivalRamp.Span
