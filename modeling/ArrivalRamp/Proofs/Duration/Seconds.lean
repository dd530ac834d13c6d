import ArrivalRamp.Proofs.Binary64.Near
import ArrivalRamp.Proofs.Duration.Millis

/-!
The seconds of a span as a machine number. Both of its parts are rounded, and so is their sum, but
they keep the order of the spans, and no span of some nanoseconds is rounded to nothing.
-/

namespace ArrivalRamp

open Binary64

theorem toFloat_billion : (1000000000.0 : Float) = Word.toFloat 1000000000 := by
  decide

theorem subsecond_div_mem (span : Span) :
    (span.subsecond / 1000000000 : ℚ) ∈ Set.Icc 0 1 := by
  have counted : (span.subsecond : ℚ) < 1000000000 := by exact_mod_cast span.subsecond_lt
  refine ⟨by positivity, ?_⟩
  rw [div_le_one (by norm_num)]
  exact counted.le

/-- The part of a second is the exact one, rounded. -/
theorem rational_subsecond (span : Span) :
    (Word.toFloat span.subsecond / 1000000000.0).isFinite ∧
      rational (Word.toFloat span.subsecond / 1000000000.0) =
        rounded (span.subsecond / 1000000000) := by
  have quotient := rational_toFloat_div (span.subsecond_lt.le.trans (by decide))
    (show 1000000000 ≤ 2 ^ 53 by decide) (by decide)
  rwa [Nat.cast_ofNat, ← toFloat_billion] at quotient

theorem subsecond_mem (span : Span) :
    rational (Word.toFloat span.subsecond / 1000000000.0) ∈ Set.Icc 0 1 := by
  rw [(rational_subsecond span).2]
  exact rounded_mem_Icc rounded_zero rounded_one (subsecond_div_mem span)

/-- A part of a second is not rounded to nothing. -/
theorem subsecond_pos {span : Span} (some : 0 < span.subsecond) :
    0 < rational (Word.toFloat span.subsecond / 1000000000.0) := by
  have least : (2 : ℚ) ^ (-30 : ℤ) ≤ span.subsecond / 1000000000 := by
    have one : (1 : ℚ) ≤ span.subsecond := by exact_mod_cast some
    rw [le_div_iff₀ (by norm_num)]
    norm_num
    linarith
  rw [(rational_subsecond span).2]
  calc (0 : ℚ) < 2 ^ (-30 : ℤ) := by positivity
    _ = rounded (2 ^ (-30 : ℤ)) := (rounded_two_zpow (by decide)).symm
    _ ≤ rounded (span.subsecond / 1000000000) := rounded_mono least

/-- The seconds of a span are its whole seconds and the part of one, rounded. -/
theorem rational_toSeconds (span : Span) :
    span.toSeconds.isFinite ∧
      rational span.toSeconds = rounded (rational (Word.toFloat span.seconds) +
        rational (Word.toFloat span.subsecond / 1000000000.0)) := by
  obtain ⟨wholeFinite, wholeNonneg, wholeLe⟩ := toFloat_mem span.seconds
  obtain ⟨partNonneg, partLe⟩ := subsecond_mem span
  exact rational_add wholeFinite (rational_subsecond span).1
    (abs_rounded_lt_bound 65 (abs_le.mpr ⟨by linarith, by linarith⟩) (by decide))

/-- The seconds of a span are not negative, and no more than twice the number of words. -/
theorem toSeconds_mem (span : Span) : rational span.toSeconds ∈ Set.Icc 0 (2 ^ 65) := by
  obtain ⟨wholeFinite, wholeMem⟩ := toFloat_mem span.seconds
  obtain ⟨partNonneg, partLe⟩ := subsecond_mem span
  exact (add_mem_two_pow wholeFinite (rational_subsecond span).1 wholeMem
    ⟨partNonneg, partLe.trans (one_le_pow₀ one_le_two)⟩ (by decide)).2

theorem toSeconds_nonneg (span : Span) : 0.0 ≤ span.toSeconds :=
  (zero_le_iff_rational (rational_toSeconds span).1).mpr (toSeconds_mem span).1

/-- A span that is no longer than a count of seconds can hold has a positive number of them. -/
theorem toSeconds_pos {span : Span} (positive : 0 < span.nanos)
    (word : span.seconds ≤ Word.maxCount) : 0 < rational span.toSeconds := by
  obtain ⟨wholeFinite, wholeNonneg, -⟩ := toFloat_mem span.seconds
  have partFinite := (rational_subsecond span).1
  have partNonneg := (subsecond_mem span).1
  rw [(rational_toSeconds span).2]
  rcases Nat.eq_zero_or_pos span.subsecond with none | some
  · have seconds : 0 < span.seconds := by
      unfold Span.subsecond Span.seconds at *
      omega
    have wholePositive := toFloat_pos seconds word
    rw [rational_lt_iff isFinite_zero wholeFinite, rational_zero] at wholePositive
    calc (0 : ℚ) < rational (Word.toFloat span.seconds) := wholePositive
      _ = rounded (rational (Word.toFloat span.seconds)) := (rounded_rational wholeFinite).symm
      _ ≤ _ := rounded_mono (le_add_of_nonneg_right partNonneg)
  · calc (0 : ℚ) < rational (Word.toFloat span.subsecond / 1000000000.0) := subsecond_pos some
      _ = rounded (rational (Word.toFloat span.subsecond / 1000000000.0)) :=
          (rounded_rational partFinite).symm
      _ ≤ _ := rounded_mono (le_add_of_nonneg_left wholeNonneg)

theorem isNear_toSeconds {span : Span} (word : span.seconds ≤ Word.maxCount) :
    IsNear (2 / 2 ^ 52) (span.nanos / 1000000000) (rational span.toSeconds) := by
  have whole : IsNear (1 / 2 ^ 52) span.seconds (rational (Word.toFloat span.seconds)) := by
    rw [rational_toFloat word]
    exact isNear_nearest_natCast span.seconds
  have part : IsNear (1 / 2 ^ 52) (span.subsecond / 1000000000)
      (rational (Word.toFloat span.subsecond / 1000000000.0)) := by
    rw [(rational_subsecond span).2]
    have rounding := (IsNear.refl (span.subsecond / 1000000000)).rounded (by norm_num)
      (quotient_eq_zero_or_le span.subsecond (show 0 < 1000000000 by decide) (by decide))
    rwa [zero_add] at rounding
  have exact : (span.seconds + span.subsecond / 1000000000 : ℚ) = span.nanos / 1000000000 := by
    rw [span.nanos_eq]
    push_cast
    ring
  have sum := whole.add part
  rw [exact] at sum
  have rounding := sum.rounded (by norm_num)
    (quotient_eq_zero_or_le span.nanos (show 0 < 1000000000 by decide) (by decide))
  rw [(rational_toSeconds span).2]
  convert rounding using 1
  norm_num

/-- A span of at least a millisecond is not rounded below the 1024th part of a second. -/
theorem toSeconds_least {span : Span} (least : 1000000 ≤ span.nanos)
    (word : span.seconds ≤ Word.maxCount) : 1 / 2 ^ 10 ≤ rational span.toSeconds := by
  have counted : (1000000 : ℚ) ≤ span.nanos := by exact_mod_cast least
  have near := (isNear_toSeconds word).bounds.1
  norm_num at near ⊢
  linarith

theorem subsecond_lt_one (span : Span) :
    rational (Word.toFloat span.subsecond / 1000000000.0) < 1 := by
  have below : span.subsecond ≤ 999999999 := Nat.le_pred_of_lt span.subsecond_lt
  have counted : (span.subsecond : ℚ) ≤ 999999999 := by exact_mod_cast below
  have kept := nearest_eq_of_fits (show 2 ^ 30 - 1 < 2 ^ 53 by decide)
    (show -1074 ≤ (-30 : ℤ) by decide)
  norm_num at kept
  rw [(rational_subsecond span).2]
  calc rounded (span.subsecond / 1000000000) ≤ rounded (1073741823 / 1073741824) := by
        apply rounded_mono
        linarith
    _ < 1 := by
        rw [rounded_of_nonneg (by norm_num), kept]
        norm_num

/-- A span that is shorter than a count of seconds has no more seconds than it, also when they are
rounded. Beyond the whole numbers that can be told apart, a part of a second is rounded away. -/
theorem toSeconds_le_nearest {span : Span} {count : ℕ} (below : span.seconds < count)
    (word : count ≤ Word.maxCount) : rational span.toSeconds ≤ nearest count := by
  have part := subsecond_lt_one span
  have partNonneg := (subsecond_mem span).1
  have mono := nearest_natCast_mono (show span.seconds + 1 ≤ count from below)
  rw [(rational_toSeconds span).2, rational_toFloat (below.le.trans word)]
  by_cases small : span.seconds < 2 ^ 53
  · have next : nearest (span.seconds + 1 : ℕ) = (span.seconds + 1 : ℕ) := nearest_natCast small
    have own : nearest span.seconds = span.seconds := nearest_natCast small.le
    rw [rounded_of_nonneg (add_nonneg (nearest_nonneg (Nat.cast_nonneg _)) partNonneg), own]
    refine le_trans ?_ mono
    refine nearest_mono (by positivity) ?_
    push_cast
    linarith
  · have reached : (2 : ℚ) ^ (53 : ℤ) ≤ nearest span.seconds := by
      have power : nearest (2 ^ 53 : ℕ) = (2 ^ 53 : ℕ) := nearest_natCast le_rfl
      have ordered := nearest_natCast_mono (not_lt.mp small)
      rw [power] at ordered
      exact_mod_cast ordered
    have place := le_lastPlace reached
    have half : (1 : ℚ) ≤ 2 ^ lastPlace (nearest span.seconds) / 2 := by
      have power : (2 : ℚ) ^ (1 : ℤ) ≤ 2 ^ lastPlace (nearest span.seconds) :=
        zpow_le_zpow_right₀ one_le_two (by omega)
      rw [zpow_one] at power
      linarith
    have positive : 0 < nearest (span.seconds : ℚ) := lt_of_lt_of_le (by positivity) reached
    have kept : nearest (nearest (span.seconds : ℚ)) = nearest span.seconds := by
      have finite := isFinite_toFloat (below.le.trans word)
      have same := rounded_rational finite
      rw [rational_toFloat (below.le.trans word), rounded_of_nonneg positive.le] at same
      exact same
    rw [rounded_of_nonneg (by linarith),
      nearest_eq_of_lt_half positive kept (le_add_of_nonneg_right partNonneg) (by linarith)]
    exact nearest_natCast_mono below.le

/-- The seconds of spans have the order of the spans. -/
theorem toSeconds_mono {earlier later : Span} (ordered : earlier.nanos ≤ later.nanos)
    (word : later.seconds ≤ Word.maxCount) :
    rational earlier.toSeconds ≤ rational later.toSeconds := by
  have seconds : earlier.seconds ≤ later.seconds := Nat.div_le_div_right ordered
  rcases seconds.eq_or_lt with same | before
  · have parts : earlier.subsecond ≤ later.subsecond := by
      unfold Span.subsecond Span.seconds at *
      omega
    rw [(rational_toSeconds earlier).2, (rational_toSeconds later).2, same,
      (rational_subsecond earlier).2, (rational_subsecond later).2]
    apply rounded_mono
    gcongr
    apply rounded_mono
    gcongr
  · have wholeFinite := (toFloat_mem later.seconds).1
    have partNonneg := (subsecond_mem later).1
    calc rational earlier.toSeconds
        ≤ nearest later.seconds := toSeconds_le_nearest before word
      _ = rational (Word.toFloat later.seconds) := (rational_toFloat word).symm
      _ = rounded (rational (Word.toFloat later.seconds)) := (rounded_rational wholeFinite).symm
      _ ≤ rounded (rational (Word.toFloat later.seconds) +
            rational (Word.toFloat later.subsecond / 1000000000.0)) :=
          rounded_mono (le_add_of_nonneg_right partNonneg)
      _ = rational later.toSeconds := (rational_toSeconds later).2.symm

end ArrivalRamp
