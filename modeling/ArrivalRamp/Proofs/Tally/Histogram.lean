import ArrivalRamp.Proofs.Binary64.Near
import ArrivalRamp.Proofs.Binary64.Whole
import ArrivalRamp.Proofs.Duration.Millis
import ArrivalRamp.Proofs.Ledger
import ArrivalRamp.Tally.Histogram

/-!
Quantiles of histograms. The cells stand in their order, so that a greater share of the latencies is
complete at the same cell or a later one. As long as there are latencies, no share is greater than
their number, although it is rounded.
-/

namespace ArrivalRamp.Histogram

open Binary64

section Cells

theorem cellStart_eq (latency : ℕ) :
    cellStart latency = latency / 2 ^ droppedBits latency * 2 ^ droppedBits latency := by
  rw [cellStart, Nat.shiftLeft_eq, Nat.shiftRight_eq_div_pow]

theorem cellStart_le (latency : ℕ) : cellStart latency ≤ latency := by
  rw [cellStart_eq]
  exact Nat.div_mul_le_self _ _

/-- The least latency of a cell has as many digits as the other ones. -/
theorem log2_cellStart (latency : ℕ) : (cellStart latency).log2 = latency.log2 := by
  rcases Nat.eq_zero_or_pos latency with rfl | positive
  · rfl
  · have power := Nat.log2_self_le positive.ne'
    have split : 2 ^ latency.log2 =
        2 ^ (latency.log2 - droppedBits latency) * 2 ^ droppedBits latency := by
      rw [← pow_add]
      congr 1
      unfold droppedBits
      omega
    have low : 2 ^ latency.log2 ≤ cellStart latency := by
      rw [cellStart_eq, split]
      refine Nat.mul_le_mul_right _ ?_
      rw [Nat.le_div_iff_mul_le (Nat.two_pow_pos _), ← split]
      exact power
    have nonzero : cellStart latency ≠ 0 :=
      (lt_of_lt_of_le (Nat.two_pow_pos _) low).ne'
    rw [Nat.log2_eq_iff nonzero]
    exact ⟨low, (cellStart_le latency).trans_lt Nat.lt_log2_self⟩

theorem droppedBits_cellStart (latency : ℕ) :
    droppedBits (cellStart latency) = droppedBits latency := by
  unfold droppedBits
  rw [log2_cellStart]

/-- A latency lies in its cell. -/
theorem le_cellStop_cellStart (latency : ℕ) : latency ≤ cellStop (cellStart latency) := by
  have inside : latency < cellStart latency + 2 ^ droppedBits latency := by
    rw [cellStart_eq]
    exact Nat.lt_div_mul_add (Nat.two_pow_pos _)
  unfold cellStop
  rw [droppedBits_cellStart]
  exact Nat.le_sub_one_of_lt inside

theorem droppedBits_mono {fewer more : ℕ} (ordered : fewer ≤ more) :
    droppedBits fewer ≤ droppedBits more := by
  unfold droppedBits
  rcases Nat.eq_zero_or_pos fewer with rfl | positive
  · simp
  · have log : fewer.log2 ≤ more.log2 := by
      rw [Nat.le_log2 (by omega)]
      exact (Nat.log2_self_le positive.ne').trans ordered
    omega

theorem cellStop_mono {fewer more : ℕ} (ordered : fewer ≤ more) :
    cellStop fewer ≤ cellStop more := by
  have width : 2 ^ droppedBits fewer ≤ 2 ^ droppedBits more :=
    Nat.pow_le_pow_right (by decide) (droppedBits_mono ordered)
  exact Nat.sub_le_sub_right (Nat.add_le_add ordered width) 1

/-- A cell has one latency, or it is narrower than a hundred and twenty-eighth of its least one. -/
theorem cellStop_le (start : ℕ) :
    cellStop start = start ∨ 128 * (cellStop start + 1) ≤ 129 * start := by
  rcases Nat.eq_zero_or_pos (droppedBits start) with none | some
  · left
    unfold cellStop
    rw [none]
    rfl
  · right
    have nonzero : start ≠ 0 := by
      rintro rfl
      exact absurd some (by decide)
    have digits : start.log2 = 7 + droppedBits start := by
      unfold droppedBits at *
      omega
    have least := Nat.log2_self_le nonzero
    rw [digits, pow_add] at least
    have width : 1 ≤ 2 ^ droppedBits start := Nat.one_le_two_pow
    change 128 * (start + 2 ^ droppedBits start - 1 + 1) ≤ 129 * start
    omega

/-- The milliseconds of the greatest latency of a cell. Its rounding is small beside the width of the
cell. -/
theorem rounded_cellStop_le {start : ℕ} (held : start ≤ greatest) :
    rounded (cellStop start / 1000) ≤
      129 / 128 * (start / 1000 - 3 / 2 ^ 52 * (start / 1000)) := by
  have rounding := (IsNear.refl (cellStop start / 1000)).rounded (by norm_num)
    (quotient_eq_zero_or_le (cellStop start) (show 0 < 1000 by decide) (by decide))
  have top := rounding.bounds.2
  have small : (start : ℚ) ≤ 4294967295 := by exact_mod_cast held
  have nonneg : (0 : ℚ) ≤ start := Nat.cast_nonneg start
  rcases cellStop_le start with same | narrow
  · rw [same] at top ⊢
    linarith
  · have wide : (128 * (cellStop start + 1) : ℚ) ≤ 129 * start := by exact_mod_cast narrow
    linarith

/-- The latency that stands for a latency in a histogram. -/
def kept (latency : ℕ) : ℕ :=
  if latency ≤ greatest then latency else overflow

theorem kept_le (latency : ℕ) : kept latency ≤ latency := by
  unfold kept greatest overflow
  split_ifs <;> omega

theorem kept_le_greatest (latency : ℕ) : kept latency ≤ greatest := by
  unfold kept
  split_ifs with small
  · exact small
  · decide

end Cells

section Walk

variable {cells : Ledger ℕ ℕ} {wanted fewer more : ℕ}

/-- As many latencies as there are have been counted at some cell. -/
theorem exists_walk_eq (positive : 0 < wanted) (enough : wanted ≤ cells.total) :
    ∃ cell ∈ cells, walk wanted cells = some cell.1 := by
  induction cells generalizing wanted with
  | nil => exact absurd enough (not_le.mpr positive)
  | cons first cells ih =>
      obtain ⟨start, amount⟩ := first
      unfold walk
      split_ifs with reached
      · exact ⟨(start, amount), List.mem_cons_self, rfl⟩
      · rw [Ledger.total_cons] at enough
        obtain ⟨cell, inside, found⟩ := ih (show 0 < wanted - amount by omega) (by omega)
        exact ⟨cell, List.mem_cons_of_mem _ inside, found⟩

/-- More latencies have been counted at the same cell or a later one. -/
theorem walk_mono (sorted : cells.IsSorted)
    (ordered : fewer ≤ more) (positive : 0 < fewer) (enough : more ≤ cells.total) :
    ∃ earlier later, walk fewer cells = some earlier ∧ walk more cells = some later ∧
      earlier ≤ later := by
  induction cells generalizing fewer more with
  | nil => exact absurd enough (by simp [Ledger.total]; omega)
  | cons first cells ih =>
      obtain ⟨start, amount⟩ := first
      obtain ⟨above, rest⟩ := List.pairwise_cons.mp sorted
      rw [Ledger.total_cons] at enough
      unfold walk
      split_ifs with fewerReached moreReached moreReached
      · exact ⟨start, start, rfl, rfl, le_rfl⟩
      · obtain ⟨cell, inside, found⟩ :=
          exists_walk_eq (show 0 < more - amount by omega)
            (show more - amount ≤ Ledger.total cells by omega)
        exact ⟨start, cell.1, rfl, found, (above cell inside).le⟩
      · omega
      · exact ih rest (by omega) (by omega) (by omega)

end Walk

section Rank

variable (histogram : Histogram)

/-- The least natural number that is not below a magnitude. -/
theorem ceilMagnitude_eq (significand : ℕ) (exponent : ℤ) :
    ceilMagnitude significand exponent = ⌈(significand * 2 ^ exponent : ℚ)⌉₊ := by
  have positive : 0 < scale exponent := Nat.two_pow_pos _
  have counted : (0 : ℚ) < scale exponent := by exact_mod_cast positive
  apply eq_of_forall_ge_iff
  intro bound
  rw [Nat.ceil_le, ← numerator_div_scale, div_le_iff₀ counted, ceilMagnitude,
    Nat.div_le_iff_le_mul positive]
  have whole : (numerator significand exponent : ℚ) ≤ bound * scale exponent ↔
      numerator significand exponent ≤ bound * scale exponent := by
    exact_mod_cast Iff.rfl
  rw [whole]
  omega

/-- A share of all is less than all of them by a hundred and twenty-eighth at least. -/
structure IsShare (share : Float) : Prop where
  finite : share.isFinite
  nonneg : 0 ≤ rational share
  le : rational share ≤ 127 / 128

theorem IsShare.of_le {share : Float} (finite : share.isFinite) (nonneg : 0.0 ≤ share)
    (le : share ≤ Word.toFloat 127 / Word.toFloat 128) : IsShare share where
  finite := finite
  nonneg := (zero_le_iff_rational finite).mp nonneg
  le := by
    obtain ⟨quotientFinite, same⟩ :=
      rational_toFloat_div (show 127 ≤ 2 ^ 53 by decide) (show 128 ≤ 2 ^ 53 by decide) (by decide)
    rw [rational_le_iff finite quotientFinite, same] at le
    have kept := nearest_eq_of_fits (show 127 < 2 ^ 53 by decide) (show -1074 ≤ (-7 : ℤ) by decide)
    have exact : ((127 : ℕ) * 2 ^ (-7 : ℤ) : ℚ) = (127 : ℕ) / (128 : ℕ) := by norm_num
    rw [exact, ← rounded_of_nonneg (by positivity)] at kept
    rw [kept] at le
    exact_mod_cast le

section Share

variable {share : Float} (isShare : IsShare share)

include isShare

/-- A share of the latencies is the exact one, rounded. -/
theorem rational_share :
    (share * Word.toFloat histogram.count).isFinite ∧
      rational (share * Word.toFloat histogram.count) =
        rounded (rational share * rational (Word.toFloat histogram.count)) := by
  obtain ⟨countFinite, countNonneg, countLe⟩ := toFloat_mem histogram.count
  refine rational_mul isShare.finite countFinite (abs_rounded_lt_bound 64 ?_ (by decide))
  rw [abs_of_nonneg (mul_nonneg isShare.nonneg countNonneg)]
  have one : rational share ≤ 1 := isShare.le.trans (by norm_num)
  exact (mul_le_of_le_one_left countNonneg one).trans countLe

theorem rank_eq :
    histogram.rank share =
      max 1 ⌈rounded (rational share * rational (Word.toFloat histogram.count))⌉₊ := by
  obtain ⟨finite, product⟩ := histogram.rational_share isShare
  have nonneg : 0 ≤ rational (share * Word.toFloat histogram.count) := by
    rw [product]
    exact rounded_nonneg (mul_nonneg isShare.nonneg (toFloat_mem histogram.count).2.1)
  rw [← product]
  unfold rank
  rw [rational_eq] at nonneg ⊢
  unfold ofFloat
  rcases eq_zero_or_positive finite nonneg with
    ⟨sign, zero⟩ | ⟨significand, exponent, nonzero, same⟩
  · rw [zero]
    cases sign <;> simp [partsValue, ceilMagnitude_eq]
  · rw [same, partsValue_positive]
    dsimp only
    rw [ceilMagnitude_eq]

theorem rank_pos : 0 < histogram.rank share := by
  rw [histogram.rank_eq isShare]
  exact lt_max_of_lt_left Nat.zero_lt_one

/-- No share is greater than the number of latencies, although the number and the share of it are
rounded. -/
theorem rank_le_count (some : 0 < histogram.count) : histogram.rank share ≤ histogram.count := by
  rw [histogram.rank_eq isShare, max_le_iff]
  refine ⟨some, Nat.ceil_le.mpr ?_⟩
  obtain ⟨word, small, le, same⟩ : ∃ word ≤ Word.maxCount, word ≤ histogram.count ∧
      Word.toFloat histogram.count = Word.toFloat word := by
    rcases le_or_gt histogram.count Word.maxCount with fits | great
    · exact ⟨histogram.count, fits, le_rfl, rfl⟩
    · obtain ⟨word, small, same⟩ := exists_word histogram.count
      exact ⟨word, small, small.trans great.le, same⟩
  have counted : IsNear (1 / 2 ^ 52) word (rational (Word.toFloat word)) := by
    rw [rational_toFloat small]
    exact isNear_nearest_natCast word
  have part := counted.mul_right (show (0 : ℚ) ≤ 127 / 128 by norm_num)
  have exact : (word * (127 / 128) : ℚ) = (127 * word : ℕ) / (128 : ℕ) := by
    push_cast
    ring
  have rounding := part.rounded (by norm_num)
    (exact ▸ quotient_eq_zero_or_le (127 * word) (show 0 < 128 by decide) (by decide))
  have nonneg := (toFloat_mem word).2.1
  rw [same]
  calc rounded (rational share * rational (Word.toFloat word))
      ≤ rounded (rational (Word.toFloat word) * (127 / 128)) := by
        apply rounded_mono
        rw [mul_comm]
        exact mul_le_mul_of_nonneg_left isShare.le nonneg
    _ ≤ word := by
        have high := rounding.bounds.2
        have wordNonneg : (0 : ℚ) ≤ word := Nat.cast_nonneg word
        linarith
    _ ≤ histogram.count := by exact_mod_cast le

end Share

/-- A greater share has no smaller rank. -/
theorem rank_mono {fewer more : Float} (isFewer : IsShare fewer) (isMore : IsShare more)
    (ordered : fewer ≤ more) : histogram.rank fewer ≤ histogram.rank more := by
  rw [rational_le_iff isFewer.finite isMore.finite] at ordered
  rw [histogram.rank_eq isFewer, histogram.rank_eq isMore]
  have product := mul_le_mul_of_nonneg_right ordered (toFloat_mem histogram.count).2.1
  exact max_le_max_left 1 (Nat.ceil_mono (rounded_mono product))

end Rank

section Quantile

variable {histogram : Histogram} (some : 0 < histogram.count)

include some

/-- A quantile is the greatest latency of one of the cells. -/
theorem exists_quantile_eq {share : Float} (isShare : IsShare share) :
    ∃ cell ∈ histogram.cells, histogram.quantile share = cellStop cell.1 := by
  obtain ⟨cell, inside, found⟩ :=
    exists_walk_eq (histogram.rank_pos isShare) (histogram.rank_le_count isShare some)
  refine ⟨cell, inside, ?_⟩
  unfold quantile
  rw [found]

/-- A greater share of the latencies has no smaller quantile. -/
theorem quantile_mono (sorted : histogram.cells.IsSorted)
    {fewer more : Float} (isFewer : IsShare fewer) (isMore : IsShare more)
    (ordered : fewer ≤ more) : histogram.quantile fewer ≤ histogram.quantile more := by
  obtain ⟨earlier, later, earlierFound, laterFound, before⟩ :=
    walk_mono sorted (histogram.rank_mono isFewer isMore ordered) (histogram.rank_pos isFewer)
      (histogram.rank_le_count isMore some)
  unfold quantile
  rw [earlierFound, laterFound]
  exact cellStop_mono before

/-- The milliseconds of a quantile are the exact ones, rounded. -/
theorem rational_quantileMillis {share : Float} (small : histogram.quantile share ≤ 2 ^ 53) :
    (histogram.quantileMillis share).isFinite ∧
      rational (histogram.quantileMillis share) = rounded (histogram.quantile share / 1000) := by
  have quotient := rational_toFloat_div small (show 1000 ≤ 2 ^ 53 by decide) (by decide)
  unfold quantileMillis
  rw [if_neg some.ne', Span.toFloat_thousand]
  rwa [Nat.cast_ofNat] at quotient

end Quantile

end ArrivalRamp.Histogram
