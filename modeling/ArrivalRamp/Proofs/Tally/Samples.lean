import ArrivalRamp.Proofs.Tally.Rank
import Mathlib.Algebra.Order.Floor.Div

/-!
The latencies that a histogram stands for. It keeps how many of them lie in each cell, and so the
cell of each of them in their order.
-/

namespace ArrivalRamp.Histogram

section Cells

variable {cells : Ledger ℕ ℕ}

theorem cellStart_mono {fewer more : ℕ} (ordered : fewer ≤ more) :
    cellStart fewer ≤ cellStart more := by
  rcases Nat.eq_zero_or_pos fewer with rfl | positive
  · exact (cellStart_le 0).trans (Nat.zero_le _)
  have log : fewer.log2 ≤ more.log2 := by
    rw [Nat.le_log2 (by omega)]
    exact (Nat.log2_self_le positive.ne').trans ordered
  rcases log.eq_or_lt with same | less
  · have dropped : droppedBits fewer = droppedBits more := by rw [droppedBits, same, droppedBits]
    rw [cellStart_eq, cellStart_eq, dropped]
    exact Nat.mul_le_mul_right _ (Nat.div_le_div_right ordered)
  · have nonzero : cellStart more ≠ 0 := by
      intro zero
      have digits := log2_cellStart more
      rw [zero, Nat.log2_zero] at digits
      omega
    calc cellStart fewer ≤ fewer := cellStart_le fewer
      _ ≤ 2 ^ (fewer.log2 + 1) := Nat.lt_log2_self.le
      _ ≤ 2 ^ (cellStart more).log2 := by
        rw [log2_cellStart]
        exact Nat.pow_le_pow_right (by decide) less
      _ ≤ cellStart more := Nat.log2_self_le nonzero

/-- A cell stops at its only latency, or it is narrower than a hundred and twenty-eighth of each. -/
theorem cellStop_cellStart_mem (latency : ℕ) :
    (latency < 256 → cellStop (cellStart latency) = latency) ∧
      (256 ≤ latency → latency ≤ cellStop (cellStart latency) ∧
        128 * cellStop (cellStart latency) < 129 * latency) := by
  have above := le_cellStop_cellStart latency
  have below := cellStart_le latency
  refine ⟨fun small => ?_, fun great => ⟨above, ?_⟩⟩
  · have digits : latency.log2 < 8 := by
      rcases Nat.eq_zero_or_pos latency with rfl | positive
      · decide
      · rwa [Nat.log2_lt positive.ne']
    have none : droppedBits latency = 0 := by
      unfold droppedBits
      omega
    have same : cellStart latency = latency := by
      rw [cellStart_eq, none, pow_zero, Nat.div_one, Nat.mul_one]
    rw [same, cellStop, none]
    rfl
  · rcases cellStop_le (cellStart latency) with same | narrow <;> omega

/-- The latencies of cells, each of them as the least one of its cell. -/
def expand (cells : Ledger ℕ ℕ) : List ℕ :=
  cells.flatMap fun cell => List.replicate cell.2 cell.1

@[simp]
theorem expand_cons (cell : ℕ × ℕ) (cells : Ledger ℕ ℕ) :
    expand (cell :: cells) = List.replicate cell.2 cell.1 ++ expand cells :=
  List.flatMap_cons

theorem length_expand (cells : Ledger ℕ ℕ) : (expand cells).length = cells.total := by
  induction cells with
  | nil => rfl
  | cons cell cells ih =>
      rw [expand_cons, List.length_append, List.length_replicate, ih, Ledger.total_cons]

theorem count_expand (cells : Ledger ℕ ℕ) (start : ℕ) :
    (expand cells).count start = cells.measuredAt start id := by
  induction cells with
  | nil => rfl
  | cons cell cells ih =>
      rw [expand_cons, List.count_append, ih, List.count_replicate, Ledger.measuredAt_cons]
      simp

theorem mem_expand {start : ℕ} (inside : start ∈ expand cells) :
    ∃ cell ∈ cells, start = cell.1 := by
  obtain ⟨cell, cellInside, replicated⟩ := List.mem_flatMap.mp inside
  exact ⟨cell, cellInside, List.eq_of_mem_replicate replicated⟩

theorem fst_mem_expand {cell : ℕ × ℕ} (inside : cell ∈ cells) (positive : 0 < cell.2) :
    cell.1 ∈ expand cells :=
  List.mem_flatMap.mpr ⟨cell, inside, List.mem_replicate.mpr ⟨positive.ne', rfl⟩⟩

/-- No latency lies behind the last cell. -/
theorem le_of_mem_expand {last : ℕ × ℕ} {start : ℕ} (sorted : cells.IsSorted)
    (found : cells.getLast? = some last) (inside : start ∈ expand cells) : start ≤ last.1 := by
  obtain ⟨cell, cellInside, rfl⟩ := mem_expand inside
  obtain ⟨before, rfl⟩ := List.getLast?_eq_some_iff.mp found
  rw [Ledger.IsSorted, List.pairwise_append] at sorted
  rcases List.mem_append.mp cellInside with earlier | same
  · exact (sorted.2.2 cell earlier last (List.mem_singleton_self last)).le
  · rw [List.mem_singleton.mp same]

theorem pairwise_expand (sorted : cells.IsSorted) : (expand cells).Pairwise (· ≤ ·) := by
  induction cells with
  | nil => exact List.Pairwise.nil
  | cons cell cells ih =>
      obtain ⟨above, rest⟩ := List.pairwise_cons.mp sorted
      rw [expand_cons, List.pairwise_append]
      refine ⟨List.pairwise_replicate.mpr (.inr le_rfl), ih rest, ?_⟩
      intro first firstInside second secondInside
      obtain ⟨cell, cellInside, rfl⟩ := mem_expand secondInside
      rw [List.eq_of_mem_replicate firstInside]
      exact (above cell cellInside).le

/-- The cell at which a number of latencies has been counted is that of the last of them. -/
theorem walk_eq {wanted : ℕ} (positive : 0 < wanted) :
    walk wanted cells = (expand cells)[wanted - 1]? := by
  induction cells generalizing wanted with
  | nil => rfl
  | cons cell cells ih =>
      obtain ⟨start, amount⟩ := cell
      rw [walk, expand_cons]
      split_ifs with reached
      · rw [List.getElem?_append_left (by rw [List.length_replicate]; omega),
          List.getElem?_replicate, if_pos (by omega)]
      · rw [List.getElem?_append_right (by rw [List.length_replicate]; omega),
          List.length_replicate, ih (by omega), Nat.sub_right_comm]

end Cells

section Filed

/-- The cells of a histogram stand in their order, and each of them has latencies. -/
structure IsFiled (histogram : Histogram) : Prop where
  sorted : histogram.cells.IsSorted
  positive : ∀ cell ∈ histogram.cells, 0 < cell.2

theorem isFiled_empty : empty.IsFiled where
  sorted := List.Pairwise.nil
  positive cell inside := by cases inside

variable {histogram other : Histogram}

theorem IsFiled.record (filed : histogram.IsFiled) (latency : ℕ) :
    (histogram.record latency).IsFiled where
  sorted := filed.sorted.alter _ _
  positive := by
    refine Ledger.forall_mem_alter (fun _ amount => 0 < amount) filed.positive ?_ ?_
    · exact Nat.zero_lt_one
    · exact fun amount positive => Nat.lt_add_right 1 positive

theorem IsFiled.add (filed : histogram.IsFiled) (otherFiled : other.IsFiled) :
    (histogram.add other).IsFiled where
  sorted := filed.sorted.merge (fun amount found => found.getD 0 + amount) _
  positive := by
    refine Ledger.forall_mem_merge (fun amount found => found.getD 0 + amount)
      (fun _ amount => 0 < amount) filed.positive otherFiled.positive ?_ ?_
    · exact fun _ amount positive => Nat.lt_add_left 0 positive
    · exact fun _ amount found _ positive => Nat.lt_add_right amount positive

/-- The number of latencies in a cell. -/
def amount (start : ℕ) (histogram : Histogram) : ℕ :=
  histogram.cells.measuredAt start id

theorem amount_record (start latency : ℕ) (histogram : Histogram) :
    (histogram.record latency).amount start =
      histogram.amount start + if cellStart (kept latency) = start then 1 else 0 :=
  Ledger.measuredAt_alter (Nat.zero_add 1) (fun _ => rfl) histogram.cells

theorem amount_add (start : ℕ) (histogram other : Histogram) :
    (histogram.add other).amount start = histogram.amount start + other.amount start :=
  Ledger.measuredAt_merge (fun amount found => found.getD 0 + amount) Nat.zero_add
    (fun _ _ => rfl) other.cells histogram.cells

end Filed

section Holds

/-- The latency at the rank of a percentage of all, in the order of their lengths. -/
def nearestRank (percent : ℕ) (latencies : List ℕ) : Option ℕ :=
  latencies.mergeSort[(percent * latencies.length) ⌈/⌉ 100 - 1]?

/-- A histogram stands for latencies when it has as many as them in each cell. -/
structure Holds (histogram : Histogram) (latencies : List ℕ) : Prop where
  filed : histogram.IsFiled
  amount : ∀ start, histogram.amount start = (latencies.map cellStart).count start

namespace Holds

variable {histogram : Histogram} {latencies : List ℕ} (holds : histogram.Holds latencies)

include holds

theorem perm : (expand histogram.cells).Perm (latencies.map cellStart) :=
  List.perm_iff_count.mpr fun start => (count_expand _ start).trans (holds.amount start)

theorem count_eq : histogram.count = latencies.length := by
  rw [count, ← length_expand, holds.perm.length_eq, List.length_map]

/-- The cells stand in the order of the latencies. -/
theorem expand_eq : expand histogram.cells = latencies.mergeSort.map cellStart := by
  have ordered : latencies.mergeSort.Pairwise fun first second => decide (first ≤ second) :=
    List.pairwise_mergeSort (fun _ _ _ => by simpa using le_trans)
      (fun _ _ => by simpa using le_total _ _) latencies
  have sorted : (latencies.mergeSort.map cellStart).Pairwise (· ≤ ·) :=
    List.pairwise_map.mpr (ordered.imp fun before => cellStart_mono (of_decide_eq_true before))
  refine List.Perm.eq_of_pairwise (fun _ _ _ _ => le_antisymm) (pairwise_expand holds.filed.sorted)
    sorted (holds.perm.trans ?_)
  exact ((List.mergeSort_perm latencies _).map cellStart).symm

/-- A percentile is the end of the cell of the latency at its rank. -/
theorem exists_quantile_eq {percent : ℕ} {share : Float} (isPercent : IsPercent percent share)
    (positive : 0 < percent) (nonempty : latencies ≠ []) (few : latencies.length < 2 ^ 40) :
    ∃ latency, nearestRank percent latencies = some latency ∧
      histogram.quantile share = cellStop (cellStart latency) := by
  have length := List.length_pos_of_ne_nil nonempty
  have product : 0 < percent * latencies.length := Nat.mul_pos positive length
  have part := Nat.mul_le_mul_right latencies.length isPercent.le
  have rank : histogram.rank share = (percent * latencies.length) ⌈/⌉ 100 := by
    rw [isPercent.rank_eq positive (by rwa [holds.count_eq]) (by rwa [holds.count_eq]),
      holds.count_eq, Nat.ceilDiv_eq_add_pred_div]
    rfl
  have bounds : 0 < (percent * latencies.length) ⌈/⌉ 100 ∧
      (percent * latencies.length) ⌈/⌉ 100 ≤ latencies.length := by
    rw [Nat.ceilDiv_eq_add_pred_div]
    omega
  obtain ⟨latency, found⟩ : ∃ latency, nearestRank percent latencies = some latency :=
    ⟨_, List.getElem?_eq_getElem (by rw [List.length_mergeSort]; omega)⟩
  refine ⟨latency, found, ?_⟩
  have walked : walk (histogram.rank share) histogram.cells = some (cellStart latency) := by
    rw [rank, walk_eq bounds.1, holds.expand_eq, List.getElem?_map]
    exact congrArg (Option.map cellStart) found
  rw [quantile, walked]

/-- The last cell is that of the greatest latency. -/
theorem maximum_eq {longest : ℕ} (greatest : latencies.max? = some longest) :
    histogram.maximum = cellStop (cellStart longest) := by
  obtain ⟨inside, above⟩ := List.max?_eq_some_iff.mp greatest
  have own : cellStart longest ∈ expand histogram.cells :=
    holds.perm.mem_iff.mpr (List.mem_map_of_mem inside)
  obtain ⟨last, found⟩ : ∃ last, histogram.cells.getLast? = some last := by
    obtain ⟨cell, cellInside, -⟩ := mem_expand own
    exact ⟨_, List.getLast?_eq_some_getLast (List.ne_nil_of_mem cellInside)⟩
  have lastInside : last ∈ histogram.cells := List.mem_of_getLast? found
  have lastOwn := fst_mem_expand lastInside (holds.filed.positive last lastInside)
  obtain ⟨latency, latencyInside, latencyEq⟩ := List.mem_map.mp (holds.perm.mem_iff.mp lastOwn)
  have same : last.1 = cellStart longest :=
    le_antisymm (latencyEq ▸ cellStart_mono (above latency latencyInside))
      (le_of_mem_expand holds.filed.sorted found own)
  rw [maximum, found, ← same]

end Holds

end Holds

end ArrivalRamp.Histogram
