import ArrivalRamp.Decimal.Binary64
import ArrivalRamp.Ledger
import ArrivalRamp.Word

/-!
Histograms of latencies in microseconds. A latency keeps its eight leading bits, so each cell is
narrower than a hundred and twenty-eighth of its values.
-/

namespace ArrivalRamp

/-- The counts of latencies, by the least latency of their cell. -/
structure Histogram where
  cells : Ledger Nat Nat
  deriving DecidableEq, Repr

namespace Histogram

/-- A histogram without latencies. -/
def empty : Histogram := ⟨[]⟩

/-- The greatest latency that has a cell of its own. -/
def greatest : Nat := 4294967295

/-- The latency that stands for every greater one. -/
def overflow : Nat := 3600000000

/-- The number of bits below the eight leading ones. -/
def droppedBits (latency : Nat) : Nat :=
  latency.log2 - 7

/-- The least latency of the cell of a latency. -/
def cellStart (latency : Nat) : Nat :=
  latency >>> droppedBits latency <<< droppedBits latency

/-- The greatest latency of a cell. -/
def cellStop (start : Nat) : Nat :=
  start + Nat.pow 2 (droppedBits start) - 1

/-- One more latency. -/
def record (latency : Nat) (histogram : Histogram) : Histogram :=
  ⟨histogram.cells.count (cellStart (if latency ≤ greatest then latency else overflow)) 1⟩

/-- The latencies of both histograms. -/
def add (left right : Histogram) : Histogram :=
  ⟨right.cells.foldl (fun cells cell => cells.count cell.1 cell.2) left.cells⟩

/-- The number of latencies. -/
def count (histogram : Histogram) : Nat :=
  histogram.cells.total

@[simp]
theorem count_empty : empty.count = 0 := rfl

@[simp]
theorem count_record (latency : Nat) (histogram : Histogram) :
    (histogram.record latency).count = histogram.count + 1 := by
  simp [record, count]

@[simp]
theorem count_add (left right : Histogram) :
    (left.add right).count = left.count + right.count := by
  obtain ⟨cells⟩ := right
  unfold add count
  dsimp only
  induction cells generalizing left with
  | nil => simp [Ledger.total]
  | cons cell cells step =>
    obtain ⟨start, amount⟩ := cell
    have inner := step ⟨left.cells.count start amount⟩
    simp only [List.foldl_cons, Ledger.total_cons] at *
    simp only [Ledger.total_count] at inner
    omega

/-- The first cell at which a number of latencies has been counted. -/
def walk (wanted : Nat) : Ledger Nat Nat → Option Nat
  | [] => none
  | (start, amount) :: cells =>
    if wanted ≤ amount then some start else walk (wanted - amount) cells

/-- How many latencies make up a share of all. At least one does. -/
def rank (share : Float) (histogram : Histogram) : Nat :=
  match Binary64.ofFloat (share * Word.toFloat histogram.count) with
  | .finite false significand exponent => max 1 (Binary64.ceilMagnitude significand exponent)
  | _ => 1

/-- The greatest latency of the cell that completes a share of all. -/
def quantile (share : Float) (histogram : Histogram) : Nat :=
  match walk (histogram.rank share) histogram.cells with
  | some start => cellStop start
  | none => 0

/-- The greatest latency of the last cell. -/
def maximum (histogram : Histogram) : Nat :=
  match histogram.cells.getLast? with
  | some (start, _) => cellStop start
  | none => 0

/-- The quantile in milliseconds, or zero when there is no latency. -/
def quantileMillis (share : Float) (histogram : Histogram) : Float :=
  if histogram.count = 0 then 0.0 else Word.toFloat (histogram.quantile share) / 1000.0

/-- The maximum in milliseconds, or zero when there is no latency. -/
def maximumMillis (histogram : Histogram) : Float :=
  if histogram.count = 0 then 0.0 else Word.toFloat histogram.maximum / 1000.0

end Histogram

end ArrivalRamp
