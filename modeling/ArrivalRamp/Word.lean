/-!
Counts and instants that fit in 64 bits.
-/

namespace ArrivalRamp.Word

/-- The number of words. -/
def size : Nat := 0x10000000000000000

/-- The greatest count. -/
def maxCount : Nat := 0xFFFFFFFFFFFFFFFF

/-- The greatest instant. -/
def maxInstant : Int := 0x7FFFFFFFFFFFFFFF

/-- The least instant. -/
def minInstant : Int := -0x8000000000000000

/-- A sum of counts stops at the greatest count. -/
def addCount (left right : Nat) : Nat :=
  min (left + right) maxCount

theorem addCount_le (left right : Nat) : addCount left right ≤ maxCount :=
  Nat.min_le_right _ _

theorem addCount_of_le {left right : Nat} (fits : left + right ≤ maxCount) :
    addCount left right = left + right :=
  Nat.min_eq_left fits

/-- Counts can be added before or after the sum stops at the greatest count. -/
theorem addCount_addCount (left middle right : Nat) :
    addCount (addCount left middle) right = addCount left (middle + right) := by
  unfold addCount
  omega

/-- An instant outside the range moves to its nearer end. -/
def clampInstant (value : Int) : Int :=
  max minInstant (min value maxInstant)

theorem clampInstant_of_mem {value : Int} (low : minInstant ≤ value) (high : value ≤ maxInstant) :
    clampInstant value = value := by
  unfold clampInstant
  omega

/-- A count read as a signed word: the upper half of the counts is negative. -/
def signed (count : Nat) : Int :=
  Int.bmod count size

theorem signed_of_le {count : Nat} (small : (count : Int) ≤ maxInstant) :
    signed count = count := by
  unfold signed maxInstant size at *
  rw [Int.bmod_eq_of_le] <;> omega

/-- The binary64 number nearest to a count. -/
def toFloat (count : Nat) : Float :=
  (UInt64.ofNat count).toFloat

end ArrivalRamp.Word
