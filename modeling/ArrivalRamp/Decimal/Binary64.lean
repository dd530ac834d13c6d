/-!
Binary64 numbers as exact fractions: each finite number is a signed multiple of a power of two.
-/

namespace ArrivalRamp

/-- A binary64 number by its meaning. -/
inductive Binary64 where
  | notANumber
  | infinite (negative : Bool)
  | finite (negative : Bool) (significand : Nat) (exponent : Int)

namespace Binary64

/-- A finite number decodes to its significand and the exponent of two that scales it. -/
def ofFloat (value : Float) : Binary64 :=
  match value.toModel.unpack with
  | .notANumber => .notANumber
  | .infinity .positive => .infinite false
  | .infinity .negative => .infinite true
  | .zero .positive => .finite false 0 0
  | .zero .negative => .finite true 0 0
  | .finite .positive significand exponent _ => .finite false significand exponent
  | .finite .negative significand exponent _ => .finite true significand exponent

/-- Which neighbour a value halfway between two has. -/
inductive Tie where
  | toEven
  | away

/-- The quotient rounded to nearest. -/
def roundDiv (tie : Tie) (numerator denominator : Nat) : Nat :=
  let quotient := numerator / denominator
  let twice := 2 * (numerator % denominator)
  if twice < denominator then quotient
  else if denominator < twice then quotient + 1
  else match tie with
    | .toEven => quotient + quotient % 2
    | .away => quotient + 1

/-- The numerator of a magnitude over `scale exponent`. -/
def numerator (significand : Nat) (exponent : Int) : Nat :=
  significand * Nat.pow 2 exponent.toNat

/-- The denominator that a negative exponent of two leaves. -/
def scale (exponent : Int) : Nat :=
  Nat.pow 2 (-exponent).toNat

/-- A magnitude rounded to the nearest natural number, halves upward. -/
def roundMagnitude (significand : Nat) (exponent : Int) : Nat :=
  roundDiv .away (numerator significand exponent) (scale exponent)

/-- The least natural number that is not below a magnitude. -/
def ceilMagnitude (significand : Nat) (exponent : Int) : Nat :=
  (numerator significand exponent + (scale exponent - 1)) / scale exponent

/-- The number is finite and has no fraction. -/
def isWhole (value : Float) : Bool :=
  match ofFloat value with
  | .finite _ significand exponent => numerator significand exponent % scale exponent = 0
  | _ => false

/-- The greatest word of 32 bits. -/
def maxWord32 : Nat := 0xFFFFFFFF

/-- A number without its fraction as a word of 32 bits. One outside of the range moves to its nearer
end, and what is no number becomes zero. -/
def toWord32 (value : Float) : Nat :=
  match ofFloat value with
  | .finite false significand exponent =>
    min (numerator significand exponent / scale exponent) maxWord32
  | .infinite false => maxWord32
  | _ => 0

end Binary64

end ArrivalRamp
