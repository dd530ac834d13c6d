import ArrivalRamp.Decimal.Binary64
import ArrivalRamp.Decimal.Natural
import ArrivalRamp.Text.Blank

/-!
The fewest decimal digits that read back as the same binary64 number.
-/

namespace ArrivalRamp.Decimal

/-- The significant digits of a positive number, and the place of its point counted from their
start: the number is `0.d₁d₂…` times ten to the power `point`. -/
structure Significant where
  figures : List Char
  point : Int

namespace Shortest

/-- The place of the point: the number lies below ten to this power and not below a tenth of it. -/
def pointOf (significand : Nat) (exponent : Int) : Int :=
  let whole := Binary64.numerator significand exponent / Binary64.scale exponent
  if whole ≠ 0 then (digits whole).length
  else
    let reciprocal := (Binary64.scale exponent + (significand - 1)) / significand
    1 - ((digits (reciprocal - 1)).length : Int)

/-- A number between its two rounding limits, all in quarters of its last binary place. -/
structure Interval where
  lower : Nat
  value : Nat
  upper : Nat
  closed : Bool
  exponent : Int

/-- The numbers that round to a magnitude. Just above a power of two the lower half is narrower,
and the limits belong to the interval when the significand is even. -/
def interval (significand : Nat) (exponent : Int) : Interval where
  lower := 4 * significand - (if significand = 0x10000000000000 && -1074 < exponent then 1 else 2)
  value := 4 * significand
  upper := 4 * significand + 2
  closed := significand % 2 = 0
  exponent := exponent - 2

/-- The multiple of ten to the power `grid` that is in the interval and nearest to its value. -/
def Interval.nearest? (range : Interval) (tie : Binary64.Tie) (grid : Int) : Option Nat :=
  let decimal := Nat.pow 10 grid.toNat * Nat.pow 2 (-range.exponent).toNat
  let binary := Nat.pow 2 range.exponent.toNat * Nat.pow 10 (-grid).toNat
  let below := range.value * binary / decimal
  let fits (candidate : Nat) : Bool :=
    if range.closed then
      range.lower * binary ≤ candidate * decimal && candidate * decimal ≤ range.upper * binary
    else
      range.lower * binary < candidate * decimal && candidate * decimal < range.upper * binary
  match fits below, fits (below + 1) with
  | true, true => some (Binary64.roundDiv tie (range.value * binary) decimal)
  | true, false => some below
  | false, true => some (below + 1)
  | false, false => none

/-- The fewest digits, found on the first grid that has a point in the interval. -/
def significant (tie : Binary64.Tie) (significand : Nat) (exponent : Int) : Significant :=
  let point := pointOf significand exponent
  let range := interval significand exponent
  let found := (List.range 17).findSome? fun count =>
    let grid := point - (count + 1 : Nat)
    (range.nearest? tie grid).map fun candidate => (candidate, grid)
  match found with
  | some (candidate, grid) =>
    let figures := digits candidate
    ⟨Text.trimEnd (· == '0') figures, figures.length + grid⟩
  | none => ⟨digits significand, point⟩

end Shortest

/-- How a number is laid out around its point. -/
structure Layout where
  /-- Which of two equally near digits is written. -/
  tie : Binary64.Tie
  /-- The places of the point that are written without an exponent. -/
  positional : Int → Bool
  /-- A whole number keeps a point and one zero. -/
  keepsPoint : Bool
  /-- The text of an infinity and of a value that is no number. -/
  special : Binary64 → String

/-- Plain text: never an exponent, no point in a whole number. -/
def Layout.plain : Layout where
  tie := .away
  positional := fun _ => true
  keepsPoint := false
  special
    | .infinite false => "inf"
    | .infinite true => "-inf"
    | _ => "NaN"

/-- JSON text: an exponent below a hundred thousandth and from ten to the sixteenth on, a point in
every other number, and no text for what JSON cannot write. -/
def Layout.json : Layout where
  tie := .toEven
  positional := fun point => -4 ≤ point && point ≤ 16
  keepsPoint := true
  special := fun _ => "null"

/-- The digits with a point at its place and zeros up to it. -/
def Significant.positional (number : Significant) (keepsPoint : Bool) : List Char :=
  let count := (number.figures.length : Int)
  if number.point ≤ 0 then
    '0' :: '.' :: List.replicate (-number.point).toNat '0' ++ number.figures
  else if count ≤ number.point then
    number.figures ++ List.replicate (number.point - count).toNat '0' ++
      (if keepsPoint then ['.', '0'] else [])
  else
    number.figures.take number.point.toNat ++ '.' :: number.figures.drop number.point.toNat

/-- One digit before the point and a signed exponent of ten. -/
def Significant.scientific (number : Significant) : List Char :=
  let exponent := number.point - 1
  let mantissa := match number.figures with
    | first :: second :: others => first :: '.' :: second :: others
    | figures => figures
  mantissa ++ 'e' :: (if exponent < 0 then '-' else '+') :: digits exponent.natAbs

/-- The text of a binary64 number in a layout. -/
def Layout.write (layout : Layout) (value : Float) : String :=
  match Binary64.ofFloat value with
  | .finite negative significand exponent =>
    let sign := if negative then ['-'] else []
    let body :=
      if significand = 0 then '0' :: (if layout.keepsPoint then ['.', '0'] else [])
      else
        let number := Shortest.significant layout.tie significand exponent
        if layout.positional number.point then number.positional layout.keepsPoint
        else number.scientific
    String.ofList (sign ++ body)
  | other => layout.special other

end ArrivalRamp.Decimal
