import ArrivalRamp.Decimal.Shortest

/-!
Binary64 numbers with a fixed number of decimals.
-/

namespace ArrivalRamp.Decimal

/-- The exact value rounded to a number of decimals, a half to the even neighbour. The sign stays
when the digits are all zero. -/
def fixed (places : Nat) (value : Float) : String :=
  match Binary64.ofFloat value with
  | .finite negative significand exponent =>
    let scaled := Binary64.roundDiv .toEven
      (Binary64.numerator significand exponent * Nat.pow 10 places) (Binary64.scale exponent)
    let numeral := padded (places + 1) scaled
    let whole := numeral.take (numeral.length - places)
    let decimals := numeral.drop (numeral.length - places)
    String.ofList
      ((if negative then ['-'] else []) ++ whole ++
        (if places = 0 then [] else '.' :: decimals))
  | other => Layout.plain.special other

end ArrivalRamp.Decimal
