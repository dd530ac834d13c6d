/-!
Columns of text.
-/

namespace ArrivalRamp.Text

/-- A text moved to the right end of a column that counts characters. -/
def alignRight (width : Nat) (text : String) : String :=
  String.ofList (List.replicate (width - text.length) ' ') ++ text

/-- A text at the left end of a column that counts characters. -/
def alignLeft (width : Nat) (text : String) : String :=
  text ++ String.ofList (List.replicate (width - text.length) ' ')

end ArrivalRamp.Text
