/-!
Blank characters and trimming.
-/

namespace ArrivalRamp.Text

/-- A character is blank when it has the Unicode property White_Space. -/
def isBlank (character : Char) : Bool :=
  let point := character.toNat
  (9 ≤ point && point ≤ 13) || point == 0x20 || point == 0x85 || point == 0xA0 ||
    point == 0x1680 || (0x2000 ≤ point && point ≤ 0x200A) || point == 0x2028 ||
    point == 0x2029 || point == 0x202F || point == 0x205F || point == 0x3000

theorem isBlank_of_isWhitespace (character : Char) (blank : character.isWhitespace = true) :
    isBlank character = true := by
  simp only [Char.isWhitespace, Bool.or_eq_true, decide_eq_true_eq] at blank
  rcases blank with ((rfl | rfl) | rfl) | rfl <;> decide

/-- The text without its longest start of dropped characters. -/
def trimStart (drops : Char → Bool) (text : List Char) : List Char :=
  text.dropWhile drops

/-- The text without its longest end of dropped characters. -/
def trimEnd (drops : Char → Bool) (text : List Char) : List Char :=
  (text.reverse.dropWhile drops).reverse

/-- The text without dropped characters at either end. -/
def trim (drops : Char → Bool) (text : List Char) : List Char :=
  trimEnd drops (trimStart drops text)

/-- The text without blanks at either end. -/
def trimBlanks (text : String) : String :=
  String.ofList (trim isBlank text.toList)

end ArrivalRamp.Text
