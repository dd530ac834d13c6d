import ArrivalRamp.Decimal.Reader
import ArrivalRamp.Document.Mismatch
import ArrivalRamp.Word
import ArrivalRamp.Yaml.Document

/-!
What scalars stand for: the names, integers and decimal numbers of the core schema.
-/

namespace ArrivalRamp.Yaml

open ArrivalRamp.Document (Found Mismatch)

/-- The value of a digit in a base. -/
def digitIn? (base : Nat) (digit : Char) : Option Nat :=
  (Decimal.hexDigit? digit).filter (· < base)

/-- The value of one or more digits in a base. -/
def numeralIn? (base : Nat) (numeral : List Char) : Option Nat :=
  if numeral.isEmpty then none
  else numeral.foldlM (fun value digit => do return base * value + (← digitIn? base digit)) 0

/-- The value of a numeral, in the base that its start names. -/
def magnitude? : List Char → Option Nat
  | '0' :: 'x' :: numeral => numeralIn? 16 numeral
  | '0' :: 'o' :: numeral => numeralIn? 8 numeral
  | '0' :: 'b' :: numeral => numeralIn? 2 numeral
  | numeral => numeralIn? 10 numeral

/-- A text without its sign. -/
def unsigned : List Char → List Char
  | '+' :: rest => rest
  | '-' :: rest => rest
  | text => text

/-- Digits after a leading zero are text. -/
def isPaddedDigits (text : List Char) : Bool :=
  match unsigned text with
  | '0' :: digit :: digits => (digit :: digits).all Char.isDigit
  | _ => false

/-- An integer with an optional sign. -/
def integer? (text : List Char) : Option Int :=
  if isPaddedDigits text then none
  else match text with
    | '-' :: numeral => (magnitude? numeral).map fun value => -(value : Int)
    | '+' :: numeral => (magnitude? numeral).map Int.ofNat
    | numeral => (magnitude? numeral).map Int.ofNat

/-- A count that a word holds. It has no minus. -/
def count? (text : List Char) : Option Nat :=
  match text with
  | '-' :: _ => none
  | _ =>
    match integer? text with
    | some (.ofNat value) => if value ≤ Word.maxCount then some value else none
    | _ => none

/-- A decimal number. Only names that start with a point mean values that are not finite. -/
def decimal? (text : List Char) : Option Float :=
  let unplussed := match text with
    | '+' :: rest => rest
    | _ => text
  let isSignedTwice := match text with
    | '+' :: '+' :: _ | '+' :: '-' :: _ => true
    | _ => false
  if isSignedTwice then none
  else if [".inf", ".Inf", ".INF"].contains (String.ofList unplussed) then some (1.0 / 0.0)
  else if ["-.inf", "-.Inf", "-.INF"].contains (String.ofList text) then some (-1.0 / 0.0)
  else if [".nan", ".NaN", ".NAN"].contains (String.ofList text) then some (0.0 / 0.0)
  else (Decimal.readFloat unplussed).filter Float.isFinite

/-- A name of nothing. -/
def isNull (text : String) : Bool :=
  ["null", "Null", "NULL", "~"].contains text

/-- A name of a truth value. -/
def boolean? (text : String) : Option Bool :=
  if ["true", "True", "TRUE"].contains text then some true
  else if ["false", "False", "FALSE"].contains text then some false
  else none

/-- The least integer that two words hold. -/
def leastWide : Int := -0x80000000000000000000000000000000

/-- The greatest integer that two words hold. -/
def greatestWide : Int := 0xFFFFFFFFFFFFFFFFFFFFFFFFFFFFFFFF

/-- An integer by the words that hold it. Beyond 128 bits there is none. -/
def foundInteger? (text : List Char) : Option Found :=
  (integer? text).bind fun value =>
    if Word.minInstant ≤ value && value ≤ Word.maxCount then some (.integer value)
    else if leastWide ≤ value && value ≤ greatestWide then some (.wideInteger value)
    else none

/-- What a plain scalar stands for. -/
def plain (text : String) : Found :=
  let characters := text.toList
  if text.isEmpty || isNull text then .nothing
  else match boolean? text, foundInteger? characters with
    | some value, _ => .boolean value
    | none, some value => value
    | none, none =>
      if isPaddedDigits characters then .text text
      else match decimal? characters with
        | some value => .decimal value
        | none => .text text

/-- The full name of a tag of the core schema. -/
def coreTag (name : String) : String :=
  "tag:yaml.org,2002:" ++ name

/-- The mismatch of a scalar that is not what its tag says. -/
def notTagged (text expected : String) : Mismatch :=
  .wrongValue (.text text) expected

/-- What a scalar stands for, in regard of its tag. -/
def scalarValue (tag : Option String) (text : String) (style : ScalarStyle) :
    Except Mismatch Found :=
  let untagged := if style = .plain then plain text else .text text
  match tag with
  | none => .ok untagged
  | some name =>
    if name = coreTag "bool" then
      match boolean? text with
      | some value => .ok (.boolean value)
      | none => .error (notTagged text "a boolean")
    else if name = coreTag "int" then
      match foundInteger? text.toList with
      | some value => .ok value
      | none => .error (notTagged text "an integer")
    else if name = coreTag "float" then
      match decimal? text.toList with
      | some value => .ok (.decimal value)
      | none => .error (notTagged text "a float")
    else if name = coreTag "null" then
      if isNull text then .ok .nothing else .error (notTagged text "null")
    else if name.startsWith "!" then .ok untagged
    else .ok (.text text)

end ArrivalRamp.Yaml
