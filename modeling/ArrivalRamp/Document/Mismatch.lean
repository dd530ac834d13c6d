import ArrivalRamp.Decimal.Natural
import ArrivalRamp.Text.Quoted

/-!
Why a document of correct form is not the record that it is read as.
-/

namespace ArrivalRamp.Document

/-- What stands in a document where something else is expected. -/
inductive Found where
  | boolean (value : Bool)
  | integer (value : Int)
  | wideInteger (value : Int)
  | decimal (value : Float)
  | text (value : String)
  | nothing
  | sequence
  | mapping
  | variant

/-- The wording in which a document format names what it holds. -/
structure Wording where
  nothing : String
  decimal : Float → String

/-- The words for what stands in a document. -/
def Found.describe (wording : Wording) : Found → String
  | .boolean true => "boolean " ++ "`true`"
  | .boolean false => "boolean " ++ "`false`"
  | .integer value => "integer `" ++ Decimal.integer value ++ "`"
  | .wideInteger value =>
    "integer `" ++ Decimal.integer value ++ (if value < 0 then "` as i128" else "` as u128")
  | .decimal value => "floating point `" ++ wording.decimal value ++ "`"
  | .text value => "string " ++ Text.quoted value
  | .nothing => wording.nothing
  | .sequence => "sequence"
  | .mapping => "map"
  | .variant => "enum"

/-- Why a document is not the record that it is read as. -/
inductive Mismatch where
  | wrongKind (found : Found) (expected : String)
  | wrongValue (found : Found) (expected : String)
  | wrongLength (length : Nat) (expected : String)
  | missing (field : String)
  | repeated (field : String)
  | outOfRange

/-- The message of a mismatch. -/
def Mismatch.message (wording : Wording) : Mismatch → String
  | .wrongKind found expected =>
    "invalid type: " ++ found.describe wording ++ ", expected " ++ expected
  | .wrongValue found expected =>
    "invalid value: " ++ found.describe wording ++ ", expected " ++ expected
  | .wrongLength length expected =>
    "invalid length " ++ Decimal.natural length ++ ", expected " ++ expected
  | .missing field => "missing field `" ++ field ++ "`"
  | .repeated field => "duplicate field `" ++ field ++ "`"
  | .outOfRange => "JSON number out of range"

end ArrivalRamp.Document
