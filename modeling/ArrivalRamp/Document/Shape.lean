import ArrivalRamp.Document.Mismatch
import ArrivalRamp.Json.Basic

/-!
Records with named fields, and what a document format has to offer to be read as one.
-/

namespace ArrivalRamp.Document

/-- A field of a record: its name, other names for it, whether it must be there, and how its value
is read into the record. -/
structure Field (Reader : Type → Type) (Record : Type) where
  name : String
  aliases : List String
  required : Bool
  read : Record → Reader Record

/-- A record by its title, the record without any field, and its fields in order. -/
structure Shape (Reader : Type → Type) (Record : Type) where
  title : String
  start : Record
  fields : List (Field Reader Record)

namespace Shape

variable {Reader : Type → Type} {Record : Type}

/-- The field of a name or of another name for it. -/
def field? (shape : Shape Reader Record) (name : String) : Option (Field Reader Record) :=
  shape.fields.find? fun field => field.name == name || field.aliases.contains name

/-- The first required field that has not been seen. -/
def missing? (shape : Shape Reader Record) (seen : List String) : Option String :=
  (shape.fields.find? fun field => field.required && !seen.contains field.name).map Field.name

/-- What a list must be to hold the fields in order. -/
def listDescription (shape : Shape Reader Record) : String :=
  shape.title ++ " with " ++ Decimal.natural shape.fields.length ++ " elements"

end Shape

/-- A document format that values of each kind can be read from. A count names the width of the
words that hold it. -/
class Format (Reader : Type → Type) extends Monad Reader where
  text : Reader String
  count : String → Reader Nat
  flag : Reader Bool
  json : Reader Json
  optional {Value : Type} : Reader Value → Reader (Option Value)
  list {Value : Type} : Reader Value → Reader (List Value)
  dictionary {Value : Type} : Reader Value → Reader (List (String × Value))
  record {Record : Type} : Shape Reader Record → Reader Record

/-- A field that may be left out or empty. -/
def Field.optional {Reader : Type → Type} [Format Reader] {Record Value : Type} (name : String)
    (aliases : List String) (read : Reader Value) (store : Record → Option Value → Record) :
    Field Reader Record where
  name := name
  aliases := aliases
  required := false
  read record := do return store record (← Format.optional read)

/-- A field that must be there. -/
def Field.mandatory {Reader : Type → Type} [Format Reader] {Record Value : Type} (name : String)
    (read : Reader Value) (store : Record → Value → Record) : Field Reader Record where
  name := name
  aliases := []
  required := true
  read record := do return store record (← read)

end ArrivalRamp.Document
