/-!
JSON values.
-/

namespace ArrivalRamp

/-- A JSON value. The members of an object stand in the order of their names. -/
inductive Json where
  | null
  | boolean (value : Bool)
  | integer (value : Int)
  | decimal (value : Float)
  | text (value : String)
  | array (items : List Json)
  | object (members : List (String × Json))
  deriving Inhabited

namespace Json

/-- The members with one more, at its place by name. A member of the same name is replaced. -/
def insertMember (name : String) (value : Json) : List (String × Json) → List (String × Json)
  | [] => [(name, value)]
  | member :: members =>
    if name < member.1 then (name, value) :: member :: members
    else if name = member.1 then (name, value) :: members
    else member :: insertMember name value members

/-- An object from members in any order, of which the last of one name counts. -/
def ofMembers (members : List (String × Json)) : Json :=
  .object (members.foldl (fun sorted member => insertMember member.1 member.2 sorted) [])

/-- The member of a name. -/
def member? (name : String) : Json → Option Json
  | .object members => members.lookup name
  | _ => none

end Json

end ArrivalRamp
