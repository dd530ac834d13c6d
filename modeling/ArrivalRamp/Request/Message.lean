import ArrivalRamp.Request.Template
import ArrivalRamp.Text.Base64

/-!
Requests in the form in which they go over the network.
-/

namespace ArrivalRamp

/-- A request that is ready to be sent. The names of its headers are in small letters. -/
structure Message where
  method : String
  url : Url
  headers : Headers
  body : Option String
  deriving DecidableEq, Repr

/-- Why a planned request has no form for the network. -/
inductive MessageFault where
  | header
  | address (url : String)
  deriving DecidableEq, Repr

/-- The message of a fault. -/
def MessageFault.message : MessageFault → String
  | .header => "builder error"
  | .address url => "builder error for url (" ++ url ++ ")"

namespace Message

/-- A character may stand in the value of a header. -/
def isValueCharacter (character : Char) : Bool :=
  character = '\t' || (0x20 ≤ character.toNat && character.toNat ≠ 0x7F)

/-- A header has a name that is a token and a value on one line. -/
def isHeader (header : String × String) : Bool :=
  isToken header.1 && header.2.toList.all isValueCharacter

/-- The header for the user and the password in a URL. -/
def basicHeader (user : String) (password : Option String) : String × String :=
  (Headers.authorization,
    "Basic " ++ Text.base64Text (user ++ ":" ++ password.getD ""))

/-- A header with its name in small letters. -/
def lowered (header : String × String) : String × String :=
  (String.ofList (header.1.toList.map Char.toLower), header.2)

/-- The form of a planned request for the network. The user and the password in its URL become a
header before all others. -/
def ofPlan [UrlParser] (plan : RequestPlan) : Except MessageFault Message :=
  match UrlParser.parse plan.url with
  | .error _ => .error .header
  | .ok url =>
    if !url.hasHost then .error (.address url.text)
    else if !plan.headers.all isHeader then .error .header
    else
      let given := url.credentials?.toList.map fun found => basicHeader found.1 found.2
      .ok ⟨plan.method, url, (given ++ plan.headers).map lowered, plan.body⟩

/-- Only these schemes can be sent. -/
def isSendable (message : Message) : Bool :=
  message.url.scheme = "http" || message.url.scheme = "https"

end Message

end ArrivalRamp
