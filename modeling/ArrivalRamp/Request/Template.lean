import ArrivalRamp.Config.Settings
import ArrivalRamp.Json.Printer
import ArrivalRamp.Profile.Label
import ArrivalRamp.Url.Basic

/-!
Requests planned for units of work. What all of them share is in a template.
-/

namespace ArrivalRamp

/-- Names and values of headers, in the order in which they are sent. -/
abbrev Headers := List (String × String)

namespace Headers

/-- Names that differ only in the case of ASCII letters are the same. -/
def sameName (left right : String) : Bool :=
  left.toList.map Char.toLower == right.toList.map Char.toLower

/-- The value of the first header of a name. -/
def value? (headers : Headers) (name : String) : Option String :=
  (headers.find? fun header => sameName header.1 name).map Prod.snd

/-- The header that tells the kind of a body. -/
def contentType : String := "Content-Type"

/-- The header that carries a token or a password. -/
def authorization : String := "Authorization"

/-- The header that carries the name of the application. -/
def appName : String := "X-App-Name"

/-- The header that carries the environment. -/
def environment : String := "X-Env"

/-- The header that carries the name of the test. -/
def testName : String := "X-LT-Name"

/-- The header that carries the tag of the stage. -/
def stage : String := "X-LT-Stage"

/-- The header that carries the target of the stage. -/
def target : String := "X-LT-Target-RPS"

end Headers

/-- A character may stand in a method and in the name of a header. -/
def isTokenCharacter (character : Char) : Bool :=
  character.isAlphanum ||
    ['!', '#', '$', '%', '&', '\'', '*', '+', '-', '.', '^', '_', '\x60', '|', '~'].contains
      character

/-- A text can be a method or the name of a header. -/
def isToken (text : String) : Bool :=
  !text.isEmpty && text.toList.all isTokenCharacter

/-- What all requests of a run share. The further headers stand in the order of their names. -/
structure RequestTemplate where
  method : String
  url : String
  name : String
  appName : String
  env : String
  authToken : Option String
  headers : Ledger String String
  payload : Option Json

/-- Why settings lead to no request. -/
inductive TemplateFault where
  | invalidMethod (method : String)
  | invalidUrl (url : String) (fault : UrlFault)
  deriving DecidableEq, Repr

/-- The message of a fault. -/
def TemplateFault.message : TemplateFault → String
  | .invalidMethod given => "Invalid HTTP method: " ++ given
  | .invalidUrl url fault => "Invalid target URL '" ++ url ++ "': " ++ fault.message

/-- A request as it is planned for a unit of work. -/
structure RequestPlan where
  method : String
  url : String
  headers : Headers
  body : Option String
  deriving DecidableEq, Repr

/-- The value of the first header of a name. -/
def RequestPlan.header? (plan : RequestPlan) (name : String) : Option String :=
  plan.headers.value? name

namespace RequestTemplate

/-- The template of settings. Its method must be a token and its URL must be complete. -/
def ofSettings [UrlParser] (settings : RunSettings) : Except TemplateFault RequestTemplate :=
  if !isToken settings.method then .error (.invalidMethod settings.method)
  else match UrlParser.parse settings.url with
    | .error fault => .error (.invalidUrl settings.url fault)
    | .ok _ =>
      .ok
        { method := settings.method
          url := settings.url
          name := settings.name
          appName := settings.appName
          env := settings.env
          authToken := settings.authToken
          headers := Ledger.ofList settings.headers
          payload := settings.payload }

/-- The member of a payload that tells requests apart. -/
def requestIdName : String := "requestId"

/-- A payload with the identifier of a request, if it is an object. -/
def identified (requestId : String) : Json → Json
  | .object members => .object (Json.insertMember requestIdName (.text requestId) members)
  | value => value

/-- The body of a request with an identifier. -/
def body (template : RequestTemplate) (requestId : String) : Option String :=
  template.payload.map fun payload => (identified requestId payload).compact

/-- The headers of a request under a label. -/
def headersFor (template : RequestTemplate) (label : StageLabel) (hasBody : Bool) : Headers :=
  (if hasBody then [(Headers.contentType, "application/json")] else []) ++
  [(Headers.appName, template.appName), (Headers.environment, template.env),
    (Headers.testName, template.name), (Headers.stage, label.tag),
    (Headers.target, label.target)] ++
  (template.authToken.toList.map fun token => (Headers.authorization, "Bearer " ++ token)) ++
  template.headers

/-- The request for a unit of work under a label. -/
def plan (template : RequestTemplate) (label : StageLabel) (work : WorkUnit) (nonce : Nat) :
    RequestPlan :=
  let body := template.body (work.requestId nonce)
  ⟨template.method, template.url, template.headersFor label body.isSome, body⟩

end RequestTemplate

end ArrivalRamp
