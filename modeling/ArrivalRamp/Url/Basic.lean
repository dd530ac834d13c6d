import ArrivalRamp.Text.Blank
import ArrivalRamp.Url.Percent

/-!
URLs, as far as a request depends on them, and the parser that reads them. The parser is no part of
the tool.
-/

namespace ArrivalRamp

/-- Why a text is no URL. -/
inductive UrlFault where
  | emptyHost
  | invalidPort
  | invalidVersion4
  | invalidVersion6
  | invalidName
  | invalidCharacter
  | relative
  deriving DecidableEq, Repr

/-- The message of a fault. -/
def UrlFault.message : UrlFault → String
  | .emptyHost => "empty host"
  | .invalidPort => "invalid port number"
  | .invalidVersion4 => "invalid IPv4 address"
  | .invalidVersion6 => "invalid IPv6 address"
  | .invalidName => "invalid international domain name"
  | .invalidCharacter => "invalid domain character"
  | .relative => "relative URL without a base"

/-- A URL: its scheme, the user and the password before its host, whether it has a host, and its
path with all that follows it. -/
structure Url where
  scheme : String
  user : List Char
  password : Option (List Char)
  hasHost : Bool
  path : String
  deriving DecidableEq, Repr

namespace Url

/-- The schemes of which a URL always has a host. -/
def hasAuthority (scheme : String) : Bool :=
  ["http", "https", "ws", "wss", "ftp"].contains scheme

/-- A blank or a control at the ends of a URL does not count. -/
def isTrimmed (character : Char) : Bool :=
  character.toNat ≤ 0x20

/-- The character of a URL is no tab and no line break. -/
def isCounted (character : Char) : Bool :=
  character ≠ '\t' && character ≠ '\n' && character ≠ '\r'

/-- The characters of a text that count when it is read as a URL. -/
def counted (text : String) : List Char :=
  (Text.trim isTrimmed text.toList).filter isCounted

/-- The character may stand in a scheme. -/
def isSchemeCharacter (character : Char) : Bool :=
  character.isAlphanum || ['+', '-', '.'].contains character

/-- The scheme of a URL in small letters, and the text after its colon. -/
def scheme? (text : List Char) : Option (String × List Char) :=
  let name := text.takeWhile isSchemeCharacter
  match name, text.drop name.length with
  | first :: _, ':' :: rest =>
    if first.isAlpha then some (String.ofList (name.map Char.toLower), rest) else none
  | _, _ => none

/-- The text of a URL without a host. -/
def text (url : Url) : String :=
  url.scheme ++ ":" ++ url.path

/-- The user and the password as they are meant. There is none where the user is not text, and
where neither is given. -/
def credentials? (url : Url) : Option (String × Option String) :=
  (decodeText? url.user).bind fun user =>
    let password := url.password.bind decodeText?
    if user.isEmpty && password.isNone then none else some (user, password)

end Url

/-- A parser of URLs, from outside. -/
class UrlParser where
  parse : String → Except UrlFault Url

/-- What the standard of URLs says of a parser without a base, as far as a run relies on it. A text
without a scheme is relative. Once a slash has ended the authority of a web address, what follows
changes only the path. -/
structure UrlParser.IsStandard [UrlParser] : Prop where
  relative : ∀ text, Url.scheme? (Url.counted text) = none → parse text = .error .relative
  continued : ∀ address url, parse (address ++ "/") = .ok url → Url.hasAuthority url.scheme →
    ∀ rest, ∃ path, parse (address ++ "/" ++ rest) = .ok { url with path := path }

end ArrivalRamp
