import ArrivalRamp.Url.Address
import ArrivalRamp.Url.Basic

/-!
The parser of URLs that the tool runs with here. Which names beyond ASCII a host may have depends on
tables of Unicode; all of them are let through.
-/

namespace ArrivalRamp.Url

/-- The authority ends here. -/
def endsAuthority (isSpecial : Bool) (character : Char) : Bool :=
  ['/', '?', '#'].contains character || (isSpecial && character = '\\')

/-- The user and the password before the last at sign, and the text after it. -/
def userInfo (authority : List Char) : Option (List Char) × List Char :=
  let fromEnd := authority.reverse
  let host := fromEnd.takeWhile (· ≠ '@')
  if host.length = authority.length then (none, authority)
  else (some (fromEnd.drop (host.length + 1)).reverse, host.reverse)

/-- The host of an authority. A colon between brackets belongs to it. -/
def hostText (isInside : Bool) : List Char → List Char
  | [] => []
  | character :: rest =>
    if character = ':' && !isInside then []
    else character :: hostText (character = '[' || (isInside && character ≠ ']')) rest

/-- What is wrong with a host between brackets. -/
def bracketFault? (host : List Char) : Option UrlFault :=
  if host.getLast? = some ']' && isVersion6 (host.drop 1).dropLast then none
  else some .invalidVersion6

/-- What is wrong with a host that is resolved by its name or address. -/
def hostFault? (host : List Char) : Option UrlFault :=
  if host.head? = some '[' then bracketFault? host
  else match (decodeText? host).bind fun text => domain? text.toList with
    | none => some .invalidName
    | some [] => some .emptyHost
    | some name =>
      if endsInNumber name && !isVersion4 name then some .invalidVersion4 else none

/-- A character may not stand in a host that is only passed on. -/
def isOpaqueDenied (character : Char) : Bool :=
  ['\x00', ' ', '#', '/', ':', '<', '>', '?', '@', '[', '\\', ']', '^', '|'].contains character

/-- What is wrong with a host that is only passed on. -/
def opaqueFault? (host : List Char) : Option UrlFault :=
  if host.head? = some '[' then bracketFault? host
  else if host.any isOpaqueDenied then some .invalidCharacter
  else none

/-- What is wrong with a port. -/
def portFault? (port : List Char) : Option UrlFault :=
  let digits := port.takeWhile Char.isDigit
  if 65535 < Decimal.ofDigits digits then some .invalidPort
  else match port.drop digits.length with
    | [] => none
    | character :: _ => if character = '\\' then none else some .invalidPort

/-- What is wrong with the host and the port of an authority. -/
def authorityFault? (isSpecial : Bool) (hostAndPort : List Char) : Option UrlFault :=
  let host := hostText false hostAndPort
  let after := hostAndPort.drop host.length
  if host.isEmpty && (isSpecial || !after.isEmpty) then some .emptyHost
  else (if isSpecial then hostFault? host else opaqueFault? host) <|> portFault? (after.drop 1)

/-- Text inside a path that is marked by percent signs. -/
def isPathMarked (character : Char) : Bool :=
  [' ', '"', '#', '<', '>', '?', '\x60', '\x7b', '\x7d'].contains character

/-- Text inside a query that is marked by percent signs. -/
def isQueryMarked (isSpecial : Bool) (character : Char) : Bool :=
  [' ', '"', '#', '<', '>'].contains character || (isSpecial && character = '\'')

/-- Text inside a fragment that is marked by percent signs. -/
def isFragmentMarked (character : Char) : Bool :=
  [' ', '"', '<', '>', '\x60'].contains character

/-- The segment leads to its own directory. -/
def isDot (segment : List Char) : Bool :=
  [".", "%2e"].contains (String.ofList (segment.map Char.toLower))

/-- The segment leads upward. -/
def isDoubleDot (segment : List Char) : Bool :=
  ["..", ".%2e", "%2e.", "%2e%2e"].contains (String.ofList (segment.map Char.toLower))

/-- The segments of a path without dots, after some that were kept, last first. -/
def resolveSegments (kept : List (List Char)) : List (List Char) → List (List Char)
  | [] => kept.reverse
  | [last] =>
    if isDoubleDot last then ([] :: kept.drop 1).reverse
    else if isDot last then ([] :: kept).reverse
    else (encodeText isPathMarked last :: kept).reverse
  | segment :: segments =>
    if isDoubleDot segment then resolveSegments (kept.drop 1) segments
    else if isDot segment then resolveSegments kept segments
    else resolveSegments (encodeText isPathMarked segment :: kept) segments

/-- A path from its first slash on. -/
def pathText (path : List Char) : List Char :=
  '/' :: ['/'].intercalate (resolveSegments [] (Text.split '/' path))

/-- A query and a fragment, with their marks. -/
def tailText (isSpecial : Bool) (tail : List Char) : List Char :=
  let beforeFragment := tail.takeWhile (· ≠ '#')
  let fragment := tail.drop beforeFragment.length
  encodeText (isQueryMarked isSpecial) beforeFragment ++
    encodeText (fun character => isFragmentMarked character) fragment

/-- A path from a text on, with its query and its fragment. A path that does not start with a slash
is kept as it is where it is opaque. -/
def fullPath (isSpecial isOpaque : Bool) (text : List Char) : String :=
  let path := text.takeWhile fun character => character ≠ '?' && character ≠ '#'
  let tail := tailText isSpecial (text.drop path.length)
  let plain := if isSpecial then path.map fun c => if c = '\\' then '/' else c else path
  let written := match plain with
    | '/' :: rest => pathText rest
    | rest => if isOpaque then encodeText (fun _ => false) rest else pathText rest
  String.ofList (written ++ tail)

/-- A URL with an authority. -/
def withAuthority (scheme : String) (isSpecial : Bool) (text : List Char) :
    Except UrlFault Url :=
  let authority := text.takeWhile fun character => !endsAuthority isSpecial character
  let tail := text.drop authority.length
  let (given, hostAndPort) := userInfo authority
  let info := given.getD []
  let user := info.takeWhile (· ≠ ':')
  let password := info.drop (user.length + 1)
  let isNamed := !user.isEmpty || !password.isEmpty
  if given = some [] && hostAndPort.isEmpty && !tail.isEmpty then .error .emptyHost
  else match authorityFault? isSpecial hostAndPort with
    | some fault => .error fault
    | none =>
      if hostAndPort.isEmpty && isNamed then .error .emptyHost
      else .ok ⟨scheme, user, if password.isEmpty then none else some password,
        !hostAndPort.isEmpty,
        (if hostAndPort.isEmpty then "//" else "") ++ fullPath isSpecial true tail⟩

/-- A slash in either direction. -/
def isSlash (character : Char) : Bool :=
  character = '/' || character = '\\'

/-- A drive of a file system instead of a host. -/
def isDrive : List Char → Bool
  | [letter, mark] => letter.isAlpha && (mark = ':' || mark = '|')
  | _ => false

/-- The URL of a file. The local host counts as none. -/
def ofFile (text : List Char) : Except UrlFault Url :=
  let without (path : List Char) : Url :=
    ⟨"file", [], none, false, "//" ++ fullPath true false path⟩
  match text with
  | first :: second :: rest =>
    if isSlash first && isSlash second then
      let host := rest.takeWhile fun character => !endsAuthority true character
      let tail := rest.drop host.length
      if isDrive host then .ok (without rest)
      else if host.isEmpty then .ok (without tail)
      else match hostFault? host with
        | some fault => .error fault
        | none =>
          if String.ofList (host.map Char.toLower) = "localhost" then .ok (without tail)
          else .ok ⟨"file", [], none, true, fullPath true false tail⟩
    else .ok (without text)
  | _ => .ok (without text)

/-- The URL that a text holds. -/
def ofText (text : String) : Except UrlFault Url :=
  match scheme? (counted text) with
  | none => .error .relative
  | some (scheme, rest) =>
    if scheme = "file" then ofFile rest
    else if hasAuthority scheme then
      withAuthority scheme true (rest.dropWhile isSlash)
    else match rest with
      | '/' :: '/' :: authority => withAuthority scheme false authority
      | _ => .ok ⟨scheme, [], none, false, fullPath false true rest⟩

instance : UrlParser := ⟨ofText⟩

end ArrivalRamp.Url
