import ArrivalRamp.Decimal.Natural
import ArrivalRamp.Text.Split

/-!
Names and network addresses as the host of a URL.
-/

namespace ArrivalRamp.Url

/-- A character may not stand in the name of a host. -/
def isDenied (character : Char) : Bool :=
  character.toNat ≤ 0x20 || character.toNat = 0x7F ||
    ['%', '#', '/', ':', '<', '>', '?', '@', '[', '\\', ']', '^', '|'].contains character

/-- The name of a host in small letters. -/
def domain? (text : List Char) : Option (List Char) :=
  if text.any isDenied then none else some (text.map Char.toLower)

/-- The base of a number of an address, and its digits. -/
def addressDigits : List Char → Nat × List Char
  | '0' :: 'x' :: digits => (16, digits)
  | '0' :: 'X' :: digits => (16, digits)
  | '0' :: digit :: digits => (8, digit :: digits)
  | digits => (10, digits)

/-- A number of an address. A prefix without digits stands for zero. -/
def addressNumber? (text : List Char) : Option Nat :=
  if text.isEmpty then none
  else
    let (base, digits) := addressDigits text
    digits.foldlM (fun value digit => do
      let next ← (Decimal.hexDigit? digit).filter (· < base)
      return base * value + next) 0

/-- The last part of a host decides whether the host is an address of version 4. A dot at the end
does not count. -/
def endsInNumber (host : List Char) : Bool :=
  let last := match (Text.split '.' host).reverse with
    | [] :: part :: _ => part
    | part :: _ => part
    | [] => []
  (!last.isEmpty && last.all Char.isDigit) || (addressNumber? last).isSome

/-- An address of version 4: up to four numbers, each below 256 but for the last one, which fills
the bytes that are left. -/
def isVersion4 (host : List Char) : Bool :=
  let parts := match (Text.split '.' host).reverse with
    | [] :: others => others.reverse
    | others => others.reverse
  match parts.mapM addressNumber? with
  | none => false
  | some numbers =>
    match numbers.reverse with
    | [] => false
    | last :: others =>
      numbers.length ≤ 4 && others.all (· < 256) && last < Nat.pow 256 (5 - numbers.length)

/-- Four decimal numbers below 256, without leading zeros. -/
def isDotted (text : List Char) : Bool :=
  let parts := Text.split '.' text
  parts.length = 4 && parts.all fun part =>
    match part with
    | ['0'] => true
    | '0' :: _ => false
    | _ => part.all Char.isDigit && ((addressNumber? part).any (· < 256))

/-- The parts of an address of version 6 that are left after some parts, when zeros were left out
or not. Each step takes a character, so as many steps as characters are enough. -/
def isVersion6From (steps count : Nat) (shortened : Bool) (text : List Char) : Bool :=
  match steps with
  | 0 => false
  | steps + 1 =>
    match text with
    | [] => shortened || count = 8
    | ':' :: rest => count < 8 && !shortened && isVersion6From steps (count + 1) true rest
    | _ =>
      let digits := (text.take 4).takeWhile fun digit => (Decimal.hexDigit? digit).isSome
      count < 8 &&
        match text.drop digits.length with
        | [] => shortened || count = 7
        | ':' :: rest => !rest.isEmpty && isVersion6From steps (count + 1) shortened rest
        | '.' :: _ =>
          !digits.isEmpty && count ≤ 6 && isDotted text && (shortened || count = 6)
        | _ => false

/-- An address of version 6. -/
def isVersion6 (text : List Char) : Bool :=
  match text with
  | ':' :: ':' :: rest => isVersion6From (rest.length + 1) 1 true rest
  | ':' :: _ => false
  | _ => 2 ≤ text.length && isVersion6From (text.length + 1) 0 false text

end ArrivalRamp.Url
