import ArrivalRamp.Json.Cursor

/-!
JSON numbers. A number without point and exponent is an integer when a word holds it. Any other is
a binary64 number, computed from the digits that fit in a word and one power of ten, so it can lie
one step beside the nearest.
-/

namespace ArrivalRamp.Json

/-- The digits of a number that a word holds, and those that do not fit. -/
def fitDigits (significand : Nat) : List Char → Nat × List Char
  | [] => (significand, [])
  | digit :: digits =>
    let next := 10 * significand + Decimal.digitValue digit
    if next ≤ Word.maxCount then fitDigits next digits else (significand, digit :: digits)

/-- A number scaled by a power of ten, one factor at a time. There is none above the range. -/
def scaleByTen (value : Float) (exponent : Int) : Option Float :=
  if 0 ≤ exponent then
    if exponent ≤ 308 then
      let scaled := value * Float.ofScientific 1 false exponent.toNat
      if scaled.isInf then none else some scaled
    else if value == 0.0 then some value else none
  else if -308 ≤ exponent then some (value / Float.ofScientific 1 false exponent.natAbs)
  else if value == 0.0 then some value
  else scaleByTen (value / Float.ofScientific 1 false 308) (exponent + 308)
  termination_by (-exponent).toNat
  decreasing_by omega

/-- The lexical parts of a number. -/
structure NumberParts where
  negative : Bool
  whole : List Char
  fraction : Option (List Char)
  exponent : Option Int

namespace NumberParts

/-- The value of a number as far as it is in range. -/
def value? (parts : NumberParts) : Option Json :=
  let (significand, unread) := fitDigits 0 parts.whole
  let signed (value : Float) : Json := .decimal (if parts.negative then -value else value)
  match parts.fraction, parts.exponent, unread with
  | none, none, [] =>
    if !parts.negative then some (.integer significand)
    else if 0 < significand && significand ≤ 0x8000000000000000 then some (.integer (-significand))
    else some (.decimal (-(Word.toFloat significand)))
  | fraction, exponent, _ =>
    let decimals := fraction.getD []
    let (total, unused) := fitDigits significand decimals
    let shift := (unread.length : Int) - ((decimals.length - unused.length : Nat) : Int)
    (scaleByTen (Word.toFloat total) (shift + exponent.getD 0)).map signed

/-- No digit of the number counts. -/
def isZero (parts : NumberParts) : Bool :=
  (parts.whole ++ parts.fraction.getD []).all (· == '0')

end NumberParts

namespace Cursor

/-- The fraction after the whole part of a number. -/
def fraction (cursor : Cursor) : Except Fault (Option (List Char) × Cursor) :=
  match cursor.peek? with
  | some '.' =>
    let (figures, next) := cursor.advance.digits
    if figures.isEmpty then
      next.failNext (if next.rest.isEmpty then .endInValue else .invalidNumber)
    else .ok (some figures, next)
  | _ => .ok (none, cursor)

/-- The digits of an exponent up to the first that leaves the range of 32-bit words. -/
def exponentOverflow? (value count : Nat) : List Char → Option Nat
  | [] => none
  | digit :: digits =>
    let next := 10 * value + Decimal.digitValue digit
    if next < 0x80000000 then exponentOverflow? next (count + 1) digits else some (count + 1)

/-- The sign of an exponent, its digits, and the cursors before and after them. -/
def exponentParts (cursor : Cursor) :
    Except Fault (Option (Bool × List Char × Cursor) × Cursor) :=
  if cursor.peek? = some 'e' || cursor.peek? = some 'E' then
    let afterMark := cursor.advance
    let signed := afterMark.peek? = some '-' || afterMark.peek? = some '+'
    let start := if signed then afterMark.advance else afterMark
    let (figures, next) := start.digits
    if figures.isEmpty then
      if start.rest.isEmpty then start.fail .endInValue else start.failNext .invalidNumber
    else .ok (some (afterMark.peek? = some '-', figures, start), next)
  else .ok (none, cursor)

/-- The number at a cursor, after its sign. -/
def magnitude (cursor : Cursor) (negative : Bool) : Except Fault (Json × Cursor) := do
  let (whole, afterWhole) := cursor.digits
  match whole with
  | [] =>
    if cursor.rest.isEmpty then cursor.fail .endInValue else cursor.failNext .invalidNumber
  | '0' :: _ :: _ =>
    Except.error ⟨.flaw .invalidNumber, ⟨cursor.line, cursor.column + 2⟩⟩
  | _ =>
    let (fraction, afterFraction) ← afterWhole.fraction
    let (exponent, next) ← afterFraction.exponentParts
    let parts : NumberParts := ⟨negative, whole, fraction, none⟩
    match exponent with
    | none =>
      match parts.value? with
      | some value => return (value, next)
      | none => next.fail .numberOutOfRange
    | some (below, figures, start) =>
      match exponentOverflow? 0 0 figures with
      | some count =>
        if parts.isZero || below then
          return (.decimal (if negative then -0.0 else 0.0), next)
        else Except.error ⟨.flaw .numberOutOfRange, ⟨start.line, start.column + count⟩⟩
      | none =>
        let power := Int.ofNat (Decimal.ofDigits figures)
        let parts := { parts with exponent := some (if below then -power else power) }
        match parts.value? with
        | some value => return (value, next)
        | none => next.fail .numberOutOfRange

/-- The number at a cursor. -/
def number (cursor : Cursor) : Except Fault (Json × Cursor) :=
  if cursor.peek? = some '-' then cursor.advance.magnitude true else cursor.magnitude false

/-- The cursor after a number whose value does not matter. -/
def skipNumber (cursor : Cursor) : Except Fault Cursor := do
  let start := if cursor.peek? = some '-' then cursor.advance else cursor
  let (whole, afterWhole) := start.digits
  match whole with
  | [] => start.failNext .invalidNumber
  | '0' :: _ :: _ => Except.error ⟨.flaw .invalidNumber, ⟨start.line, start.column + 2⟩⟩
  | _ =>
    let (_, afterFraction) ←
      if afterWhole.peek? = some '.' && (afterWhole.advance.digits).1.isEmpty then
        afterWhole.advance.failNext .invalidNumber
      else afterWhole.fraction
    let afterMark := afterFraction.advance
    if afterFraction.peek? = some 'e' || afterFraction.peek? = some 'E' then
      let exponent :=
        if afterMark.peek? = some '-' || afterMark.peek? = some '+' then afterMark.advance
        else afterMark
      let (figures, next) := exponent.digits
      if figures.isEmpty then exponent.failNext .invalidNumber else return next
    else return afterFraction

end Cursor

end ArrivalRamp.Json
