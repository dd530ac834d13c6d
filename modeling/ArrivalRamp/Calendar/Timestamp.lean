import ArrivalRamp.Calendar.Date
import ArrivalRamp.Decimal.Natural
import ArrivalRamp.Text.Blank
import ArrivalRamp.Text.Bytes
import ArrivalRamp.Word

/-!
Instants as timestamps in universal time with milliseconds.
-/

namespace ArrivalRamp.Timestamp

/-- The milliseconds of a day. -/
def dayMillis : Int := 86400000

/-- The first day that has a timestamp. -/
def firstDay : Int := Date.toDays ⟨-262143, 1, 1⟩

/-- The last day that has a timestamp. -/
def lastDay : Int := Date.toDays ⟨262142, 12, 31⟩

/-- A year has four digits, and outside the first ten thousand a sign and at least four. -/
def yearText (year : Int) : List Char :=
  if 0 ≤ year && year ≤ 9999 then Decimal.padded 4 year.toNat
  else (if year < 0 then '-' else '+') :: Decimal.padded 4 year.natAbs

/-- The characters of a date. -/
def dateText (date : Date) : List Char :=
  yearText date.year ++ '-' :: Decimal.padded 2 date.month ++ '-' :: Decimal.padded 2 date.day

/-- The characters of a time of day in milliseconds. -/
def timeText (millis : Nat) : List Char :=
  Decimal.padded 2 (millis / 3600000) ++ ':' :: Decimal.padded 2 (millis / 60000 % 60) ++
    ':' :: Decimal.padded 2 (millis / 1000 % 60) ++ '.' :: Decimal.padded 3 (millis % 1000)

/-- The timestamp of an instant, or its number when its day has none. -/
def write (instant : Int) : String :=
  let day := instant / dayMillis
  if firstDay ≤ day && day ≤ lastDay then
    String.ofList
      (dateText (Date.ofDays day) ++ 'T' :: timeText (instant % dayMillis).toNat ++ ['Z'])
  else Decimal.integer instant

/-- Why a text is no timestamp. -/
inductive Flaw where
  | tooShort
  | invalid
  | outOfRange
  | tooLong
  deriving DecidableEq, Repr

/-- The message of a flaw. -/
def Flaw.message : Flaw → String
  | .tooShort => "premature end of input"
  | .invalid => "input contains invalid characters"
  | .outOfRange => "input is out of range"
  | .tooLong => "trailing input"

/-- The number of the two digits at the start of a text. -/
def readPair : List Char → Except Flaw (Nat × List Char)
  | tens :: ones :: rest =>
    if tens.isDigit && ones.isDigit then
      .ok (10 * Decimal.digitValue tens + Decimal.digitValue ones, rest)
    else .error .invalid
  | _ => .error .invalid

/-- One of some marks at the start of a text. -/
def readMark (marks : List Char) : List Char → Except Flaw (List Char)
  | [] => .error .tooShort
  | mark :: rest => if mark ∈ marks then .ok rest else .error .invalid

/-- The date at the start of a text. -/
def readDate (text : List Char) : Except Flaw (Date × List Char) := do
  let (century, afterCentury) ← readPair text
  let (year, afterYear) ← readPair afterCentury
  let (month, afterMonth) ← readPair (← readMark ['-'] afterYear)
  let (day, afterDay) ← readPair (← readMark ['-'] afterMonth)
  let date : Date := ⟨100 * century + year, month, day⟩
  if date.isValid then return (date, afterDay) else throw .outOfRange

/-- The milliseconds of a fraction of a second, of which more digits than three do not count. -/
def readFraction : List Char → Except Flaw (Nat × List Char)
  | '.' :: rest =>
    let figures := rest.takeWhile Char.isDigit
    if rest.isEmpty then .error .tooShort
    else if figures.isEmpty then .error .invalid
    else .ok (Decimal.ofDigits ((figures ++ ['0', '0']).take 3), rest.drop figures.length)
  | rest => .ok (0, rest)

/-- The two digits at the start of what is left of a text, which may be cut off. -/
def readLastPair (text : List Char) : Except Flaw (Nat × List Char) :=
  if Text.byteCount text < 2 then .error .tooShort else readPair text

/-- The minutes of an offset after its sign. -/
def readOffset (text : List Char) : Except Flaw (Nat × List Char) := do
  let (hours, afterHours) ← readLastPair text
  let (minutes, rest) ← readLastPair (← readMark [':'] afterHours)
  if 60 ≤ minutes then throw .outOfRange
  return (60 * hours + minutes, rest)

/-- The minutes by which local time is ahead of universal time. -/
def readZone : List Char → Except Flaw (Int × List Char)
  | [] => .error .tooShort
  | mark :: rest =>
    if mark = 'Z' || mark = 'z' then .ok (0, rest)
    else if mark = '+' then do
      let (minutes, others) ← readOffset rest
      return (minutes, others)
    else if mark = '-' || mark = '−' then do
      let (minutes, others) ← readOffset rest
      return (-minutes, others)
    else .error .invalid

/-- The instant of a timestamp. Date and time are parted by a `T` or a space, a sixtieth second
counts as the first of the next minute, and the zone is a `Z` or an offset under a day. -/
def read (text : List Char) : Except Flaw Int :=
  if Text.byteCount text < 19 then .error .tooShort
  else do
    let (date, afterDate) ← readDate text
    let (hour, afterHour) ← readPair (← readMark ['T', 't', ' '] afterDate)
    let (minute, afterMinute) ← readPair (← readMark [':'] afterHour)
    let (second, afterSecond) ← readPair (← readMark [':'] afterMinute)
    let (millis, afterFraction) ← readFraction afterSecond
    if 24 ≤ hour || 60 ≤ minute || 60 < second then throw .outOfRange
    let (ahead, rest) ← readZone afterFraction
    if !rest.isEmpty then throw .tooLong
    if 1440 ≤ ahead.natAbs then throw .outOfRange
    return date.toDays * dayMillis + 3600000 * hour + 60000 * (minute - ahead) +
      1000 * second + millis

end ArrivalRamp.Timestamp
