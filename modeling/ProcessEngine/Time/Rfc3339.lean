import ProcessEngine.Json.Decode
import ProcessEngine.Text.Blank
import ProcessEngine.Text.Numeral
import ProcessEngine.Time.Instant

/-!
# Date and time text

Instants are written as RFC 3339 date-times in universal time. The fraction of a
second has as few of 0, 3, 6 or 9 digits as say it exactly, and a year outside
0 to 9999 has a sign. A leap second is written as second 60. Reading is more
lenient: blanks may stand between the parts, the date and the time may be separated
by a blank, a year may have a sign and then any number of digits, and an offset from
universal time may be given. Both the date that is written and the date in universal
time must be in the calendar.
-/

namespace ProcessEngine

namespace Instant

/-- The fraction of a second with as few groups of three digits as say it. -/
def writeFraction (nanosecond : Nat) : String :=
  if nanosecond = 0 then ""
  else if nanosecond % 1000000 = 0 then "." ++ Text.padded 3 (nanosecond / 1000000)
  else if nanosecond % 1000 = 0 then "." ++ Text.padded 6 (nanosecond / 1000)
  else "." ++ Text.padded 9 nanosecond

/-- A year in four digits, with a sign if they do not suffice. -/
def writeYear (year : Int) : String :=
  if 0 ≤ year ∧ year ≤ 9999 then Text.padded 4 year.toNat
  else if 0 ≤ year then "+" ++ Text.padded 4 year.toNat
  else "-" ++ Text.padded 4 (-year).toNat

/-- The text of an instant. -/
def render (instant : Instant) : String :=
  let day := instant.second.fdiv secondsPerDay
  let secondOfDay := (instant.second - day * secondsPerDay).toNat
  let leap := if instant.isLeap then 1 else 0
  let nanosecond := if instant.isLeap then instant.nanosecond - perSecond.toNat
    else instant.nanosecond
  let date := CalendarDate.ofDayNumber day
  writeYear date.year ++ "-" ++ Text.padded 2 date.month ++ "-" ++ Text.padded 2 date.day ++ "T" ++
    Text.padded 2 (secondOfDay / 3600) ++ ":" ++ Text.padded 2 (secondOfDay / 60 % 60) ++ ":" ++
    Text.padded 2 (secondOfDay % 60 + leap) ++ writeFraction nanosecond ++ "Z"

/-- Drops leading blanks. -/
def skipBlank (source : List Char) : List Char := source.dropWhile Text.isBlank

/-- Reads a numeral of at least one and at most the given number of digits. -/
def readNumeral (most : Nat) (source : List Char) : Option (Nat × List Char) := do
  let digits := (source.take most).takeWhile Char.isDigit
  let value <- Text.digits? digits
  return (value, source.drop digits.length)

/-- Reads a two-digit field within bounds. -/
def readField (low high : Nat) (source : List Char) : Option (Nat × List Char) := do
  let (value, rest) <- readNumeral 2 (skipBlank source)
  if low ≤ value ∧ value ≤ high then return (value, rest) else none

/-- Reads a separator after blanks. -/
def readMark (mark : Char) (source : List Char) : Option (List Char) :=
  match skipBlank source with
  | character :: rest => if character = mark then some rest else none
  | [] => none

/-- Reads a year: four digits at most, or a sign and any number of digits. -/
def readYear (source : List Char) : Option (Int × List Char) :=
  match skipBlank source with
  | '-' :: rest => (readNumeral rest.length rest).map (fun (year, rest) => (-(year : Int), rest))
  | '+' :: rest => (readNumeral rest.length rest).map (fun (year, rest) => ((year : Int), rest))
  | source => (readNumeral 4 source).map (fun (year, rest) => ((year : Int), rest))

/-- Reads the fraction of a second in nanoseconds; digits after the ninth are dropped. -/
def readNanosecond : List Char -> Option (Nat × List Char)
  | '.' :: rest => do
    let digits := rest.takeWhile Char.isDigit
    let kept := digits.take 9
    let value <- Text.digits? kept
    return (value * Nat.pow 10 (9 - kept.length), rest.drop digits.length)
  | source => some (0, source)

/-- Reads two digits that stand directly next. -/
def readPair (high : Nat) : List Char -> Option (Nat × List Char)
  | first :: second :: rest => do
    let value <- Text.digits? [first, second]
    if value ≤ high then return (value, rest) else none
  | _ => none

/-- Reads an offset from universal time, in seconds. -/
def readOffset (source : List Char) : Option (Int × List Char) := do
  let signed (negative : Bool) (rest : List Char) : Option (Int × List Char) := do
    let (hours, rest) <- readPair 99 rest
    let (minutes, rest) <-
      readPair 59 (rest.dropWhile (fun character => character == ':' || Text.isBlank character))
    let seconds : Int := hours * 3600 + minutes * 60
    if seconds < secondsPerDay then return (if negative then -seconds else seconds, rest) else none
  match source with
  | 'Z' :: rest => return (0, rest)
  | 'z' :: rest => return (0, rest)
  | '+' :: rest => signed false rest
  | '-' :: rest => signed true rest
  | '\u2212' :: rest => signed true rest
  | first :: second :: third :: rest =>
    if [first.toUpper, second.toUpper, third.toUpper] = ['U', 'T', 'C'] then return (0, rest)
    else none
  | _ => none

/-- Reads the separator of the date and the time. -/
def readSeparator : List Char -> Option (List Char)
  | 'T' :: rest => some rest
  | 't' :: rest => some rest
  | ' ' :: rest => some rest
  | _ => none

/-- Whether the calendar has the second of an instant. -/
def isKnown (instant : Instant) : Bool :=
  earliest.second ≤ instant.second && instant.second ≤ latest.second

/-- The instant that a date-time text names. -/
def parse? (text : String) : Option Instant := do
  let (year, rest) <- readYear text.toList
  let (month, rest) <- readField 1 12 (<- readMark '-' rest)
  let (day, rest) <- readField 1 31 (<- readMark '-' rest)
  let rest <- readSeparator rest
  let (hour, rest) <- readField 0 23 rest
  let (minute, rest) <- readField 0 59 (<- readMark ':' rest)
  let (second, rest) <- readField 0 60 (<- readMark ':' rest)
  let (nanosecond, rest) <- readNanosecond rest
  let (offset, rest) <- readOffset (skipBlank rest)
  let date : CalendarDate := ⟨year, month, day⟩
  let (second, nanosecond) :=
    if second = 60 then (59, nanosecond + perSecond.toNat) else (second, nanosecond)
  let written := ofDate date (hour * 3600 + minute * 60 + second : Nat) nanosecond
  let instant : Instant := ⟨written.second - offset, nanosecond⟩
  if (skipBlank rest).isEmpty ∧ date.exists? ∧ isKnown written ∧ isKnown instant then
    return instant
  else none

instance : JsonCodec Instant where
  encode instant := .text instant.render
  reader := Decode.text parse?

end Instant

end ProcessEngine
