import TrackerBoard.Time.Calendar
import TrackerBoard.Time.Clock

/-!
# Timestamps

An instant is written in universal time as date, `T`, time of day, the fraction if there is one,
and `Z`.  The fraction has three, six or nine digits, the fewest that are exact; a leap second is
written as second 60; a year outside 0 to 9999 has a sign.

Reading accepts more than is written: a blank or a small `t` between date and time, any number of
fraction digits of which nine count, a small `z`, or a distance from universal time in hours and
minutes behind a sign.  Only years of four digits are read.
-/

namespace TrackerBoard.Timestamp

/-- A year: four digits, or a sign and at least four. -/
def yearText (year : Int) : List Char :=
  if 0 ≤ year ∧ year ≤ 9999 then Digits.padded 4 year.toNat
  else (if year < 0 then '-' else '+') :: Digits.padded 4 year.natAbs

/-- A fraction of a second. -/
def fractionText (nanos : Nat) : List Char :=
  if nanos = 0 then []
  else if nanos % 1000000 = 0 then '.' :: Digits.padded 3 (nanos / 1000000)
  else if nanos % 1000 = 0 then '.' :: Digits.padded 6 (nanos / 1000)
  else '.' :: Digits.padded 9 nanos

/-- The characters of an instant. -/
def print (t : Instant) : List Char :=
  let date := Date.ofDay (t.second / 86400)
  yearText date.year ++ '-' :: Digits.padded 2 date.month ++ '-' :: Digits.padded 2 date.day ++
    'T' :: clockText (t.secondOfDay .utc) (t.nanos / 1000000000) ++
    fractionText (t.nanos % 1000000000) ++ ['Z']

/-- Drops one of the given characters from the front. -/
def skip? (allowed : List Char) : List Char → Option (List Char)
  | c :: text => if c ∈ allowed then some text else none
  | [] => none

/-- The nanoseconds of a fraction whose digits follow a point: the first nine digits count. -/
def fraction? (text : List Char) : Option (Nat × List Char) :=
  let digits := text.takeWhile fun c => (Digits.digit? c).isSome
  if digits = [] then none
  else
    let nine := digits.take 9
    some (Digits.value (nine ++ List.replicate (9 - nine.length) '0'), text.drop digits.length)

/-- The nanoseconds after the seconds: none without a point. -/
def optionalFraction? : List Char → Option (Nat × List Char)
  | '.' :: text => fraction? text
  | text => some (0, text)

/-- Hours and minutes of a distance, in seconds. -/
def distance? (text : List Char) : Option (Nat × List Char) := do
  let (hours, text) ← Digits.read? 2 0 text
  let text ← skip? [':'] text
  let (minutes, text) ← Digits.read? 2 0 text
  if hours < 24 ∧ minutes < 60 then some (hours * 3600 + minutes * 60, text) else none

/-- The distance from universal time, in seconds. -/
def offset? : List Char → Option (Int × List Char)
  | 'Z' :: text => some (0, text)
  | 'z' :: text => some (0, text)
  | '+' :: text => (distance? text).map fun (seconds, text) => (seconds, text)
  | '-' :: text => (distance? text).map fun (seconds, text) => (-seconds, text)
  | '−' :: text => (distance? text).map fun (seconds, text) => (-seconds, text)
  | _ => none

/-- Date, time of day and distance as they are written. -/
structure Fields where
  date : Date
  hour : Nat
  minute : Nat
  second : Nat
  nanos : Nat
  offset : Int

/-- Reads the fields of a whole text. -/
def fields? (text : List Char) : Option Fields := do
  let (year, text) ← Digits.read? 4 0 text
  let text ← skip? ['-'] text
  let (month, text) ← Digits.read? 2 0 text
  let text ← skip? ['-'] text
  let (day, text) ← Digits.read? 2 0 text
  let text ← skip? ['T', 't', ' '] text
  let (hour, text) ← Digits.read? 2 0 text
  let text ← skip? [':'] text
  let (minute, text) ← Digits.read? 2 0 text
  let text ← skip? [':'] text
  let (second, text) ← Digits.read? 2 0 text
  let (nanos, text) ← optionalFraction? text
  let (offset, text) ← offset? text
  if text = [] then some ⟨⟨year, month, day⟩, hour, minute, second, nanos, offset⟩ else none

/-- Whether the calendar and the clock have the fields; a minute may have a second 60. -/
def Fields.isValid (f : Fields) : Bool :=
  f.date.isValid ∧ f.hour < 24 ∧ f.minute < 60 ∧ f.second ≤ 60

/-- The instant of some fields. -/
def Fields.instant? (f : Fields) : Option Instant :=
  if f.isValid then
    let second := f.date.toDay * 86400 + f.hour * 3600 + f.minute * 60 - f.offset
    if f.second = 60 then Instant.make? (second + 59) (f.nanos + 1000000000)
    else Instant.make? (second + f.second) f.nanos
  else none

/-- The instant that a text writes. -/
def read? (text : List Char) : Option Instant :=
  (fields? text).bind Fields.instant?

end TrackerBoard.Timestamp
