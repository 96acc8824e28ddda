/-
  CardStore.Calendar
  ──────────────────
  **DATES AND TIMES OF DAY.**

  Dates of the proleptic Gregorian calendar and times of day down to the
  nanosecond, without a time zone.  Both types hold only what the calendar
  has: a day within its month, an hour below 24.  A leap second is the 59th
  second with a billion or more nanoseconds, and is written as second 60.

  A date is read from a year, a month and a day with a character between them,
  the year signed if it need be, a time of day from an hour, a minute and a
  second with a fraction of up to nine digits.

      Date.ofText?       2024-01-02     +12024-01-02
      DateTime.ofText?   2024-01-02T03:04:05.123456

  Main statements:
    * `Date.ofParts?_parts`, `TimeOfDay.ofParts?_parts` — every date and every
      time is rebuilt from its parts.
-/
import CardStore.Number.Numeral
import CardStore.Text.Digits

namespace CardStore

/-! ## §1. Dates. -/

/-- Every fourth year is a leap year, except the centuries not divisible by 400. -/
def isLeapYear (year : Int) : Bool := year % 4 == 0 && (year % 100 != 0 || year % 400 == 0)

def daysInMonth (year : Int) (month : Nat) : Nat :=
  if month = 2 then if isLeapYear year then 29 else 28
  else if month = 4 ∨ month = 6 ∨ month = 9 ∨ month = 11 then 30
  else 31

/-- Whether a year, month and day name a date; years go as far as days can be counted. -/
def isDate (year : Int) (month day : Nat) : Bool :=
  -262143 ≤ year && year ≤ 262142 && 1 ≤ month && month ≤ 12
    && 1 ≤ day && day ≤ daysInMonth year month

/-- A date. -/
structure Date where
  year : Int
  month : Nat
  day : Nat
  isDate : isDate year month day = true
  deriving DecidableEq

namespace Date

def ofParts? (year : Int) (month day : Nat) : Option Date :=
  if h : CardStore.isDate year month day = true then some ⟨year, month, day, h⟩ else none

theorem ofParts?_parts (d : Date) : ofParts? d.year d.month d.day = some d := by
  simp [ofParts?, d.isDate]

/-- Four digits, and a sign for years of more digits or before the year 0. -/
def yearText (year : Int) : String :=
  if 0 ≤ year ∧ year ≤ 9999 then Text.padded 4 year.toNat
  else (if year < 0 then "-" else "+") ++ Text.padded 4 year.natAbs

/-- A date as `2024-01-02`. -/
def toText (d : Date) : String :=
  yearText d.year ++ "-" ++ Text.padded 2 d.month ++ "-" ++ Text.padded 2 d.day

end Date

/-! ## §2. Times of day. -/

/-- Whether the parts name a time of day. -/
def isTimeOfDay (hour minute second nanos : Nat) : Bool :=
  hour < 24 && minute < 60 && second < 60 && nanos < 2000000000
    && (nanos < 1000000000 || second == 59)

/-- A time of day. -/
structure TimeOfDay where
  hour : Nat
  minute : Nat
  second : Nat
  /-- Nanoseconds of the second; a leap second has a billion more. -/
  nanos : Nat
  isTime : isTimeOfDay hour minute second nanos = true
  deriving DecidableEq

namespace TimeOfDay

def ofParts? (hour minute second nanos : Nat) : Option TimeOfDay :=
  if h : isTimeOfDay hour minute second nanos = true then some ⟨hour, minute, second, nanos, h⟩
  else none

theorem ofParts?_parts (t : TimeOfDay) :
    ofParts? t.hour t.minute t.second t.nanos = some t := by
  simp [ofParts?, t.isTime]

/-- The second as it is written: 60 in a leap second. -/
def writtenSecond (t : TimeOfDay) : Nat := t.second + t.nanos / 1000000000

/-- A time as `03:04:05`, its fraction left out. -/
def toText (t : TimeOfDay) : String :=
  Text.padded 2 t.hour ++ ":" ++ Text.padded 2 t.minute ++ ":" ++ Text.padded 2 t.writtenSecond

end TimeOfDay

/-! ## §3. Both together. -/

/-- A date with a time of day. -/
structure DateTime where
  date : Date
  time : TimeOfDay
  deriving DecidableEq

/-- A date and time as `2024-01-02 03:04:05`. -/
def DateTime.toText (t : DateTime) : String := t.date.toText ++ " " ++ t.time.toText

/-! ## §4. Reading. -/

/-- The number at the front, and what stands behind the character that ends it. -/
def spanPart (cs : List Char) : Nat × List Char :=
  (digitsValue 0 (spanDigits cs).1, (spanDigits cs).2.drop 1)

/-- The date of its characters. -/
def Date.ofChars? (cs : List Char) : Option Date :=
  let (negative, cs) := spanSign cs
  let (year, cs) := spanPart cs
  let (month, cs) := spanPart cs
  let (day, _) := spanPart cs
  ofParts? (if negative then -(year : Int) else year) month day

/-- The date of a text. -/
def Date.ofText? (s : String) : Option Date := ofChars? s.toList

/-- The nanoseconds of the digits of a fraction. -/
def fractionNanos (digits : List Char) : Nat := digitsValue 0 digits * 10 ^ (9 - digits.length)

/-- The time of day of its characters. -/
def TimeOfDay.ofChars? (cs : List Char) : Option TimeOfDay :=
  let (hour, cs) := spanPart cs
  let (minute, cs) := spanPart cs
  let (second, cs) := spanPart cs
  let nanos := fractionNanos (spanDigits cs).1
  if second = 60 then ofParts? hour minute 59 (nanos + 1000000000)
  else ofParts? hour minute second nanos

/-- The date and time of a text, a `T` between the two. -/
def DateTime.ofText? (s : String) : Option DateTime := do
  let date ← Date.ofChars? (s.toList.takeWhile (· != 'T'))
  let time ← TimeOfDay.ofChars? ((s.toList.dropWhile (· != 'T')).drop 1)
  return ⟨date, time⟩

end CardStore
