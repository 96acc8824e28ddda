/-
  CardStore.MySql.Datum
  ─────────────────────
  **VALUES AS THE MYSQL PROTOCOL CARRIES THEM.**

  A parameter is sent as a `Datum` and a column is received as one.  Words
  have the widths of the protocol.  Decimals, lists and structured data travel
  as text, which keeps every digit.  Dates and dates with a time of day share
  one form; a received one without a time is a date, and one that the calendar
  does not have is null.
-/
import CardStore.Value.Wire

namespace CardStore.MySql

/-- A value of the protocol. -/
inductive Datum where
  | null
  | bytes (bs : List UInt8)
  | int (n : Int64)
  | uint (n : UInt64)
  /-- A binary32 number by its bits. -/
  | float (bits : UInt32)
  | double (x : Double)
  | date (year : UInt16) (month day hour minute second : UInt8) (micros : UInt32)
  /-- A span of time. -/
  | time (negative : Bool) (days : UInt32) (hours minutes seconds : UInt8) (micros : UInt32)
  deriving DecidableEq

namespace Datum

/-! ## §1. Sending. -/

def ofText (s : String) : Datum := .bytes (Text.Utf8.encode s)

/-- A date with the parts of a time; the year is cut to 16 bits. -/
def ofDateParts (d : Date) (hour minute second micros : Nat) : Datum :=
  .date (UInt16.ofNat (d.year % 2 ^ 16).toNat) (UInt8.ofNat d.month) (UInt8.ofNat d.day)
    (UInt8.ofNat hour) (UInt8.ofNat minute) (UInt8.ofNat second) (UInt32.ofNat micros)

/-- A value as a parameter. -/
def ofValue : Value → Datum
  | .null => .null
  | .bool b => .int (if b then 1 else 0)
  | .int n => .int n
  | .float x => .double x
  | .decimal d => ofText d.toText
  | .string s => ofText s
  | .bytes bs => .bytes bs
  | .date d => ofDateParts d 0 0 0 0
  | .dateTime t =>
    ofDateParts t.date t.time.hour t.time.minute t.time.second (t.time.nanos / 1000)
  | .array items => ofText (Value.array items).toJson.text
  | .json d => ofText (Value.json d).toJson.text

/-! ## §2. Receiving. -/

/-- A received date, with a time of day unless all its parts are zero. -/
def dateValue (year month day hour minute second micros : Nat) : Value :=
  match Date.ofParts? year month day with
  | none => .null
  | some d =>
    if hour = 0 ∧ minute = 0 ∧ second = 0 ∧ micros = 0 then .date d
    else match TimeOfDay.ofParts? hour minute second (micros * 1000) with
      | some t => .dateTime ⟨d, t⟩
      | none => .null

/-- A received span of time as text; its days count as hours, in words of 32 bits. -/
def timeText (negative : Bool) (days : UInt32) (hours minutes seconds : UInt8) (micros : UInt32) :
    String :=
  (if negative then "-" else "") ++ Text.padded 2 (days * 24 + hours.toUInt32).toNat ++ ":"
    ++ Text.padded 2 minutes.toNat ++ ":" ++ Text.padded 2 seconds.toNat ++ "."
    ++ Text.padded 6 micros.toNat

/-- The value of a column. -/
def toValue : Datum → Value
  | .null => .null
  | .bytes bs => match Text.Utf8.text? bs with
    | some s => .string s
    | none => .bytes bs
  | .int n => .int n
  | .uint n => .int n.toInt64
  | .float bits => .float (.ofSingleBits bits)
  | .double x => .float x
  | .date year month day hour minute second micros =>
    dateValue year.toNat month.toNat day.toNat hour.toNat minute.toNat second.toNat micros.toNat
  | .time negative days hours minutes seconds micros =>
    .string (timeText negative days hours minutes seconds micros)

end Datum

end CardStore.MySql
