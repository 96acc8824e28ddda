/-
  CardStore.MySql.Tagged
  ──────────────────────
  **PROTOCOL VALUES AS TAGGED JSON.**

  Null stands for itself, and any other value of the protocol is an object of
  one member, which names its kind:

      bytes         two hexadecimal digits for each
      int, uint     decimal digits
      float         the 8 hexadecimal digits of its bits
      double        the 16 hexadecimal digits of its bits
      date          [year, month, day, hour, minute, second, microseconds]
      time          [negative, days, hours, minutes, seconds, microseconds]

  In the legible form bytes that are a text are written as that text, under
  `utf8`.
-/
import CardStore.MySql.Datum
import CardStore.Value.Tagged

namespace CardStore.MySql.Datum

/-- A list of words. -/
def wordsJson (ns : List UInt32) : List Json :=
  ns.map fun n => .number (.ofInt64 n.toUInt64.toInt64)

/-- The tagged form. -/
def tagged : Datum → Json
  | .null => .null
  | .bytes bs => Value.tag "bytes" (Text.Hex.bytesText bs)
  | .int n => Value.tag "int" (Text.ofInt n.toInt)
  | .uint n => Value.tag "uint" (Text.ofNat n.toNat)
  | .float bits => Value.tag "float" (Text.Hex.wordText 8 bits.toNat)
  | .double x => Value.tag "double" x.bitsText
  | .date year month day hour minute second micros =>
    .object [("date", .array (wordsJson [year.toUInt32, month.toUInt32, day.toUInt32,
      hour.toUInt32, minute.toUInt32, second.toUInt32, micros]))]
  | .time negative days hours minutes seconds micros =>
    .object [("time", .array (.bool negative :: wordsJson [days, hours.toUInt32,
      minutes.toUInt32, seconds.toUInt32, micros]))]

/-- The tagged form, bytes that are a text written as that text. -/
def legible (d : Datum) : Json :=
  match d with
  | .bytes bs => match Text.Utf8.text? bs with
    | some s => Value.tag "utf8" s
    | none => d.tagged
  | _ => d.tagged

/-- The value of a kind and a text. -/
def ofTag? (kind text : String) : Option Datum :=
  if kind = "bytes" then (Text.Hex.bytes? text.toList).map .bytes
  else if kind = "int" then (readInt64? text).map .int
  else if kind = "uint" then some (.uint (.ofNat (digitsValue 0 text.toList)))
  else if kind = "float" then (Text.Hex.number? text.toList).map fun n => .float (.ofNat n)
  else if kind = "double" then (Double.ofBitsText? text).map .double
  else none

/-- The natural number of a JSON value. -/
def wordOf : Json → Nat
  | .number (.int n _) => n.toNat
  | _ => 0

/-- The value of a kind and a list of parts. -/
def ofParts? (kind : String) (parts : List Json) : Option Datum :=
  match parts with
  | [a, b, c, d, e, f, g] =>
    if kind = "date" then
      some (.date (.ofNat (wordOf a)) (.ofNat (wordOf b)) (.ofNat (wordOf c)) (.ofNat (wordOf d))
        (.ofNat (wordOf e)) (.ofNat (wordOf f)) (.ofNat (wordOf g)))
    else none
  | [.bool negative, b, c, d, e, f] =>
    if kind = "time" then
      some (.time negative (.ofNat (wordOf b)) (.ofNat (wordOf c)) (.ofNat (wordOf d))
        (.ofNat (wordOf e)) (.ofNat (wordOf f)))
    else none
  | _ => none

/-- The value of a tagged form. -/
def ofTagged? : Json → Option Datum
  | .null => some .null
  | .object [(kind, .string text)] => ofTag? kind text
  | .object [(kind, .array parts)] => ofParts? kind parts
  | _ => none

end CardStore.MySql.Datum
