/-
  CardStore.Value.Tagged
  ──────────────────────
  **VALUES AS TAGGED JSON.**

  The plain JSON form of a value drops what JSON has no word for: a decimal
  and a date become texts, bytes become numbers.  The tagged form keeps every
  value apart.  Null, truth values, integers, texts and lists stand for
  themselves; any other value is an object of one member, which names its
  kind:

      float     the 16 hexadecimal digits of its bits
      decimal   its text, all places written
      bytes     two hexadecimal digits for each
      date      2024-01-02
      datetime  2024-01-02T03:04:05.123456
      json      its JSON text
-/
import CardStore.Calendar
import CardStore.Text.Digits
import CardStore.Value.Inspect
import CardStore.Value.Wire

namespace CardStore

/-- The bits of a number as hexadecimal digits; not-a-number has one form. -/
def Double.bitsText (x : Double) : String :=
  Text.Hex.wordText 16 (if x.isNaN then Double.nan.bits else x.bits).toNat

/-- The number of the hexadecimal digits of its bits. -/
def Double.ofBitsText? (s : String) : Option Double :=
  (Text.Hex.number? s.toList).map fun n => ⟨.ofNat n⟩

namespace Value

/-- An object of one member. -/
def tag (kind text : String) : Json := .object [(kind, .string text)]

mutual

/-- The tagged form. -/
def tagged : Value → Json
  | .null => .null
  | .bool b => .bool b
  | .int n => .number (.ofInt64 n)
  | .float x => tag "float" x.bitsText
  | .decimal d => tag "decimal" d.toText
  | .string s => .string s
  | .bytes bs => tag "bytes" (Text.Hex.bytesText bs)
  | .date d => tag "date" d.toText
  | .dateTime t => tag "datetime" t.inspect
  | .array items => .array (itemsTagged items)
  | .json d => tag "json" d.json.text

def itemsTagged : List Value → List Json
  | [] => []
  | v :: vs => tagged v :: itemsTagged vs

end

/-- The document of a JSON text. -/
def document? (text : String) : Option Json.Document :=
  match Json.ofText text with
  | .ok j => some (.ofJson j)
  | .error _ => none

/-- The value of a kind and a text. -/
def ofTag? (kind text : String) : Option Value :=
  if kind = "float" then (Double.ofBitsText? text).map .float
  else if kind = "decimal" then (Decimal.ofText? text).map .decimal
  else if kind = "bytes" then (Text.Hex.bytes? text.toList).map .bytes
  else if kind = "date" then (Date.ofText? text).map .date
  else if kind = "datetime" then (DateTime.ofText? text).map .dateTime
  else if kind = "json" then (document? text).map .json
  else none

mutual

/-- The value of a tagged form. -/
def ofTagged? : Json → Option Value
  | .null => some .null
  | .bool b => some (.bool b)
  | .number n => some (ofNumber n)
  | .string s => some (.string s)
  | .array items => (itemsOfTagged? items).map .array
  | .object [(kind, .string text)] => ofTag? kind text
  | .object _ => none

def itemsOfTagged? : List Json → Option (List Value)
  | [] => some []
  | j :: js => do
    let v ← ofTagged? j
    let vs ← itemsOfTagged? js
    return v :: vs

end

end Value

end CardStore
