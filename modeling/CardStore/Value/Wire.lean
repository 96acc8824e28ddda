/-
  CardStore.Value.Wire
  ────────────────────
  **VALUES AS JSON.**

  `toJson` gives a value its JSON form: a number that is not finite becomes
  null, a decimal and a date become texts, bytes become a list of integers.
  `ofJson` reads one back: integers of 64 bits stay integers, larger ones
  become binary64 numbers, and an object is kept as structured data.
  `writeJson` writes the text of the JSON form without building it.
-/
import CardStore.Json.Print
import CardStore.Json.Read
import CardStore.Value.Basic

namespace CardStore.Value

mutual

/-- The JSON form. -/
def toJson : Value → Json
  | .null => .null
  | .bool b => .bool b
  | .int n => .number (.ofInt64 n)
  | .float x => match Json.Number.ofDouble? x with
    | some n => .number n
    | none => .null
  | .decimal d => .string d.toText
  | .string s => .string s
  | .bytes bs => .array (bs.map fun b => .number (.ofByte b))
  | .date d => .string d.toText
  | .dateTime t => .string t.toText
  | .array items => .array (itemsToJson items)
  | .json d => d.json

def itemsToJson : List Value → List Json
  | [] => []
  | v :: vs => toJson v :: itemsToJson vs

end

/-- The value of a JSON number. -/
def ofNumber : Json.Number → Value
  | .int n _ => if n < 2 ^ 63 then .int (.ofInt n) else .float (.ofInt n)
  | .float x _ => .float x

mutual

/-- The value of a JSON value. -/
def ofJson : Json → Value
  | .null => .null
  | .bool b => .bool b
  | .number n => ofNumber n
  | .string s => .string s
  | .array items => .array (itemsOfJson items)
  | .object members => .json (.ofJson (.object members))

def itemsOfJson : List Json → List Value
  | [] => []
  | j :: js => ofJson j :: itemsOfJson js

end

/-- The bytes after the first one, and the closing bracket. -/
def writeMoreBytes : List UInt8 → List Char
  | [] => [']']
  | b :: bs => ',' :: ((Text.ofNat b.toNat).toList ++ writeMoreBytes bs)

mutual

/-- The characters of the JSON text of a value. -/
def writeJson : Value → List Char
  | .null => ['n', 'u', 'l', 'l']
  | .bool true => ['t', 'r', 'u', 'e']
  | .bool false => ['f', 'a', 'l', 's', 'e']
  | .int n => (Text.ofInt n.toInt).toList
  | .float x => if x.isFinite then x.toJsonText.toList else ['n', 'u', 'l', 'l']
  | .decimal d => Json.stringChars d.toText
  | .string s => Json.stringChars s
  | .bytes [] => ['[', ']']
  | .bytes (b :: bs) => '[' :: ((Text.ofNat b.toNat).toList ++ writeMoreBytes bs)
  | .date d => Json.stringChars d.toText
  | .dateTime t => Json.stringChars t.toText
  | .array [] => ['[', ']']
  | .array (v :: vs) => '[' :: (writeJson v ++ writeMoreJson vs)
  | .json d => d.json.chars

/-- The items after the first one, and the closing bracket. -/
def writeMoreJson : List Value → List Char
  | [] => [']']
  | v :: vs => ',' :: (writeJson v ++ writeMoreJson vs)

end

/-- The JSON text of a value. -/
def jsonText (v : Value) : String := String.ofList v.writeJson

/-- Read a value. -/
def read (o : Json.Origin) (node : Json.Node) : Json.Reading Value :=
  (Json.readJson o node).map ofJson

/-- The value of an optional native value; nothing is null. -/
def ofOption {α : Type} (value : α → Value) : Option α → Value
  | none => .null
  | some a => value a

/-- The array of a list of native values. -/
def ofItems {α : Type} (value : α → Value) (items : List α) : Value := .array (items.map value)

end CardStore.Value
