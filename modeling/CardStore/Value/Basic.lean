/-
  CardStore.Value.Basic
  ─────────────────────
  **COLUMN VALUES.**

  The values that a column holds, a record carries and a statement binds.
  Readings of a value as something else are partial: `toInt64?`, `toDouble?`
  and `text?` answer nothing where the value has no such form.  `display` is
  total; it is what a value contributes to running text.

  `strictEq` compares values of one kind.  `looseEq` lets kinds mix: null
  equals null alone; once a number or a truth value is on either side both
  are compared as numbers, a blank text being zero; everything else is
  compared by its text, and strictly where there is none.
-/
import CardStore.Calendar
import CardStore.Json.Print
import CardStore.Number.Decimal
import CardStore.Number.Numeral
import CardStore.Number.Shortest
import CardStore.Text.Blank
import CardStore.Text.Utf8

namespace CardStore

/-- A value of a column. -/
inductive Value where
  | null
  | bool (b : Bool)
  | int (n : Int64)
  | float (x : Double)
  | decimal (d : Decimal)
  | string (s : String)
  | bytes (bs : List UInt8)
  | date (d : Date)
  | dateTime (t : DateTime)
  /-- The operand of a list or range condition. -/
  | array (items : List Value)
  /-- Structured data without a scalar form. -/
  | json (d : Json.Document)

namespace Value

instance : Inhabited Value := ⟨.null⟩

/-! ## §1. Kinds of values. -/

def isNull : Value → Bool
  | .null => true
  | _ => false

/-- False for null, false, zero, not-a-number and the empty text. -/
def isTruthy : Value → Bool
  | .null => false
  | .bool b => b
  | .int n => n != 0
  | .float x => !x.isZero && !x.isNaN
  | .decimal d => !d.isZero
  | .string s => !s.isEmpty
  | _ => true

/-- Whether the value is a truth value or a number. -/
def isNumeric : Value → Bool
  | .bool _ | .int _ | .float _ | .decimal _ => true
  | _ => false

/-- The items of an array. -/
def items? : Value → Option (List Value)
  | .array items => some items
  | _ => none

/-- The characters of a string value. -/
def string? : Value → Option String
  | .string s => some s
  | _ => none

/-! ## §2. Other forms of a value. -/

/-- The value as a 64-bit integer; a text is read as one, blanks around it aside. -/
def toInt64? : Value → Option Int64
  | .int n => some n
  | .float x => if x.isFinite then some x.toInt64Clamp else none
  | .decimal d => d.toInt64?
  | .string s => readInt64? (Text.trim s)
  | _ => none

/-- The value as a binary64 number; a text is read as one, blanks around it aside. -/
def toDouble? : Value → Option Double
  | .int n => some (.ofInt n.toInt)
  | .float x => some x
  | .decimal d => some d.toDouble
  | .string s => Double.ofText? (Text.trim s)
  | _ => none

/-- The text of a scalar. -/
def text? : Value → Option String
  | .string s => some s
  | .int n => some (Text.ofInt n.toInt)
  | .float x => some x.toText
  | .decimal d => some d.toText
  | .bool b => some (if b then "true" else "false")
  | .date d => some d.toText
  | .dateTime t => some t.toText
  | _ => none

mutual

/-- The value in running text: items are separated by commas, bytes are read as UTF-8. -/
def display : Value → String
  | .null => "null"
  | .array items => itemsDisplay items
  | .bytes bs => Text.Utf8.lossyText bs
  | .json d => d.json.text
  | .bool b => if b then "true" else "false"
  | .int n => Text.ofInt n.toInt
  | .float x => x.toText
  | .decimal d => d.toText
  | .string s => s
  | .date d => d.toText
  | .dateTime t => t.toText

def itemsDisplay : List Value → String
  | [] => ""
  | [v] => display v
  | v :: w :: vs => display v ++ "," ++ itemsDisplay (w :: vs)

end

/-- A value that has a scalar text shows it. -/
theorem display_of_text? {v : Value} {s : String} (h : v.text? = some s) : v.display = s := by
  cases v <;> simp_all [text?, display]

/-! ## §3. Two equalities. -/

mutual

/-- Equality of values of one kind; numbers by value, the scale of a decimal aside. -/
def strictEq : Value → Value → Bool
  | .null, .null => true
  | .bool a, .bool b => a == b
  | .int n, .int m => n == m
  | .float x, .float y => x.numEq y
  | .decimal d, .decimal e => d.numEq e
  | .string s, .string t => s == t
  | .bytes bs, .bytes cs => bs == cs
  | .date d, .date e => d == e
  | .dateTime t, .dateTime u => t == u
  | .array vs, .array ws => itemsEq vs ws
  | .json d, .json e => d.json.strictEq e.json
  | _, _ => false

/-- Equality item by item. -/
def itemsEq : List Value → List Value → Bool
  | [], [] => true
  | v :: vs, w :: ws => strictEq v w && itemsEq vs ws
  | _, _ => false

end

/-- The number that a value counts as: true is one, a blank text zero. -/
def numericForm? : Value → Option Double
  | .bool b => some (.ofNat (if b then 1 else 0))
  | .string s => if (Text.trimList s.toList).isEmpty then some (.zero false) else (string s).toDouble?
  | v => v.toDouble?

/-- Equality of values as numbers. -/
def numericEq (a b : Value) : Bool :=
  match a.numericForm?, b.numericForm? with
  | some x, some y => x.numEq y
  | _, _ => false

/-- Equality of values as texts, strict where one has none. -/
def textEq (a b : Value) : Bool :=
  match a.text?, b.text? with
  | some s, some t => s == t
  | _, _ => a.strictEq b

/-- Equality across kinds. -/
def looseEq (a b : Value) : Bool :=
  if a.isNull || b.isNull then a.isNull && b.isNull
  else if a.isNumeric || b.isNumeric then numericEq a b
  else textEq a b

end Value

end CardStore
