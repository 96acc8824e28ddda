/-
  CardStore.Value.Inspect
  ───────────────────────
  **VALUES IN DIAGNOSTIC TEXTS.**

  Diagnostic texts name the kind of a value and show its content: strings in
  quotes, numbers so that integers and others are told apart, times with
  their fraction.
-/
import CardStore.Text.Join
import CardStore.Text.Quoted
import CardStore.Value.Basic

namespace CardStore

/-- A time with its fraction in as many groups of three digits as it needs. -/
def TimeOfDay.inspect (t : TimeOfDay) : String :=
  let n := t.nanos % 1000000000
  let fraction :=
    if n = 0 then ""
    else if n % 1000000 = 0 then "." ++ Text.padded 3 (n / 1000000)
    else if n % 1000 = 0 then "." ++ Text.padded 6 (n / 1000)
    else "." ++ Text.padded 9 n
  t.toText ++ fraction

/-- A date and time, a letter T between them. -/
def DateTime.inspect (t : DateTime) : String := t.date.toText ++ "T" ++ t.time.inspect

namespace Json

mutual

/-- A JSON value in a diagnostic text. -/
def inspect : Json → String
  | .null => "Null"
  | .bool b => "Bool(" ++ (if b then "true" else "false") ++ ")"
  | .number n => "Number(" ++ n.text ++ ")"
  | .string s => "String(" ++ Text.quoted s ++ ")"
  | .array items => "Array [" ++ Text.joined ", " (inspectItems items) ++ "]"
  | .object members => "Object \x7b" ++ Text.joined ", " (inspectMembers members) ++ "\x7d"

def inspectItems : List Json → List String
  | [] => []
  | j :: js => inspect j :: inspectItems js

def inspectMembers : List (String × Json) → List String
  | [] => []
  | (k, v) :: es => (Text.quoted k ++ ": " ++ inspect v) :: inspectMembers es

end

end Json

namespace Value

mutual

/-- A value in a diagnostic text. -/
def inspect : Value → String
  | .null => "Null"
  | .bool b => "Bool(" ++ (if b then "true" else "false") ++ ")"
  | .int n => "Int64(" ++ Text.ofInt n.toInt ++ ")"
  | .float x => "Float64(" ++ x.toTextAs Double.diagnosticLayout ++ ")"
  | .decimal d => "Decimal(" ++ d.toText ++ ")"
  | .string s => "String(" ++ Text.quoted s ++ ")"
  | .bytes bs => "Bytes([" ++ Text.joined ", " (bs.map fun b => Text.ofNat b.toNat) ++ "])"
  | .date d => "Date(" ++ d.toText ++ ")"
  | .dateTime t => "DateTime(" ++ t.inspect ++ ")"
  | .array items => "Array([" ++ Text.joined ", " (inspectItems items) ++ "])"
  | .json d => "Json(" ++ d.json.inspect ++ ")"

def inspectItems : List Value → List String
  | [] => []
  | v :: vs => inspect v :: inspectItems vs

end

/-- A value that may be missing, in a diagnostic text. -/
def inspectOption : Option Value → String
  | none => "None"
  | some v => "Some(" ++ v.inspect ++ ")"

end Value

end CardStore
