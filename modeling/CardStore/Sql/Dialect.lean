/-
  CardStore.Sql.Dialect
  ─────────────────────
  **THE DIALECTS OF SQL.**

  Statements are composed in one canonical form, with `?` for a bound
  parameter and `SYSDATE()` for the server clock.  A dialect renders that
  form in the words of its backend just before a statement is sent, and has
  words of its own for pages, patterns and the beginning of a transaction.

  A page is a window of a number of rows behind an offset.  Offsets are 64-bit
  numbers; one that would be larger is held at the largest.

  Rendering looks at text outside of quoted literals only: a question mark in
  a literal is not a parameter.
-/
import CardStore.Number.Power
import CardStore.Text.Ascii
import CardStore.Text.Digits

namespace CardStore.Sql

/-! ## §1. Pages. -/

/-- A window of rows. -/
structure Window where
  limit : Nat
  offset : Nat
  deriving DecidableEq, Repr

/-- The largest offset. -/
def offsetLimit : Nat := 2 ^ 64 - 1

/-- The window of a page; no rows per page means no window, and pages below the first are the
first. -/
def pageWindow? (rows page : Int64) : Option Window :=
  if rows.toInt ≤ 0 then none
  else
    let limit := rows.toInt.toNat
    let before := (max page.toInt 1 - 1).toNat
    some ⟨limit, min (before * limit) offsetLimit⟩

/-! ## §2. Rendering. -/

/-- The quote of string literals. -/
def quote : Char := Char.ofNat 39

/-- The backslash. -/
def backslash : Char := Char.ofNat 92

/-- A backend's dialect. -/
inductive Dialect where
  | mysql
  | oracle
  deriving DecidableEq, Repr, Inhabited

/-- The canonical mark of a bound parameter. -/
def slot : Char := '?'

/-- The canonical expression of the server clock. -/
def canonicalNow : String := "SYSDATE()"

/-- A literal's text with every quote written twice. -/
def doubleQuotes : List Char → List Char
  | [] => []
  | c :: cs => if c = quote then quote :: quote :: doubleQuotes cs else c :: doubleQuotes cs

/-- A literal's text with every backslash written twice. -/
def doubleBackslashes : List Char → List Char
  | [] => []
  | c :: cs =>
    if c = backslash then backslash :: backslash :: doubleBackslashes cs
    else c :: doubleBackslashes cs

/-- Text for a literal, every quote written twice. -/
def escapeQuotes (s : String) : String := String.ofList (doubleQuotes s.toList)

namespace Dialect

/-- The name of the backend. -/
def name : Dialect → String
  | .mysql => "MySQL"
  | .oracle => "Oracle"

/-- The mark of the parameter at a position, counted from 1. -/
def placeholder : Dialect → Nat → String
  | .mysql, _ => "?"
  | .oracle, n => ":" ++ Text.ofNat n

/-- The expression of the server clock. -/
def now : Dialect → String
  | .mysql => "SYSDATE()"
  | .oracle => "SYSDATE"

/-- The clause that limits a result, a blank in front. -/
def limitClause : Dialect → (limit offset : Option Nat) → String
  | _, none, none => ""
  | .mysql, some l, some o => " LIMIT " ++ Text.ofNat o ++ "," ++ Text.ofNat l
  | .mysql, some l, none => " LIMIT " ++ Text.ofNat l
  | .mysql, none, some o => " LIMIT " ++ Text.ofNat o ++ "," ++ Text.ofNat offsetLimit
  | .oracle, some l, some o =>
    " OFFSET " ++ Text.ofNat o ++ " ROWS FETCH NEXT " ++ Text.ofNat l ++ " ROWS ONLY"
  | .oracle, some l, none => " OFFSET 0 ROWS FETCH NEXT " ++ Text.ofNat l ++ " ROWS ONLY"
  | .oracle, none, some o => " OFFSET " ++ Text.ofNat o ++ " ROWS"

/-- The clause of a window. -/
def windowClause (d : Dialect) (w : Window) : String := d.limitClause (some w.limit) (some w.offset)

/-- A pattern for any text that holds one bound parameter. -/
def containsPattern : Dialect → String
  | .mysql => "CONCAT('%',?,'%')"
  | .oracle => "'%'||?||'%'"

/-- The statement that begins a transaction, where one does. -/
def beginStatement? : Dialect → Option String
  | .mysql => some "BEGIN"
  | .oracle => none

/-- Characters for a literal. -/
def escapeChars : Dialect → List Char → List Char
  | .mysql, cs => doubleBackslashes (doubleQuotes cs)
  | .oracle, cs => doubleQuotes cs

/-- Text for a literal. -/
def escape (d : Dialect) (s : String) : String := String.ofList (d.escapeChars s.toList)

/-- A quoted literal. -/
def literal (d : Dialect) (s : String) : String := "'" ++ d.escape s ++ "'"

/-- Render characters: `inside` a literal or not, behind so many parameters, and skipping the
characters of an expression that has been rendered. -/
def renderFrom (d : Dialect) (inside : Bool) (slots : Nat) : Nat → List Char → List Char
  | _, [] => []
  | skip + 1, _ :: cs => renderFrom d inside slots skip cs
  | 0, c :: cs =>
    if c = quote then c :: renderFrom d (!inside) slots 0 cs
    else if inside then c :: renderFrom d inside slots 0 cs
    else if c = slot then
      (d.placeholder (slots + 1)).toList ++ renderFrom d inside (slots + 1) 0 cs
    else if (Text.dropIgnoreCase? canonicalNow.toList (c :: cs)).isSome then
      d.now.toList ++ renderFrom d inside slots (canonicalNow.length - 1) cs
    else c :: renderFrom d inside slots 0 cs

/-- Render canonical text. -/
def render (d : Dialect) (sql : String) : String :=
  String.ofList (d.renderFrom false 0 0 sql.toList)

end Dialect

end CardStore.Sql
