/-
  CardStore.Row
  ─────────────
  **ROWS AND OUTCOMES OF STATEMENTS.**

  A row holds values under column names in the order they were selected.  A
  backend may change the letter case of a name, so a column is found without
  regard to case, the first one of that name counting.
-/
import CardStore.Text.Ascii
import CardStore.Value.Basic

namespace CardStore

/-- A row of a result. -/
structure Row where
  columns : List String
  values : List Value

namespace Row

def size (row : Row) : Nat := row.columns.length

def isEmpty (row : Row) : Bool := row.columns.isEmpty

/-- The value at a position. -/
def at? (row : Row) (i : Nat) : Option Value := row.values[i]?

/-- The value of the first column of a name. -/
def get? (row : Row) (name : String) : Option Value :=
  (row.columns.findIdx? (Text.eqIgnoreCase · name)).bind row.at?

end Row

/-- The rows that a query yields. -/
structure RowSet where
  fields : List String
  rows : List Row

namespace RowSet

def empty : RowSet := ⟨[], []⟩

/-- A row set whose fields are the columns of its first row. -/
def ofRows (rows : List Row) : RowSet :=
  ⟨match rows with
    | [] => []
    | row :: _ => row.columns, rows⟩

end RowSet

/-- What a statement that changes data did. -/
structure Outcome where
  affected : Nat
  /-- The identifier that the backend gave to an inserted row. -/
  insertId : Option String
  deriving DecidableEq

/-- The outcome that reports a number of rows only. -/
def Outcome.ofAffected (n : Nat) : Outcome := ⟨n, none⟩

end CardStore
