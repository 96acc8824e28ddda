/-
  CardStore.Query.Reshape
  ───────────────────────
  **FROM ROWS TO RECORDS.**

  The value of a path is the one of the column with its positional name, and
  where a row has no such column the one at its position; a row without
  either yields null.
-/
import CardStore.Row
import CardStore.Sql.Select

namespace CardStore

namespace Row

/-- The value of the selected column at a position. -/
def selected (row : Row) (i : Nat) : Value :=
  (row.get? (Sql.resultName i) <|> row.at? i).getD .null

/-- Set the values of paths, the first of which stands at a position. -/
def setPaths (row : Row) (position : Nat) : List String → Record → Record
  | [], r => r
  | path :: paths, r => setPaths row (position + 1) paths (r.set path (row.selected position))

/-- The record of a row. -/
def toRecord (row : Row) (model : List String) : Record := row.setPaths 0 model .empty

end Row

/-- The records of a result. -/
def RowSet.reshape (rows : RowSet) (model : List String) : List Record :=
  rows.rows.map (·.toRecord model)

end CardStore
