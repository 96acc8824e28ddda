/-
  CardStore.Sql.Change
  ────────────────────
  **STATEMENTS THAT CHANGE ROWS.**

  Inserts and updates pair each column with its own term, and their text and
  parameters are read off these pairs: a bound value shows as a mark, the
  server clock and fixed texts as they are.
-/
import CardStore.Record.Basic
import CardStore.Sql.Dialect
import CardStore.Text.Join

namespace CardStore.Sql

/-- What a column is set to. -/
inductive Term where
  | bound (v : Value)
  | now
  | literal (s : String)

namespace Term

def text (d : Dialect) : Term → String
  | .bound _ => "?"
  | .now => canonicalNow
  | .literal s => d.literal s

def params : Term → List Value
  | .bound v => [v]
  | _ => []

end Term

/-- Columns with their terms. -/
abbrev Assignments := List (String × Term)

def Assignments.params (as : Assignments) : List Value := as.flatMap fun a => a.2.params

/-- An update of the row with an identifier. -/
structure Update where
  table : String
  sets : Assignments
  id : Value

namespace Update

def text (d : Dialect) (u : Update) : String :=
  "UPDATE " ++ u.table ++ " SET "
    ++ Text.joined "," (u.sets.map fun (column, term) => column ++ "=" ++ term.text d)
    ++ " WHERE " ++ idPath ++ "=?"

def params (u : Update) : List Value := u.sets.params ++ [u.id]

end Update

/-- An insertion of a row. -/
structure Insert where
  table : String
  items : Assignments

namespace Insert

def text (d : Dialect) (i : Insert) : String :=
  "INSERT INTO " ++ i.table ++ " (" ++ Text.joined "," (i.items.map (·.1)) ++ ") VALUES ("
    ++ Text.joined "," (i.items.map fun (_, term) => term.text d) ++ ")"

def params (i : Insert) : List Value := i.items.params

end Insert

/-- A deletion of the row with an identifier, or of it and all rows below it: those whose path
column contains the identifier. -/
structure Delete where
  table : String
  pathColumn : Option String
  id : Value

namespace Delete

def text (d : Dialect) (x : Delete) : String :=
  "DELETE FROM " ++ x.table ++ " WHERE " ++ idPath ++ "=?"
    ++ (match x.pathColumn with
      | some column => " OR " ++ column ++ " LIKE " ++ d.containsPattern
      | none => "")

def params (x : Delete) : List Value :=
  match x.pathColumn with
  | some _ => [x.id, x.id]
  | none => [x.id]

end Delete

end CardStore.Sql
