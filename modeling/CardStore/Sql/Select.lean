/-
  CardStore.Sql.Select
  ────────────────────
  **SELECT STATEMENTS.**

  A selection names columns of joined tables, which are given positional
  names `C0`, `C1` and so on, and may have a condition, sort keys and a
  window of rows.
-/
import CardStore.Query.Options
import CardStore.Query.Resolve
import CardStore.Sql.Predicate

namespace CardStore.Sql

/-- A selection. -/
structure Select where
  columns : List String
  tables : Tables
  condition : Option Predicate
  order : List (String × Direction)
  window : Option Window

/-- The name of the selected column at a position. -/
def resultName (n : Nat) : String := "C" ++ Text.ofNat n

namespace Select

/-- The selected columns with their names. -/
def columnTexts (columns : List String) : List String :=
  columns.mapIdx fun i column => column ++ " " ++ resultName i

/-- The text in front of the condition. -/
def head (s : Select) : String :=
  "SELECT " ++ Text.joined "," (columnTexts s.columns) ++ " FROM " ++ s.tables.text

/-- The condition. -/
def conditionText (d : Dialect) (s : Select) : String :=
  match s.condition with
  | some p => " WHERE " ++ p.text d
  | none => ""

/-- The sort keys. -/
def orderText (order : List (String × Direction)) : String :=
  if order.isEmpty then ""
  else " ORDER BY " ++ Text.joined "," (order.map fun (column, direction) =>
    column ++ " " ++ direction.keyword)

/-- The text behind the condition. -/
def tail (d : Dialect) (s : Select) : String :=
  orderText s.order ++ (match s.window with
    | some w => d.windowClause w
    | none => "")

/-- The canonical text. -/
def text (d : Dialect) (s : Select) : String := s.head ++ s.conditionText d ++ s.tail d

/-- The parameters. -/
def params (s : Select) : List Value :=
  match s.condition with
  | some p => p.params
  | none => []

end Select

end CardStore.Sql
