/-
  CardStore.Filter.Columns
  ────────────────────────
  **COLUMNS OF PATHS.**

  While a query is composed, the paths that it names are mapped to columns of
  its tables.  A path without a column is a path that leads nowhere.
-/
import CardStore.Error
import CardStore.OrderedMap

namespace CardStore

/-- A column as it stands in a statement, and its declared type. -/
structure Column where
  text : String
  type : String
  deriving DecidableEq, Repr

/-- The columns of paths that start from a card. -/
structure ColumnMap where
  card : String
  columns : OrderedMap Column

namespace ColumnMap

def empty (card : String) : ColumnMap := ⟨card, .empty⟩

/-- Map a path to a column; a path that is mapped already gets the new one. -/
def insert (m : ColumnMap) (path : String) (column : Column) : ColumnMap :=
  { m with columns := m.columns.set path column }

def contains (m : ColumnMap) (path : String) : Bool := m.columns.contains path

def size (m : ColumnMap) : Nat := m.columns.size

/-- The column of a path. -/
def get (m : ColumnMap) (path : String) : Except Error Column :=
  match m.columns.get? path with
  | some column => .ok column
  | none => .error (.unresolvedPath path m.card path)

/-- Mapping a path gives it its column, and leaves all others alone. -/
theorem get_insert (m : ColumnMap) (path other : String) (column : Column) :
    (m.insert path column).get other = if other = path then .ok column else m.get other := by
  rw [get, insert, OrderedMap.get?_set]
  by_cases h : other = path
  · rw [if_pos h, if_pos h]
  · rw [if_neg h, if_neg h]
    rfl

theorem contains_iff (m : ColumnMap) (path : String) :
    m.contains path = true ↔ ∃ column, m.get path = .ok column := by
  have h := OrderedMap.get?_eq_none_iff m.columns path
  rw [contains, OrderedMap.contains, List.contains_iff_mem, get]
  cases hc : m.columns.get? path with
  | none => simp_all
  | some column => simp_all

end ColumnMap

end CardStore
