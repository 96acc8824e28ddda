/-
  CardStore.Query.Compile
  ───────────────────────
  **FROM QUERIES TO SELECTIONS.**

  The paths of the model are resolved first, then those of the filter and of
  the sort keys that are not in the model.  Only after that is the filter
  turned into a predicate.
-/
import CardStore.Filter.Compile
import CardStore.Sql.Select

namespace CardStore

/-- A read that is ready to be sent. -/
structure CompiledQuery where
  select : Sql.Select
  /-- The paths of the selected columns. -/
  model : List String

namespace CompiledQuery

/-- The canonical statement. -/
def text (q : CompiledQuery) (d : Sql.Dialect) : String := q.select.text d

def params (q : CompiledQuery) : List Value := q.select.params

/-- The tables of the statement. -/
def tables (q : CompiledQuery) : Tables := q.select.tables

end CompiledQuery

namespace Query

/-- A script of look-ups that may fail. -/
abbrev Compiling := ExceptT Error Lookup

/-- The column that a path leads to, and the tables joined then. -/
def resolve (t : Tables) (path : String) : Compiling (ColumnRef × Tables) :=
  ExceptT.mk do
    let (answer, t) ← t.resolve path
    return answer.map fun column => (column, t)

/-- Resolve paths one after another; `columns` are those of the paths before. -/
def resolveModel : List String → List ColumnRef → Tables → Compiling (List ColumnRef × Tables)
  | [], columns, t => return (columns, t)
  | path :: paths, columns, t => do
    let (column, t) ← resolve t path
    resolveModel paths (columns ++ [column]) t

/-- Resolve the paths that have no column yet. -/
def resolveMore : List String → ColumnMap → Tables → Compiling (ColumnMap × Tables)
  | [], columns, t => return (columns, t)
  | path :: paths, columns, t => do
    if columns.contains path then resolveMore paths columns t
    else
      let (column, t) ← resolve t path
      resolveMore paths (columns.insert path column.toColumn) t

/-- The columns of the sort keys. -/
def orderColumns (columns : ColumnMap) : Order → Except Error (List (String × Direction))
  | [] => .ok []
  | (path, direction) :: keys => do
    let column ← columns.get path
    let rest ← orderColumns columns keys
    return (column.text, direction) :: rest

/-- What resolving all paths of a query yields. -/
structure Resolved where
  /-- The paths of the selected columns. -/
  model : List String
  selected : List ColumnRef
  columns : ColumnMap
  tables : Tables

/-- Resolve the paths of a model, then further paths. -/
def resolveAll (card : SoundCard) (model paths : List String) : Compiling Resolved := do
  let model := card.normalizeModel model
  let (selected, t) ← resolveModel model [] ⟨card, []⟩
  let columns := (model.zip selected).foldl
    (fun m (path, column) => m.insert path column.toColumn) (ColumnMap.empty card.name)
  let (columns, t) ← resolveMore paths columns t
  return ⟨model, selected, columns, t⟩

/-- Compose the statement from resolved paths. -/
def Resolved.assemble (r : Resolved) (options : QueryOptions) : Except Error CompiledQuery := do
  let condition ← Filter.condition r.columns options.filter
  let order ← orderColumns r.columns options.order
  return ⟨⟨r.selected.map (·.toColumn.text), r.tables, condition, order,
    Sql.pageWindow? options.rows options.page⟩, r.model⟩

/-- Compose the statement that reads a model from a card. -/
def compile (card : SoundCard) (model : List String) (options : QueryOptions) :
    Compiling CompiledQuery := do
  let r ← resolveAll card model options.paths
  ExceptT.mk (pure (r.assemble options))

end Query

end CardStore
