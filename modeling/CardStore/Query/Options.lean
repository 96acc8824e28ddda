/-
  CardStore.Query.Options
  ───────────────────────
  **WHAT A READ ASKS FOR.**

  A query has a filter, sort keys and a page.  A read is given a query or an
  identifier, which stands for the query of the record with that identifier,
  neither sorted nor cut into pages.
-/
import CardStore.Filter.Wire
import CardStore.Text.Ascii
import CardStore.Text.Blank

namespace CardStore

/-- The direction of a sort key. -/
inductive Direction where
  | ascending
  | descending
  deriving DecidableEq, Repr

namespace Direction

/-- The direction that a text names: `desc` in any case, blanks aside, is descending, and
everything else is ascending. -/
def parse (raw : String) : Direction :=
  if Text.eqIgnoreCase (Text.trim raw) "desc" then .descending else .ascending

def keyword : Direction → String
  | .ascending => "ASC"
  | .descending => "DESC"

end Direction

/-- Sort keys in order of precedence. -/
abbrev Order := List (String × Direction)

/-- The rows of a page when a query does not say. -/
def defaultRows : Int64 := 100

/-- A query. -/
structure QueryOptions where
  filter : Option Filter
  order : Order
  /-- Rows of a page; none for a number that is not positive. -/
  rows : Int64
  /-- The page, counted from 1. -/
  page : Int64

namespace QueryOptions

instance : Inhabited QueryOptions := ⟨⟨none, [], defaultRows, 1⟩⟩

/-- The query without filter and order, first page. -/
def unrestricted : QueryOptions := ⟨none, [], defaultRows, 1⟩

/-- The query of the record with an identifier. -/
def byId (id : Value) : QueryOptions := ⟨some (.byId id), [], 0, 1⟩

/-- The paths that the filter and the sort keys name, in this order. -/
def paths (q : QueryOptions) : List String :=
  (match q.filter with
    | some f => f.paths
    | none => []) ++ q.order.map Prod.fst

end QueryOptions

/-- What a read is given. -/
inductive ReadOptions where
  | id (v : Value)
  | query (q : QueryOptions)

namespace ReadOptions

instance : Inhabited ReadOptions := ⟨.query .unrestricted⟩

/-- The query that a read is given, or that its identifier stands for. -/
def toQuery : ReadOptions → QueryOptions
  | .id v => .byId v
  | .query q => q

end ReadOptions

end CardStore
