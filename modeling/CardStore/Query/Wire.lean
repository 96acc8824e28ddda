/-
  CardStore.Query.Wire
  ────────────────────
  **READING QUERIES.**

  A query is read from an object whose keys may all be left out; null stands
  for the default, and so does page 0.  What a read is given is first taken
  as any JSON value: an object is a query, a scalar an identifier, null the
  default query, and a list is refused.
-/
import CardStore.Card.Wire
import CardStore.Query.Options

namespace CardStore

open Json (Origin Node Reading Shape Fault)

namespace Order

/-- The name under which readers ask for sort keys. -/
def wireName : String := "an object mapping paths to 'asc' or 'desc'"

def readKeys : List (Except Fault String × Node) → Reading Order
  | [] => .ok []
  | (key, n) :: ms => do
    let path ← Reading.ofText key
    let direction ← Json.readString n
    let keys ← readKeys ms
    return (path, Direction.parse direction) :: keys

/-- Read sort keys, a repeated path as often as it stands. -/
def read (o : Origin) : Node → Reading Order
  | .null => .ok []
  | .object members stop => do
    let _ ← o.enter
    let keys ← readKeys members
    Json.checkStop stop
    return keys
  | .array items _ => do
    let _ ← o.enter
    Json.unexpected wireName (.array items none)
  | n => Json.unexpected wireName n

end Order

namespace QueryOptions

/-- The keys of a query. -/
def shape : Shape QueryOptions :=
  ⟨"QueryOptions",
    [⟨"filter", false, fun o q n =>
        (Json.readOption (Filter.read o) n).map fun f => { q with filter := f }⟩,
      ⟨"order", false, fun o q n => (Order.read o n).map fun order => { q with order }⟩,
      .of "rows" false (Json.readOption Json.readInt64) fun q rows =>
        { q with rows := rows.getD defaultRows },
      .of "page" false (Json.readOption Json.readInt64) fun q page =>
        { q with page := match page with
            | some n => if n = 0 then 1 else n
            | none => 1 }]⟩

/-- Read a query. -/
def read (o : Origin) (n : Node) : Reading QueryOptions := shape.read .unrestricted o n

end QueryOptions

namespace ReadOptions

/-- What a read is given by a JSON value. -/
def ofJson : Json → Reading ReadOptions
  | .null => .ok (.query .unrestricted)
  | .object members => (Json.readValue QueryOptions.read (.object members)).map .query
  | .array _ => .error (.shape (.other "read options must be an identifier or a query object"))
  | scalar => .ok (.id (.ofJson scalar))

/-- Read what a read is given. -/
def read (o : Origin) (n : Node) : Reading ReadOptions := do
  let j ← Json.readJson o n
  ofJson j

end ReadOptions

end CardStore
