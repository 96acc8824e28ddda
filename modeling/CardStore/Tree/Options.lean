/-
  CardStore.Tree.Options
  ──────────────────────
  **WHAT A TREE READ ASKS FOR.**

  A tree read is given what a read is given, and may name its roots by the
  values that they have under some paths.  The text of a tree read is an
  object with a key `root` for these, next to the keys of a query.
-/
import CardStore.Query.Wire
import CardStore.Record.Wire

namespace CardStore

open Json (Origin Node Reading)

/-- What a tree read is given. -/
structure TreeOptions where
  root : Option Record
  given : ReadOptions

namespace TreeOptions

/-- The key that names the roots. -/
def rootKey : String := "root"

/-- What a JSON value says about the roots, and the value without it. -/
def takeRoot : Json → Option Json × Json
  | .object members => (Pairs.get? rootKey members, .object (Pairs.swapErase rootKey members))
  | j => (none, j)

/-- The roots that a JSON value names; null names none. -/
def readRoot : Option Json → Reading (Option Record)
  | none => .ok none
  | some .null => .ok none
  | some j => (Json.readValue Record.read j).map some

/-- What a tree read is given by a JSON value. -/
def ofJson (j : Json) : Reading TreeOptions := do
  let (root, rest) := takeRoot j
  let root ← readRoot root
  let given ← ReadOptions.ofJson rest
  return ⟨root, given⟩

/-- Read what a tree read is given. -/
def read (o : Origin) (n : Node) : Reading TreeOptions := do
  let j ← Json.readJson o n
  ofJson j

end TreeOptions

end CardStore
