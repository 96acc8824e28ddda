/-
  CardStore.Cards.Read
  ────────────────────
  **READING CARDS.**

  A read loads its card, finds the card's database, composes one statement
  for all paths, and turns the rows into records.  A tree read selects the
  parent path too and nests the records.
-/
import CardStore.Cards.Load
import CardStore.Query.Compile
import CardStore.Query.Reshape
import CardStore.Tree.Forest
import CardStore.Tree.Options

namespace CardStore.Cards

variable {σ : Type}

/-- Read records of a card. -/
def read (b : Backend σ) (name : String) (model : List String) (options : ReadOptions) :
    Action σ (List Record) := do
  let card ← load b name
  let db ← Registry.find card.database
  let q ← withLoads b (Query.compile card model options.toQuery)
  let rows ← Database.query b db (q.text db.dialect) q.params
  return rows.reshape q.model

/-- The event of a parent path that was not selected. -/
def parentAddedEvent (name parentPath : String) : Event :=
  ⟨.warn, "parent path missing from model, added", [("card", name), ("parent", parentPath)]⟩

/-- Read records of a card as trees. -/
def readTree (b : Backend σ) (name : String) (model : List String) (parentPath : String)
    (options : TreeOptions) : Action σ (List Record) := do
  let card ← load b name
  let paths := card.normalizeModel model
  if !paths.contains parentPath then Action.note (parentAddedEvent name parentPath)
  let paths := if paths.contains parentPath then paths else paths ++ [parentPath]
  let records ← read b name paths options.given
  Action.noteAll (Tree.events records parentPath options.root)
  return Tree.assemble records parentPath options.root

end CardStore.Cards
