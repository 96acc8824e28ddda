/-
  CardStore.Delete
  ────────────────
  **DELETING RECORDS.**

  Every identifier gets a statement of its own.  One that fails or finds no
  row is left out of the answer, and the others are tried all the same.
-/
import CardStore.Card.Basic
import CardStore.Sql.Change
import CardStore.Work
import CardStore.Write.Settings

namespace CardStore

/-- What a deletion takes with it. -/
inductive DeleteScope where
  | row
  /-- The row and all rows below it. -/
  | subtree
  deriving DecidableEq, Repr

/-- What deleting records of a card needs to know. -/
structure Deleter where
  card : Card
  settings : WriteSettings
  dialect : Sql.Dialect
  scope : DeleteScope

namespace Deleter

/-- The deletion of a record. -/
def delete (x : Deleter) (id : Value) : Sql.Delete :=
  ⟨x.card.table, match x.scope with
    | .row => none
    | .subtree => some x.settings.pathColumn, id⟩

/-- Try to delete a record; whether it was there. -/
def tryDelete (x : Deleter) (id : Value) : Work Bool := do
  let d := x.delete id
  let named := [("card", x.card.name), ("id", id.display)]
  match ← Work.tryExecute (d.text x.dialect) d.params with
  | .ok outcome =>
    if 0 < outcome.affected then return true
    else
      Work.note ⟨.debug, "delete matched no row", named⟩
      return false
  | .error e =>
    Work.note ⟨.warn, "delete failed, skipped", named ++ [("error", e.message)]⟩
    return false

/-- Try to delete records one after another; those that were there are the answer. -/
def tryAll (x : Deleter) : List Value → Work (List Value)
  | [] => return []
  | id :: ids => do
    let found ← x.tryDelete id
    let rest ← tryAll x ids
    return if found then id :: rest else rest

/-- Delete records. -/
def deleteRecords (x : Deleter) (ids : List Value) : Work (List Value) := do
  let deleted ← x.tryAll ids
  Work.note ⟨.debug, "delete finished",
    [("card", x.card.name), ("requested", Text.ofNat ids.length),
      ("deleted", Text.ofNat deleted.length)]⟩
  return deleted

end Deleter

end CardStore
