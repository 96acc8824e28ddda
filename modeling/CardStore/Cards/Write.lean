/-
  CardStore.Cards.Write
  ─────────────────────
  **WRITING AND DELETING CARDS.**

  All groups of a write share one transaction, in the database of the first
  group's card; all cards are loaded before it begins.  A deletion is one
  transaction too.
-/
import CardStore.Cards.Load
import CardStore.Database.Transaction
import CardStore.Delete
import CardStore.Write.Records

namespace CardStore.Cards

variable {σ : Type}

/-- The event of a card that does not live where its records are written. -/
def elsewhereEvent (card : SoundCard) (db : Database) : Event :=
  ⟨.warn, "card lives in another database, writing through the first group's",
    [("card", card.name), ("database", db.name)]⟩

/-- The events of the cards that do not live where the first one does. -/
def elsewhereEvents (db : Database) (first : SoundCard) (others : List SoundCard) : List Event :=
  (others.filter fun other => other.database != first.database).map fun other =>
    elsewhereEvent other db

/-- The event of a write. -/
def writeEvent (name : String) (groups : Nat) (db : Database) : Event :=
  ⟨.debug, "write", [("card", name), ("groups", Text.ofNat groups), ("database", db.name)]⟩

/-- Load the cards of groups. -/
def loadAll (b : Backend σ) : List WriteGroup → Action σ (List (WriteGroup × SoundCard))
  | [] => return []
  | g :: gs => do
    let card ← load b g.card
    let rest ← loadAll b gs
    return (g, card) :: rest

/-- Write groups one after another. -/
def writeGroups (settings : WriteSettings) (dialect : Sql.Dialect) :
    List (WriteGroup × SoundCard) → Work (List (List Record))
  | [] => return []
  | (g, card) :: gs => do
    let saved ← Writer.writeRecords ⟨card.toCard, settings, dialect⟩ g.model g.records
    let rest ← writeGroups settings dialect gs
    return saved :: rest

/-- Write records of several cards in one transaction. -/
def writeMany (b : Backend σ) (groups : List WriteGroup) : Action σ (List (List Record)) := do
  match ← loadAll b groups with
  | [] => return []
  | (first, card) :: others =>
    let db ← Registry.find card.database
    Action.noteAll (elsewhereEvents db card (others.map (·.2)))
    Action.note (writeEvent first.card groups.length db)
    let settings := (← get).settings
    Database.trans b db fun x => writeGroups settings x.dialect ((first, card) :: others)

/-- Write records of a card. -/
def write (b : Backend σ) (group : WriteGroup) : Action σ (List Record) := do
  let saved ← writeMany b [group]
  return saved.getLast?.getD []

/-- Delete records of a card; those that were there are the answer. -/
def delete (b : Backend σ) (name : String) (ids : List Value) (scope : DeleteScope) :
    Action σ (List Value) := do
  let card ← load b name
  let db ← Registry.find card.database
  let settings := (← get).settings
  Database.trans b db fun x => Deleter.deleteRecords ⟨card.toCard, settings, x.dialect, scope⟩ ids

end CardStore.Cards
