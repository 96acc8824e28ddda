/-
  CardStore.Cards.Load
  ────────────────────
  **LOADING CARDS.**

  The card tables of a database describe cards by rows: one row for the card
  itself, one for each field, and one for each reference, which names its
  target by its row.  Rows that are marked as deleted do not count.

  Whatever the source, a card is checked before it is kept.
-/
import CardStore.Database.Statement
import CardStore.Query.Resolve

namespace CardStore

namespace CardTables

/-- The row of a card. -/
def cardSql : String := "SELECT ID, MC, BZF, SJK FROM A_KPDY WHERE ISDEL='N' AND MC=?"

/-- The rows of the fields of a card. -/
def fieldSql : String := "SELECT ID, MC, BZF, LX FROM A_KPSJ WHERE ISDEL='N' AND KP_ID=?"

/-- The rows of the references of a card, each with the name of its target. -/
def referenceSql : String :=
  "SELECT A.ID, A.MC, A.BZF, B.MC DX_MC FROM A_KPYY A, A_KPDY B "
    ++ "WHERE A.KP_ID=? AND A.ISDEL='N' AND B.ISDEL='N' AND A.DX_ID=B.ID"

/-- What is appended to the code of a reference to name its column. -/
def referenceSuffix : String := "_ID"

/-- The text in a column of a row. -/
def text? (row : Row) (column : String) : Option String := (row.get? column).bind Value.text?

/-- The text in a column of a row that must have one. -/
def required (row : Row) (column table : String) : Except Error String :=
  match text? row column with
  | some s => .ok s
  | none => .error (.configuration (table ++ "." ++ column ++ " is empty in a live descriptor row"))

/-- The card of a row, without members. -/
def cardOfRow (row : Row) : Except Error Card := do
  let id ← required row "ID" "A_KPDY"
  let name ← required row "MC" "A_KPDY"
  let database := text? row "SJK"
  let table ← required row "BZF" "A_KPDY"
  return ⟨some id, name, database, table, [], []⟩

/-- The field of a row. -/
def fieldOfRow (row : Row) : Except Error Field := do
  let name ← required row "MC" "A_KPSJ"
  let column ← required row "BZF" "A_KPSJ"
  return ⟨text? row "ID", name, column, (text? row "LX").getD ""⟩

/-- The reference of a row. -/
def referenceOfRow (row : Row) : Except Error Reference := do
  let code ← required row "BZF" "A_KPYY"
  let name ← required row "MC" "A_KPYY"
  let target ← required row "DX_MC" "A_KPYY"
  return ⟨text? row "ID", name, code ++ referenceSuffix, target, idType⟩

variable {σ : Type}

/-- Look a card up in the card tables. -/
def find (b : Backend σ) (db : Database) (name : String) : Action σ (Option Card) := do
  let cards ← Database.query b db cardSql [.string name]
  match cards.rows with
  | [] => return none
  | row :: _ =>
    let card ← ExceptT.mk (pure (cardOfRow row))
    -- members refer to the row of the card, not to its name
    let params := [Value.string (card.id.getD "")]
    let fields ← Database.query b db fieldSql params
    let fields ← ExceptT.mk (pure (fields.rows.mapM fieldOfRow))
    let references ← Database.query b db referenceSql params
    let references ← ExceptT.mk (pure (references.rows.mapM referenceOfRow))
    return some { card with fields, references }

end CardTables

namespace Cards

variable {σ : Type}

/-- The event of a card that was loaded. -/
def loadedEvent (card : Card) : Event :=
  ⟨.debug, "card loaded",
    [("card", card.name), ("table", card.table), ("fields", Text.ofNat card.fields.length),
      ("references", Text.ofNat card.references.length)]⟩

/-- Ask the source for a card. -/
def lookUp (b : Backend σ) (name : String) : Action σ (Option Card) := do
  match (← get).cards.source with
  | .descriptors cards =>
    modify fun c => { c with cards := { c.cards with lookups := c.cards.lookups + 1 } }
    return cards.get? name
  | .database database =>
    let db ← Registry.find (some database)
    CardTables.find b db name

/-- Load a card. -/
def load (b : Backend σ) (name : String) : Action σ SoundCard := do
  match (← get).cards.cached? name with
  | some card => return card
  | none =>
    match ← lookUp b name with
    | none => throw (.cardNotFound name)
    | some card =>
      let card ← ExceptT.mk (pure card.checked)
      Action.note (loadedEvent card.toCard)
      -- who comes second gets the card that is there
      Action.change fun c =>
        let (card, cards) := c.cards.keep name card
        (card, { c with cards })

/-- Run a script of look-ups, each of which loads a card. -/
def withLoads {α : Type} (b : Backend σ) (script : ExceptT Error Lookup α) : Action σ α :=
  ExceptT.mk fun c => script.run.run (fun name c => (load b name).run c) c

end Cards

end CardStore
