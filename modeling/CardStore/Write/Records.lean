/-
  CardStore.Write.Records
  ───────────────────────
  **WRITING RECORDS.**

  A record with an identifier is updated, and inserted if the update found no
  row.  A record without one is inserted under a new identifier, which it
  carries from then on.  The first statement that fails ends the work.
-/
import CardStore.Card.Basic
import CardStore.Sql.Change
import CardStore.Text.Ascii
import CardStore.Work
import CardStore.Write.Settings

namespace CardStore

/-- Records of one card that are written together. -/
structure WriteGroup where
  card : String
  model : List String
  records : List Record

/-- What writing the records of a card needs to know. -/
structure Writer where
  card : Card
  settings : WriteSettings
  dialect : Sql.Dialect

namespace Writer

/-- The paths of a model that are written, with their columns: members of the card that the
settings do not skip. -/
def writablePaths (w : Writer) (model : List String) : List (String × String) :=
  let paths := if model = [] ∨ model = ["*"] then w.card.memberNames else model
  (paths.filter (!w.settings.isSkipped ·)).filterMap fun path =>
    (w.card.memberColumn? path).map fun column => (path, column)

/-- The values of a record for columns; a path without value is null. -/
def assignments (paths : List (String × String)) (r : Record) : Sql.Assignments :=
  paths.map fun (path, column) => (column, .bound ((r.get? path).getD .null))

/-- The columns of the last change. -/
def updatedItems (w : Writer) : Sql.Assignments :=
  [(w.settings.updatedAtColumn, .now), (w.settings.updatedByColumn, .literal w.settings.actor),
    (w.settings.updatedDeptColumn, .literal w.settings.department)]

/-- The columns of the creation. -/
def createdItems (w : Writer) : Sql.Assignments :=
  [(w.settings.createdAtColumn, .now), (w.settings.createdByColumn, .literal w.settings.actor),
    (w.settings.createdDeptColumn, .literal w.settings.department)]

/-- The update of the row of a record. -/
def update (w : Writer) (row : Sql.Assignments) (id : Value) : Sql.Update :=
  ⟨w.card.table, row ++ w.updatedItems, id⟩

/-- The identifier, the columns of a record, and the marker unless the record sets its column. -/
def insertItems (w : Writer) (row : Sql.Assignments) (id : Value) : Sql.Assignments :=
  let items := (idPath, .bound id) :: row
  -- column names are compared as a database does it
  if items.any fun item => Text.eqIgnoreCase item.1 w.settings.deletedColumn then items
  else items ++ [(w.settings.deletedColumn, .bound (.string w.settings.notDeletedValue))]

/-- The insertion of the row of a record. -/
def insert (w : Writer) (row : Sql.Assignments) (id : Value) : Sql.Insert :=
  ⟨w.card.table, w.insertItems row id ++ w.createdItems ++ w.updatedItems⟩

/-- Send an update. -/
def sendUpdate (w : Writer) (u : Sql.Update) : Work Outcome :=
  Work.execute (u.text w.dialect) u.params

/-- Send an insertion. -/
def sendInsert (w : Writer) (i : Sql.Insert) : Work Unit := do
  let _ ← Work.execute (i.text w.dialect) i.params

/-- Save a record. -/
def save (w : Writer) (paths : List (String × String)) (r : Record) : Work Record := do
  let row := assignments paths r
  if r.hasId then
    let id := r.id?.getD .null
    let outcome ← w.sendUpdate (w.update row id)
    -- a row that was not there cannot have been updated
    if outcome.affected = 0 then
      Work.note ⟨.debug, "update matched no row, inserting",
        [("card", w.card.name), ("id", id.display)]⟩
      w.sendInsert (w.insert row id)
    return r
  else
    let id := Value.string (← Work.freshId)
    w.sendInsert (w.insert row id)
    return r.set idPath id

/-- Save records one after another. -/
def saveAll (w : Writer) (paths : List (String × String)) : List Record → Work (List Record)
  | [] => return []
  | r :: rs => do
    let saved ← w.save paths r
    let rest ← saveAll w paths rs
    return saved :: rest

/-- Write the records of a model. -/
def writeRecords (w : Writer) (model : List String) (records : List Record) :
    Work (List Record) := do
  let saved ← w.saveAll (w.writablePaths model) records
  Work.note ⟨.debug, "records saved",
    [("card", w.card.name), ("records", Text.ofNat saved.length)]⟩
  return saved

end Writer

end CardStore
