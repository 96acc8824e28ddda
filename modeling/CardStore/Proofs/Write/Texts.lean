/-
  CardStore.Proofs.Write.Texts
  ────────────────────────────
  **THE TEXTS OF WRITES AND DELETIONS.**

  A write has one text for its updates and one for its insertions, and a
  deletion has one text: they name the columns of the model and the settings,
  and the values of records are bound to slots.  Which of the texts are sent,
  and how often, is up to the records and to what the backend answers.

  Main statements:
    * `Writer.asks_writeRecords` — the texts that a write sends.
    * `Deleter.asks_deleteRecords` — the text that a deletion sends.
-/
import CardStore.Delete
import CardStore.Proofs.Script
import CardStore.Write.Records

namespace CardStore

/-! ## §1. Requests of units of work. -/

namespace Work

/-- Requests that execute nothing but certain texts. -/
def Sends (texts : List String) : Request → Prop
  | .query _ _ => False
  | .execute sql _ => sql ∈ texts
  | .freshId => True
  | .note _ => True

variable {texts : List String}

theorem asks_execute {sql : String} (h : sql ∈ texts) (params : List Value) :
    (execute sql params).run.Asks (Sends texts) := .request h

theorem asks_tryExecute {sql : String} (h : sql ∈ texts) (params : List Value) :
    (tryExecute sql params).run.Asks (Sends texts) :=
  Script.Asks.andThen (.request h) fun _ => .done _

theorem asks_freshId : freshId.run.Asks (Sends texts) :=
  Script.Asks.andThen (.request trivial) fun _ => .done _

theorem asks_note (e : Event) : (note e).run.Asks (Sends texts) :=
  Script.Asks.andThen (.request trivial) fun _ => .done _

theorem asks_pure {α : Type} (a : α) : (pure a : Work α).run.Asks (Sends texts) := .done _

end Work

/-! ## §2. Texts of changes. -/

namespace Sql

/-- What the text of a change takes of its assignments: the columns, and the terms as they are
written. -/
def Assignments.outline (d : Dialect) (as : Assignments) : List (String × String) :=
  as.map fun a => (a.1, a.2.text d)

theorem Assignments.outline_append (d : Dialect) (as as' : Assignments) :
    outline d (as ++ as') = outline d as ++ outline d as' := List.map_append

theorem Update.text_eq_of_outline {d : Dialect} {u u' : Update} (ht : u.table = u'.table)
    (h : u.sets.outline d = u'.sets.outline d) : u.text d = u'.text d := by
  have hsets : ∀ as : Assignments, (as.map fun a => a.1 ++ "=" ++ a.2.text d)
      = (as.outline d).map fun a => a.1 ++ "=" ++ a.2 := by
    intro as
    rw [Assignments.outline, List.map_map]
    rfl
  show "UPDATE " ++ u.table ++ " SET "
      ++ Text.joined "," (u.sets.map fun a => a.1 ++ "=" ++ a.2.text d)
      ++ " WHERE " ++ idPath ++ "=?"
    = "UPDATE " ++ u'.table ++ " SET "
      ++ Text.joined "," (u'.sets.map fun a => a.1 ++ "=" ++ a.2.text d)
      ++ " WHERE " ++ idPath ++ "=?"
  rw [ht, hsets, hsets, h]

theorem Insert.text_eq_of_outline {d : Dialect} {i i' : Insert} (ht : i.table = i'.table)
    (h : i.items.outline d = i'.items.outline d) : i.text d = i'.text d := by
  have hcolumns : ∀ as : Assignments, as.map (·.1) = (as.outline d).map (·.1) := by
    intro as
    rw [Assignments.outline, List.map_map]
    rfl
  have hterms : ∀ as : Assignments, (as.map fun a => a.2.text d)
      = (as.outline d).map (·.2) := by
    intro as
    rw [Assignments.outline, List.map_map]
    rfl
  show "INSERT INTO " ++ i.table ++ " (" ++ Text.joined "," (i.items.map (·.1)) ++ ") VALUES ("
      ++ Text.joined "," (i.items.map fun a => a.2.text d) ++ ")"
    = "INSERT INTO " ++ i'.table ++ " (" ++ Text.joined "," (i'.items.map (·.1)) ++ ") VALUES ("
      ++ Text.joined "," (i'.items.map fun a => a.2.text d) ++ ")"
  rw [ht, hcolumns, hcolumns, hterms, hterms, h]

end Sql

/-! ## §3. Writes. -/

namespace Writer

variable (w : Writer) (paths : List (String × String))

theorem outline_assignments (d : Sql.Dialect) (r : Record) :
    (assignments paths r).outline d = paths.map fun path => (path.2, "?") := by
  rw [Sql.Assignments.outline, assignments, List.map_map]
  rfl

theorem outline_insertItems (d : Sql.Dialect) {row row' : Sql.Assignments}
    (h : row.outline d = row'.outline d) (id id' : Value) :
    (w.insertItems row id).outline d = (w.insertItems row' id').outline d := by
  have hany : ∀ as : Sql.Assignments,
      (as.any fun item => Text.eqIgnoreCase item.1 w.settings.deletedColumn)
        = (as.outline d).any fun item => Text.eqIgnoreCase item.1 w.settings.deletedColumn := by
    intro as
    rw [Sql.Assignments.outline, List.any_map]
    rfl
  -- whether the marker is added depends on the columns, which the outline has too
  have hitems : Sql.Assignments.outline d ((idPath, .bound id) :: row)
      = Sql.Assignments.outline d ((idPath, .bound id') :: row') := by
    show (idPath, "?") :: row.outline d = (idPath, "?") :: row'.outline d
    rw [h]
  rw [insertItems, insertItems, hany, hany, hitems]
  split
  · exact hitems
  · rw [Sql.Assignments.outline_append, Sql.Assignments.outline_append, hitems]

/-- The text of the updates of a write. -/
def updateText : String := (w.update (assignments paths .empty) .null).text w.dialect

/-- The text of the insertions of a write. -/
def insertText : String := (w.insert (assignments paths .empty) .null).text w.dialect

theorem text_update (r : Record) (id : Value) :
    (w.update (assignments paths r) id).text w.dialect = w.updateText paths := by
  -- the values are bound, so the outline of a record is that of its columns
  show _ = (w.update (assignments paths .empty) .null).text w.dialect
  refine Sql.Update.text_eq_of_outline rfl ?_
  show Sql.Assignments.outline _ (_ ++ _) = Sql.Assignments.outline _ (_ ++ _)
  rw [Sql.Assignments.outline_append, Sql.Assignments.outline_append, outline_assignments,
    outline_assignments]

theorem text_insert (r : Record) (id : Value) :
    (w.insert (assignments paths r) id).text w.dialect = w.insertText paths := by
  have hrow : (assignments paths r).outline w.dialect
      = (assignments paths .empty).outline w.dialect := by
    rw [outline_assignments, outline_assignments]
  show _ = (w.insert (assignments paths .empty) .null).text w.dialect
  refine Sql.Insert.text_eq_of_outline rfl ?_
  show Sql.Assignments.outline _ (_ ++ _ ++ _) = Sql.Assignments.outline _ (_ ++ _ ++ _)
  simp only [Sql.Assignments.outline_append, w.outline_insertItems w.dialect hrow id .null]

theorem asks_save (r : Record) :
    (w.save paths r).run.Asks (Work.Sends [w.updateText paths, w.insertText paths]) := by
  have hupdate : ∀ id, (w.sendUpdate (w.update (assignments paths r) id)).run.Asks
      (Work.Sends [w.updateText paths, w.insertText paths]) := by
    intro id
    rw [sendUpdate, text_update]
    exact Work.asks_execute (by simp) _
  have hinsert : ∀ id, (w.sendInsert (w.insert (assignments paths r) id)).run.Asks
      (Work.Sends [w.updateText paths, w.insertText paths]) := by
    intro id
    rw [sendInsert, text_insert]
    exact Script.Asks.bind (Work.asks_execute (by simp) _) fun _ => Work.asks_pure _
  unfold save
  split
  · apply Script.Asks.bind (hupdate _)
    intro outcome
    split
    -- an update that matched no row is followed by an insertion
    · apply Script.Asks.bind (Work.asks_note _)
      intro _
      exact Script.Asks.bind (hinsert _) fun _ => Work.asks_pure _
    · exact Work.asks_pure _
  -- without an identifier there is nothing to update
  · apply Script.Asks.bind Work.asks_freshId
    intro id
    exact Script.Asks.bind (hinsert _) fun _ => Work.asks_pure _

theorem asks_saveAll : ∀ records : List Record,
    (w.saveAll paths records).run.Asks
      (Work.Sends [w.updateText paths, w.insertText paths]) := by
  intro records
  induction records with
  | nil => exact Work.asks_pure _
  | cons r records ih =>
    rw [saveAll]
    apply Script.Asks.bind (w.asks_save paths r)
    intro saved
    exact Script.Asks.bind ih fun _ => Work.asks_pure _

/-- **The texts that a write sends** are the same for all records. -/
theorem asks_writeRecords (model : List String) (records : List Record) :
    (w.writeRecords model records).run.Asks
      (Work.Sends
        [w.updateText (w.writablePaths model), w.insertText (w.writablePaths model)]) := by
  rw [writeRecords]
  apply Script.Asks.bind (w.asks_saveAll _ records)
  intro saved
  exact Script.Asks.bind (Work.asks_note _) fun _ => Work.asks_pure _

end Writer

/-! ## §4. Deletions. -/

namespace Deleter

variable (x : Deleter)

/-- The text of a deletion. -/
def deleteText : String := (x.delete .null).text x.dialect

theorem asks_tryDelete (id : Value) :
    (x.tryDelete id).run.Asks (Work.Sends [x.deleteText]) := by
  have htext : (x.delete id).text x.dialect = x.deleteText := rfl
  unfold tryDelete
  apply Script.Asks.bind (Work.asks_tryExecute (by rw [htext]; simp) _)
  intro answer
  split
  · split
    · exact Work.asks_pure _
    · exact Script.Asks.bind (Work.asks_note _) fun _ => Work.asks_pure _
  · exact Script.Asks.bind (Work.asks_note _) fun _ => Work.asks_pure _

theorem asks_tryAll : ∀ ids : List Value,
    (x.tryAll ids).run.Asks (Work.Sends [x.deleteText]) := by
  intro ids
  induction ids with
  | nil => exact Work.asks_pure _
  | cons id ids ih =>
    rw [tryAll]
    apply Script.Asks.bind (x.asks_tryDelete id)
    intro found
    exact Script.Asks.bind ih fun _ => Work.asks_pure _

/-- **The text that a deletion sends** is the same for all identifiers. -/
theorem asks_deleteRecords (ids : List Value) :
    (x.deleteRecords ids).run.Asks (Work.Sends [x.deleteText]) := by
  rw [deleteRecords]
  apply Script.Asks.bind (x.asks_tryAll ids)
  intro deleted
  exact Script.Asks.bind (Work.asks_note _) fun _ => Work.asks_pure _

end Deleter

end CardStore
