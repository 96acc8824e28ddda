/-
  CardStore.Proofs.Write.Save
  ───────────────────────────
  **WHAT A WRITE SENDS.**

  A record with an identifier is updated, and inserted under the same
  identifier exactly if the update found no row; any other record is inserted
  under the next new identifier.  Records follow one another in their order,
  and the first statement that fails is the last one.

  What comes of a write that succeeds are its records, each as it was, except
  that a record without an identifier carries the one that it was inserted
  under.

  Main statements:
    * `Writer.saved_of_dialogue` — what is sent for one record.
    * `Writer.written_of_dialogue` — what is sent for the records of a card.
    * `Writer.Written.returned` — what comes of them.
-/
import CardStore.Proofs.Work
import CardStore.Proofs.Write.Texts
import Mathlib.Data.List.Forall2

namespace CardStore

/-! ## §1. Records and their identifiers. -/

namespace Record

/-- A record that carries an identifier, in place or behind its other paths, and is the same as
another one apart from that. -/
structure Carries (r : Record) (id : Value) (saved : Record) : Prop where
  value : ∀ path, saved.get? path = if path = idPath then some id else r.get? path
  paths : saved.paths = if idPath ∈ r.paths then r.paths else r.paths ++ [idPath]
  children : saved.children = r.children

theorem carries_set (r : Record) (id : Value) : r.Carries id (r.set idPath id) :=
  ⟨fun path => r.get?_set idPath path id, r.paths_set idPath id, rfl⟩

theorem Carries.hasId {r saved : Record} {id : Value} (h : r.Carries id saved)
    (hid : id.isTruthy = true) : saved.hasId = true := by
  rw [Record.hasId, Record.id?, h.value, if_pos rfl]
  exact hid

theorem hasId_eq_true_iff {r : Record} :
    r.hasId = true ↔ ∃ id, r.id? = some id ∧ id.isTruthy = true := by
  rw [hasId]
  cases r.id? with
  | none => exact ⟨nofun, nofun⟩
  | some id => exact ⟨fun h => ⟨id, rfl, h⟩, fun ⟨_, h, ht⟩ => Option.some.inj h ▸ ht⟩

/-- What comes of a record that was written: it is as it was if it had an identifier, and carries
one now if it had none. -/
structure Returned (r saved : Record) : Prop where
  hasId : saved.hasId = true
  same : r.hasId = true → saved = r
  fresh : r.hasId = false → ∃ id, r.Carries id saved

end Record

/-- A new identifier names a record. -/
theorem IdGenerator.isTruthy_text (ids : IdGenerator) : (Value.string ids.text).isTruthy = true := by
  show (!ids.text.isEmpty) = true
  rw [Bool.not_eq_true', ← Bool.not_eq_true, String.isEmpty_iff]
  intro h
  have hlength := ids.length_text
  rw [h] at hlength
  cases hlength

/-! ## §2. One thing after another. -/

/-- **Things are dealt with in turn**: each sends something and either yields a result or fails, and
after a failure nothing more is sent. -/
inductive InTurn {ι α : Type} (step : ι → IdGenerator → List Exchange → Except Error α →
    IdGenerator → Prop) :
    List ι → IdGenerator → List Exchange → Except Error (List α) → IdGenerator → Prop where
  | done (ids : IdGenerator) : InTurn step [] ids [] (.ok []) ids
  | failed {i : ι} {is : List ι} {ids ids' : IdGenerator} {es : List Exchange} {e : Error} :
    step i ids es (.error e) ids' → InTurn step (i :: is) ids es (.error e) ids'
  | next {i : ι} {is : List ι} {ids ids' ids'' : IdGenerator} {es es' : List Exchange} {a : α}
    {outcome : Except Error (List α)} :
    step i ids es (.ok a) ids' → InTurn step is ids' es' outcome ids'' →
    InTurn step (i :: is) ids (es ++ es') (outcome.map (a :: ·)) ids''

namespace InTurn

variable {ι α : Type}
  {step : ι → IdGenerator → List Exchange → Except Error α → IdGenerator → Prop}

/-- All results are there if nothing failed. -/
theorem forall₂ {R : ι → α → Prop}
    (hstep : ∀ i ids es a ids', step i ids es (.ok a) ids' → R i a) {is : List ι}
    {ids ids' : IdGenerator} {es : List Exchange} {outcome : Except Error (List α)}
    (h : InTurn step is ids es outcome ids') :
    ∀ as, outcome = .ok as → List.Forall₂ R is as := by
  induction h with
  | done ids =>
    intro as has
    rw [← Except.ok.inj has]
    exact .nil
  | failed _ => exact nofun
  | @next i is ids ids' ids'' es es' a outcome hi _ ih =>
    intro as has
    cases outcome with
    | error e => cases has
    | ok rest =>
      rw [← Except.ok.inj has]
      exact .cons (hstep _ _ _ _ _ hi) (ih rest rfl)

/-- Work on the first thing, and then on all others. -/
theorem of_dialogue {d : Sql.Dialect} {connection : Nat} {i : ι} {is : List ι} {first : Work α}
    {rest : Work (List α)}
    (hfirst : ∀ {ids es outcome ids'}, Work.Dialogue d connection first.run ids es outcome ids' →
      step i ids es outcome ids')
    (hrest : ∀ {ids es outcome ids'}, Work.Dialogue d connection rest.run ids es outcome ids' →
      InTurn step is ids es outcome ids')
    {ids ids' : IdGenerator} {es : List Exchange} {outcome : Except Error (List α)}
    (h : Work.Dialogue d connection (do
      let a ← first
      let as ← rest
      return a :: as : Work (List α)).run ids es outcome ids') :
    InTurn step (i :: is) ids es outcome ids' := by
  rcases Work.dialogue_bind_iff.1 h with ⟨e, hfails, rfl⟩ | ⟨_, _, a, _, hdone, hothers, rfl⟩
  · exact .failed (hfirst hfails)
  -- the others may fail too, and then there is no result at all
  · rcases Work.dialogue_bind_iff.1 hothers with
      ⟨e, hfails, rfl⟩ | ⟨_, _, as, _, hall, hpure, rfl⟩
    · have hnext := next (hfirst hdone) (hrest hfails)
      exact hnext
    · obtain ⟨rfl, rfl, rfl⟩ := Work.dialogue_pure_iff.1 hpure
      rw [List.append_nil]
      have hnext := next (hfirst hdone) (hrest hall)
      exact hnext

end InTurn

/-! ## §3. One record. -/

namespace Sql.Assignments

theorem params_append (as as' : Assignments) : params (as ++ as') = params as ++ params as' :=
  List.flatMap_append

theorem params_cons (a : String × Term) (as : Assignments) :
    params (a :: as) = a.2.params ++ params as := List.flatMap_cons

end Sql.Assignments

namespace Writer

variable (w : Writer) (connection : Nat) (paths : List (String × String))

/-- The values that a record has for the paths that are written. -/
def values (r : Record) : List Value := paths.map fun path => (r.get? path.1).getD .null

/-- The value of the marker of a row that is not deleted, unless the marker is one of the columns
that are written. -/
def marker : List Value :=
  if (idPath :: paths.map Prod.snd).any (Text.eqIgnoreCase · w.settings.deletedColumn) then []
  else [.string w.settings.notDeletedValue]

/-- An update of the row of a record, whose last parameter is the identifier. -/
def updating (r : Record) (id : Value) (answer : Except Error Outcome) : Exchange :=
  .executed connection .transaction (w.dialect.render (w.updateText paths))
    (values paths r ++ [id]) answer

/-- An insertion of a row for a record, whose first parameter is the identifier. -/
def inserting (r : Record) (id : Value) (answer : Except Error Outcome) : Exchange :=
  .executed connection .transaction (w.dialect.render (w.insertText paths))
    (id :: values paths r ++ w.marker paths) answer

theorem params_assignments (r : Record) :
    Sql.Assignments.params (assignments paths r) = values paths r := by
  rw [Sql.Assignments.params, assignments, List.flatMap_map]
  exact List.map_eq_flatMap.symm

theorem params_update (r : Record) (id : Value) :
    (w.update (assignments paths r) id).params = values paths r ++ [id] := by
  -- the last change is written by the server clock and by literals, which take no parameters
  have hupdated : w.updatedItems.params = [] := rfl
  show Sql.Assignments.params (assignments paths r ++ w.updatedItems) ++ [id] = _
  rw [Sql.Assignments.params_append, params_assignments, hupdated, List.append_nil]

theorem params_insertItems (r : Record) (id : Value) :
    (w.insertItems (assignments paths r) id).params
      = id :: values paths r ++ w.marker paths := by
  have hany : (((idPath, Sql.Term.bound id) :: assignments paths r).any fun item =>
        Text.eqIgnoreCase item.1 w.settings.deletedColumn)
      = (idPath :: paths.map Prod.snd).any (Text.eqIgnoreCase · w.settings.deletedColumn) := by
    rw [List.any_cons, List.any_cons, assignments, List.any_map, List.any_map]
    rfl
  have hitems : Sql.Assignments.params ((idPath, .bound id) :: assignments paths r)
      = id :: values paths r := by
    rw [Sql.Assignments.params_cons, params_assignments]
    rfl
  rw [insertItems, marker, hany]
  split
  · rw [hitems, List.append_nil]
  · rw [Sql.Assignments.params_append, hitems]
    rfl

theorem params_insert (r : Record) (id : Value) :
    (w.insert (assignments paths r) id).params = id :: values paths r ++ w.marker paths := by
  have hcreated : w.createdItems.params = [] := rfl
  have hupdated : w.updatedItems.params = [] := rfl
  show Sql.Assignments.params (w.insertItems (assignments paths r) id ++ w.createdItems
    ++ w.updatedItems) = _
  rw [Sql.Assignments.params_append, Sql.Assignments.params_append, params_insertItems, hcreated,
    hupdated, List.append_nil, List.append_nil]

variable {ids ids' : IdGenerator} {es : List Exchange}

theorem dialogue_sendUpdate_iff {r : Record} {id : Value} {outcome : Except Error Outcome} :
    Work.Dialogue w.dialect connection (w.sendUpdate (w.update (assignments paths r) id)).run ids
        es outcome ids'
      ↔ es = [w.updating connection paths r id outcome] ∧ ids' = ids := by
  rw [sendUpdate, text_update, params_update, Work.dialogue_execute_iff]
  rfl

theorem dialogue_sendInsert_iff {r : Record} {id : Value} {outcome : Except Error Unit} :
    Work.Dialogue w.dialect connection (w.sendInsert (w.insert (assignments paths r) id)).run ids
        es outcome ids'
      ↔ ∃ answer, es = [w.inserting connection paths r id answer]
          ∧ outcome = answer.map (fun _ => ()) ∧ ids' = ids := by
  rw [sendInsert, text_insert, params_insert, Work.dialogue_bind_iff]
  simp only [Work.dialogue_execute_iff, Work.dialogue_pure_iff]
  constructor
  · rintro (⟨e, ⟨rfl, rfl⟩, rfl⟩ | ⟨_, _, answer, _, ⟨rfl, rfl⟩, ⟨rfl, rfl, rfl⟩, rfl⟩)
    · exact ⟨.error e, rfl, rfl, rfl⟩
    · exact ⟨.ok answer, rfl, rfl, rfl⟩
  · rintro ⟨answer | answer, rfl, rfl, rfl⟩
    · exact .inl ⟨answer, ⟨rfl, rfl⟩, rfl⟩
    · exact .inr ⟨_, [], answer, _, ⟨rfl, rfl⟩, ⟨rfl, rfl, rfl⟩, rfl⟩

/-- An insertion, and then a result. -/
theorem dialogue_sendInsert_bind {r result : Record} {id : Value} {outcome : Except Error Record}
    (h : Work.Dialogue w.dialect connection (do
      w.sendInsert (w.insert (assignments paths r) id)
      return result : Work Record).run ids es outcome ids') :
    ∃ answer, es = [w.inserting connection paths r id answer]
      ∧ outcome = answer.map (fun _ => result) ∧ ids' = ids := by
  rcases Work.dialogue_bind_iff.1 h with ⟨e, hsend, rfl⟩ | ⟨_, _, u, _, hsend, hpure, rfl⟩
  · obtain ⟨answer, hes, houtcome, hids⟩ := (w.dialogue_sendInsert_iff connection paths).1 hsend
    cases answer with
    | error e' => exact ⟨.error e', hes, congrArg _ (Except.error.inj houtcome), hids⟩
    | ok found => cases houtcome
  · obtain ⟨answer, rfl, houtcome, rfl⟩ :=
      (w.dialogue_sendInsert_iff connection paths).1 hsend
    obtain ⟨rfl, rfl, rfl⟩ := Work.dialogue_pure_iff.1 hpure
    cases answer with
    | error e => cases houtcome
    | ok found => exact ⟨.ok found, rfl, rfl, rfl⟩

/-- **What is sent to save a record**, what comes of it, and the identifiers that are left. -/
inductive Saved (r : Record) (ids : IdGenerator) :
    List Exchange → Except Error Record → IdGenerator → Prop where
  /-- A record with an identifier is updated, and that is all if there was a row. -/
  | updated {id : Value} {found : Outcome} :
    r.id? = some id → id.isTruthy = true → found.affected ≠ 0 →
    Saved r ids [w.updating connection paths r id (.ok found)] (.ok r) ids
  /-- So it is if the update fails. -/
  | updateFailed {id : Value} (e : Error) : r.id? = some id → id.isTruthy = true →
    Saved r ids [w.updating connection paths r id (.error e)] (.error e) ids
  /-- If there was no row, it is inserted under the same identifier. -/
  | inserted {id : Value} {found : Outcome} (answer : Except Error Outcome) :
    r.id? = some id → id.isTruthy = true → found.affected = 0 →
    Saved r ids
      [w.updating connection paths r id (.ok found), w.inserting connection paths r id answer]
      (answer.map fun _ => r) ids
  /-- A record without an identifier is inserted under a new one. -/
  | created {saved : Record} (answer : Except Error Outcome) :
    r.hasId = false → r.Carries (.string ids.text) saved →
    Saved r ids [w.inserting connection paths r (.string ids.text) answer]
      (answer.map fun _ => saved) ids.next.2

theorem saved_of_dialogue {r : Record} {outcome : Except Error Record}
    (h : Work.Dialogue w.dialect connection (w.save paths r).run ids es outcome ids') :
    w.Saved connection paths r ids es outcome ids' := by
  rw [save] at h
  dsimp only at h
  split at h
  · rename_i hid
    obtain ⟨id, hid, htruthy⟩ := Record.hasId_eq_true_iff.1 hid
    rw [hid, Option.getD_some] at h
    rcases Work.dialogue_bind_iff.1 h with ⟨e, hsend, rfl⟩ | ⟨_, _, found, _, hsend, hrest, rfl⟩
    · obtain ⟨rfl, rfl⟩ := (w.dialogue_sendUpdate_iff connection paths).1 hsend
      exact .updateFailed e hid htruthy
    · obtain ⟨rfl, rfl⟩ := (w.dialogue_sendUpdate_iff connection paths).1 hsend
      -- how the work goes on depends on the number of rows that the update found
      split at hrest
      · rename_i hmissed
        obtain ⟨answer, rfl, rfl, rfl⟩ := w.dialogue_sendInsert_bind connection paths
          (Work.dialogue_note_bind_iff.1 hrest)
        exact .inserted answer hid htruthy hmissed
      · rename_i hfound
        obtain ⟨rfl, rfl, rfl⟩ := Work.dialogue_pure_iff.1 hrest
        exact .updated hid htruthy hfound
  · rename_i hnone
    obtain ⟨answer, rfl, rfl, rfl⟩ := w.dialogue_sendInsert_bind connection paths
      (Work.dialogue_freshId_bind_iff.1 h)
    exact .created answer (Bool.eq_false_iff.2 hnone) (r.carries_set _)

theorem Saved.returned {r saved : Record}
    (h : w.Saved connection paths r ids es (.ok saved) ids') : r.Returned saved := by
  -- the results of statements that may have failed are those of statements that did not
  generalize houtcome : (Except.ok saved : Except Error Record) = outcome at h
  cases h with
  | updated hid htruthy _ =>
    have hhas := Record.hasId_eq_true_iff.2 ⟨_, hid, htruthy⟩
    rw [Except.ok.inj houtcome]
    exact ⟨hhas, fun _ => rfl, fun hnone => absurd hhas (by rw [hnone]; decide)⟩
  | updateFailed e hid htruthy => cases houtcome
  | inserted answer hid htruthy _ =>
    have hhas := Record.hasId_eq_true_iff.2 ⟨_, hid, htruthy⟩
    cases answer with
    | error e => cases houtcome
    | ok found =>
      rw [Except.ok.inj houtcome]
      exact ⟨hhas, fun _ => rfl, fun hnone => absurd hhas (by rw [hnone]; decide)⟩
  | created answer hnone hcarries =>
    cases answer with
    | error e => cases houtcome
    | ok found =>
      rw [Except.ok.inj houtcome]
      refine ⟨hcarries.hasId ids.isTruthy_text, fun hhas => ?_, fun _ => ⟨_, hcarries⟩⟩
      exact absurd hhas (by rw [hnone]; decide)

/-! ## §4. The records of a card. -/

/-- **What is sent to write records** of a card. -/
def Written (model : List String) (records : List Record) :
    IdGenerator → List Exchange → Except Error (List Record) → IdGenerator → Prop :=
  InTurn (w.Saved connection (w.writablePaths model)) records

theorem inTurn_of_dialogue : ∀ (records : List Record) {ids ids' : IdGenerator}
    {es : List Exchange} {outcome : Except Error (List Record)},
    Work.Dialogue w.dialect connection (w.saveAll paths records).run ids es outcome ids' →
      InTurn (w.Saved connection paths) records ids es outcome ids' := by
  intro records
  induction records with
  | nil =>
    intro ids ids' es outcome h
    obtain ⟨rfl, rfl, rfl⟩ := Work.dialogue_pure_iff.1 h
    exact .done _
  | cons r records ih =>
    intro ids ids' es outcome h
    exact InTurn.of_dialogue (w.saved_of_dialogue connection paths) ih h

theorem written_of_dialogue {model : List String} {records : List Record}
    {outcome : Except Error (List Record)}
    (h : Work.Dialogue w.dialect connection (w.writeRecords model records).run ids es outcome
      ids') : w.Written connection model records ids es outcome ids' := by
  have hsave {es : List Exchange} {ids₁ : IdGenerator} {answer : Except Error (List Record)}
      (hsaved : Work.Dialogue w.dialect connection
        (w.saveAll (w.writablePaths model) records).run ids es answer ids₁) :
      w.Written connection model records ids es answer ids₁ :=
    w.inTurn_of_dialogue connection _ records hsaved
  rcases Work.dialogue_bind_iff.1 h with ⟨e, hfails, rfl⟩ | ⟨_, _, saved, _, hsaved, hnote, rfl⟩
  · exact hsave hfails
  -- what was saved is noted and answered
  · have hpure := Work.dialogue_note_bind_iff.1 hnote
    obtain ⟨rfl, rfl, rfl⟩ := Work.dialogue_pure_iff.1 hpure
    rw [List.append_nil]
    exact hsave hsaved

/-- **What comes of records** that were all written. -/
theorem Written.returned {model : List String} {records saved : List Record}
    (h : w.Written connection model records ids es (.ok saved) ids') :
    List.Forall₂ Record.Returned records saved :=
  InTurn.forall₂ (fun _ _ _ _ _ hsaved => hsaved.returned) h saved rfl

end Writer

end CardStore
