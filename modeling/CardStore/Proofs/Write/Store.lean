/-
  CardStore.Proofs.Write.Store
  ────────────────────────────
  **WHAT A WRITE LEAVES ON A SERVER.**

  On a server that keeps the table of a card, a record that is written ends
  up in the row with its identifier: the update found the row, or found none
  and the insertion made one, or the record was inserted under a new
  identifier.  Whichever it was, the row holds the values of the record in the
  columns of its paths, and no other row has changed.

  This takes columns that are different from each other and from those that
  every row has.

  Main statements:
    * `Writer.perform_save_of_id`, `Writer.perform_save_of_no_id` — what saving a record does.
    * `Writer.keeps_of_perform_save` — what a save that succeeds has left.
    * `Writer.perform_save_of_row`, `Writer.perform_save_of_no_row`, `Writer.perform_save_of_fresh`
      — which saves succeed.
-/
import CardStore.Proofs.Server
import CardStore.Proofs.Write.Save

namespace CardStore

/-! ## §1. Columns. -/

/-- Names that are pairwise different, the case of the letters A to Z aside. -/
def Text.Differ (names : List String) : Prop :=
  names.Pairwise fun s t => Text.eqIgnoreCase s t = false

instance (names : List String) : Decidable (Text.Differ names) :=
  inferInstanceAs (Decidable (names.Pairwise _))

theorem Text.eqIgnoreCase_eq_false_iff {s t : String} :
    Text.eqIgnoreCase s t = false ↔ Text.lowered s ≠ Text.lowered t := by
  rw [← Bool.not_eq_true, Text.eqIgnoreCase_iff]

theorem Text.differ_iff {names : List String} :
    Text.Differ names ↔ (names.map Text.lowered).Nodup := by
  rw [Text.Differ, List.Nodup, List.pairwise_map]
  simp only [Text.eqIgnoreCase_eq_false_iff]

namespace WriteSettings

/-- The columns that every row has, whatever its record. -/
def ownColumns (settings : WriteSettings) : List String :=
  [idPath, settings.deletedColumn, settings.createdAtColumn, settings.createdByColumn,
    settings.createdDeptColumn, settings.updatedAtColumn, settings.updatedByColumn,
    settings.updatedDeptColumn]

/-- Columns that can be written besides those that every row has. -/
structure Admits (settings : WriteSettings) (columns : List String) : Prop where
  differ : Text.Differ columns
  apart : ∀ column ∈ columns, ∀ own ∈ settings.ownColumns, Text.eqIgnoreCase column own = false

variable {settings : WriteSettings} {columns : List String}

theorem Admits.nodup (h : settings.Admits columns) : (columns.map Text.lowered).Nodup :=
  Text.differ_iff.1 h.differ

theorem Admits.not_mem (h : settings.Admits columns) {own : String}
    (hown : own ∈ settings.ownColumns) : Text.lowered own ∉ columns.map Text.lowered := by
  intro hmem
  obtain ⟨column, hcolumn, heq⟩ := List.mem_map.1 hmem
  exact Text.eqIgnoreCase_eq_false_iff.1 (h.apart column hcolumn own hown) heq

/-- All columns of a row are different. -/
theorem Admits.nodup_append (h : settings.Admits columns)
    (hown : Text.Differ settings.ownColumns) :
    ((columns ++ settings.ownColumns).map Text.lowered).Nodup := by
  rw [List.map_append, List.nodup_append]
  refine ⟨h.nodup, Text.differ_iff.1 hown, ?_⟩
  rintro _ hcolumn _ hother rfl
  obtain ⟨own, hmem, heq⟩ := List.mem_map.1 hother
  exact h.not_mem hmem (heq ▸ hcolumn)

/-- Settings that are not refused pass the check. -/
theorem check_of_isOk (h : settings.check.isOk = true) : settings.check = .ok () := by
  cases hcheck : settings.check with
  | ok u => rfl
  | error e =>
    rw [hcheck] at h
    cases h

/-- The columns that settings name are words if they pass the check. -/
theorem isWord_of_check (h : settings.check = .ok ()) :
    ∀ column ∈ settings.columns, Sql.IsWord column := by
  have hall : ∀ {names : List String}, names.forM Sql.checkIdentifier = .ok () →
      ∀ name ∈ names, Sql.IsWord name := by
    intro names
    induction names with
    | nil => exact fun _ _ hmem => absurd hmem List.not_mem_nil
    | cons name names ih =>
      intro hnames other hmem
      obtain ⟨_, hname, hrest⟩ := bind_eq_ok_iff.1 hnames
      rcases List.mem_cons.1 hmem with rfl | hmem
      · apply Sql.isWord_of_isIdentifier
        rw [Sql.isIdentifier]
        rw [Sql.checkIdentifier] at hname
        cases hfault : Sql.identifierFault? other with
        | none => rfl
        | some fault =>
          rw [hfault] at hname
          cases hname
      · exact ih hrest other hmem
  exact hall h

end WriteSettings

/-- The column of a member of a sound card is an identifier. -/
theorem SoundCard.isIdentifier_memberColumn? {card : SoundCard} {name column : String}
    (h : card.memberColumn? name = some column) : Sql.isIdentifier column = true := by
  rw [Card.memberColumn?] at h
  split at h
  · rename_i f hf
    rw [← Option.some.inj h]
    exact card.isIdentifier_field (List.mem_of_find?_eq_some hf)
  · obtain ⟨r, hr, rfl⟩ := Option.map_eq_some_iff.1 h
    exact card.isIdentifier_reference (List.mem_of_find?_eq_some hr)

/-! ## §2. Statements of a write. -/

namespace Writer

variable (w : Writer) (paths : List (String × String))

/-- The table and all columns of a writer are words. -/
structure Named : Prop where
  table : Sql.IsWord w.card.table
  settings : ∀ column ∈ w.settings.columns, Sql.IsWord column
  paths : ∀ p ∈ paths, Sql.IsWord p.2

/-- A writer for a sound card has names only, and so have the columns of all models. -/
theorem named_writablePaths {settings : WriteSettings} (h : settings.check = .ok ())
    (card : SoundCard) (d : Sql.Dialect) (model : List String) :
    Named ⟨card.toCard, settings, d⟩ (writablePaths ⟨card.toCard, settings, d⟩ model) where
  table := Sql.isWord_of_isIdentifier card.isIdentifier_table
  settings := WriteSettings.isWord_of_check h
  paths := by
    intro p hp
    obtain ⟨path, _, hmapped⟩ := List.mem_filterMap.1 hp
    obtain ⟨column, hcolumn, rfl⟩ := Option.map_eq_some_iff.1 hmapped
    exact Sql.isWord_of_isIdentifier (SoundCard.isIdentifier_memberColumn? hcolumn)

variable {w paths}

theorem Named.updatedItems (h : w.Named paths) : w.updatedItems.Named := by
  have hsettings := h.settings
  unfold Sql.Assignments.Named
  simp only [Writer.updatedItems, WriteSettings.columns, List.forall_mem_cons] at hsettings ⊢
  exact ⟨hsettings.2.2.2.1, hsettings.2.2.2.2.1, hsettings.2.2.2.2.2.1, by simp⟩

theorem Named.createdItems (h : w.Named paths) : w.createdItems.Named := by
  have hsettings := h.settings
  unfold Sql.Assignments.Named
  simp only [Writer.createdItems, WriteSettings.columns, List.forall_mem_cons] at hsettings ⊢
  exact ⟨hsettings.1, hsettings.2.1, hsettings.2.2.1, by simp⟩

theorem Named.assignments (h : w.Named paths) (r : Record) : (assignments paths r).Named := by
  intro a ha
  obtain ⟨p, hp, rfl⟩ := List.mem_map.1 ha
  exact h.paths p hp

theorem Named.marker (h : w.Named paths) : Sql.IsWord w.settings.deletedColumn :=
  h.settings _ (by simp [WriteSettings.columns])

/-- What an update of the row of a record sets. -/
def changes (w : Writer) (paths : List (String × String)) (r : Record) : Sql.Assignments :=
  assignments paths r ++ w.updatedItems

/-- **What an insertion sets**: the identifier, what the record says, the marker unless it is among
that, and the columns of the creation and of the last change. -/
theorem exists_marker (w : Writer) (row : Sql.Assignments) (id : Value) :
    ∃ marker : Sql.Assignments, marker.Sublist
        [(w.settings.deletedColumn, .bound (.string w.settings.notDeletedValue))]
      ∧ (w.insert row id).items
        = (idPath, .bound id) :: (row ++ (marker ++ (w.createdItems ++ w.updatedItems))) := by
  show ∃ marker : Sql.Assignments, _ ∧ w.insertItems row id ++ w.createdItems ++ w.updatedItems = _
  unfold insertItems
  dsimp only
  split
  · exact ⟨[], List.nil_sublist _, by simp only [List.cons_append, List.nil_append,
      List.append_assoc]⟩
  · exact ⟨_, .refl _, by simp only [List.cons_append, List.append_assoc]⟩

theorem Named.update (h : w.Named paths) (r : Record) (id : Value) :
    (w.update (Writer.assignments paths r) id).sets.Named :=
  (h.assignments r).append h.updatedItems

theorem Named.insert (h : w.Named paths) (r : Record) (id : Value) :
    (w.insert (Writer.assignments paths r) id).items.Named := by
  obtain ⟨marker, hmarker, heq⟩ := w.exists_marker (Writer.assignments paths r) id
  have hid : Sql.IsWord idPath := by decide
  have hmarked : marker.Named := by
    intro a ha
    rw [List.mem_singleton.1 (hmarker.subset ha)]
    exact h.marker
  have hbehind := (h.assignments r).append (hmarked.append (h.createdItems.append h.updatedItems))
  rw [heq]
  exact List.forall_mem_cons.2 ⟨hid, hbehind⟩

theorem columns_assignments (paths : List (String × String)) (r : Record) :
    (assignments paths r).columns = (paths.map Prod.snd).map Text.lowered := by
  rw [Sql.Assignments.columns, assignments, List.map_map, List.map_map]
  rfl

theorem mem_values_assignments {p : String × String} (hp : p ∈ paths) (s : Server) (r : Record) :
    (Text.lowered p.2, (r.get? p.1).getD .null) ∈ s.values (assignments paths r) :=
  List.mem_map_of_mem (List.mem_map_of_mem hp)

/-- What an update sets is among what an insertion sets. -/
theorem changes_subset_insert (w : Writer) (paths : List (String × String)) (r : Record)
    (id : Value) : w.changes paths r ⊆ (w.insert (assignments paths r) id).items := by
  obtain ⟨marker, _, heq⟩ := w.exists_marker (assignments paths r) id
  rw [heq]
  intro a ha
  refine List.mem_cons_of_mem _ ?_
  rcases List.mem_append.1 ha with ha | ha
  · exact List.mem_append_left _ ha
  · exact List.mem_append_right _ (List.mem_append_right _ (List.mem_append_right _ ha))

/-- A row is inserted under the identifier that comes first. -/
theorem lookup_insert (w : Writer) (s : Server) (row : Sql.Assignments) (id : Value) :
    (s.values (w.insert row id).items).lookup (Text.lowered idPath) = some id := by
  obtain ⟨marker, _, heq⟩ := w.exists_marker row id
  rw [heq]
  exact List.lookup_cons_self

/-- An update sets the columns of the record, and nothing else that it sets touches them. -/
theorem assign_changes (h : w.settings.Admits (paths.map Prod.snd)) (s : Server) (row : Stored)
    (r : Record) {p : String × String} (hp : p ∈ paths) :
    assign row (s.values (w.changes paths r)) (Text.lowered p.2) = (r.get? p.1).getD .null := by
  have happart : Text.lowered p.2 ∉ (s.values w.updatedItems).map Prod.fst := by
    intro hmem
    rw [Server.map_fst_values, Sql.Assignments.columns] at hmem
    obtain ⟨a, ha, heq⟩ := List.mem_map.1 hmem
    have hown : a.1 ∈ w.settings.ownColumns := by
      simp only [updatedItems, List.mem_cons, List.not_mem_nil, or_false] at ha
      rcases ha with rfl | rfl | rfl <;> simp [WriteSettings.ownColumns]
    refine h.not_mem hown ?_
    rw [heq]
    exact List.mem_map_of_mem (List.mem_map_of_mem hp)
  have hnodup : ((s.values (assignments paths r)).map Prod.fst).Nodup := by
    rw [Server.map_fst_values, columns_assignments]
    exact h.nodup
  rw [changes, Server.values_append, assign_append, assign_of_not_mem happart]
  exact assign_of_mem hnodup (mem_values_assignments hp s r)

/-- All columns of an update are different, also from the identifier. -/
theorem nodup_columns_changes (hc : w.settings.Admits (paths.map Prod.snd))
    (ho : Text.Differ w.settings.ownColumns) (r : Record) :
    (Text.lowered idPath :: (w.changes paths r).columns).Nodup := by
  have hcolumns : (w.changes paths r).columns
      = (paths.map Prod.snd).map Text.lowered ++ w.updatedItems.columns := by
    rw [← columns_assignments paths r]
    exact List.map_append
  have hown : (Text.lowered idPath :: w.updatedItems.columns).Sublist
      (w.settings.ownColumns.map Text.lowered) :=
    .cons_cons _ (.cons _ (.cons _ (.cons _ (.cons _ (.refl _)))))
  have hall := hc.nodup_append ho
  rw [List.map_append] at hall
  rw [hcolumns]
  exact List.perm_middle.nodup_iff.1 (hall.sublist (hown.append_left _))

/-- So are those of an insertion. -/
theorem nodup_columns_insert (hc : w.settings.Admits (paths.map Prod.snd))
    (ho : Text.Differ w.settings.ownColumns) (r : Record) (id : Value) :
    (w.insert (assignments paths r) id).items.columns.Nodup := by
  obtain ⟨marker, hmarker, heq⟩ := w.exists_marker (assignments paths r) id
  have hcolumns : (w.insert (assignments paths r) id).items.columns
      = Text.lowered idPath :: ((paths.map Prod.snd).map Text.lowered
        ++ Sql.Assignments.columns (marker ++ (w.createdItems ++ w.updatedItems))) := by
    rw [heq, ← columns_assignments paths r]
    exact congrArg _ List.map_append
  -- whether the marker is there or not, the other columns are all different
  have hown : (Text.lowered idPath :: Sql.Assignments.columns
      (marker ++ (w.createdItems ++ w.updatedItems))).Sublist
        (w.settings.ownColumns.map Text.lowered) :=
    .cons_cons _ ((hmarker.append (.refl _)).map _)
  have hall := hc.nodup_append ho
  rw [List.map_append] at hall
  rw [hcolumns]
  exact List.perm_middle.nodup_iff.1 (hall.sublist (hown.append_left _))

end Writer

/-! ## §3. What saving a record does. -/

section

variable [DecidableEq Value]

namespace Writer

variable {w : Writer} {paths : List (String × String)} {s : Server}

theorem perform_sendUpdate (hd : s.dialect = w.dialect) (hn : w.Named paths) (r : Record)
    (id : Value) :
    s.perform (w.sendUpdate (w.update (assignments paths r) id))
      = s.update (w.update (assignments paths r) id) := by
  have hne : (w.update (assignments paths r) id).sets ≠ [] :=
    List.append_ne_nil_of_right_ne_nil _ (List.cons_ne_nil _ _)
  rw [sendUpdate, Server.perform_execute, ← hd]
  exact s.execute_update hn.table (hn.update r id) hne

theorem perform_sendInsert (hd : s.dialect = w.dialect) (hn : w.Named paths) (r : Record)
    (id : Value) :
    s.perform (w.sendInsert (w.insert (assignments paths r) id))
      = ((s.insert (w.insert (assignments paths r) id)).1.map fun _ => (),
        (s.insert (w.insert (assignments paths r) id)).2) := by
  have hne : (w.insert (assignments paths r) id).items ≠ [] :=
    List.append_ne_nil_of_right_ne_nil _ (List.cons_ne_nil _ _)
  have hexecute : s.perform (Work.execute ((w.insert (assignments paths r) id).text w.dialect)
      (w.insert (assignments paths r) id).params) = s.insert (w.insert (assignments paths r) id) := by
    rw [Server.perform_execute, ← hd]
    exact s.execute_insert hn.table (hn.insert r id) hne
  rw [sendInsert, Server.perform_bind, hexecute]
  cases s.insert (w.insert (assignments paths r) id) with
  | mk answer s' =>
    cases answer with
    | error e => rfl
    | ok o => rfl

/-- An insertion, and then a result. -/
theorem perform_sendInsert_bind (hd : s.dialect = w.dialect) (hn : w.Named paths) (r : Record)
    (id : Value) (result : Record) :
    s.perform (do
      w.sendInsert (w.insert (assignments paths r) id)
      return result)
      = ((s.insert (w.insert (assignments paths r) id)).1.map fun _ => result,
        (s.insert (w.insert (assignments paths r) id)).2) := by
  rw [Server.perform_bind, perform_sendInsert hd hn]
  cases s.insert (w.insert (assignments paths r) id) with
  | mk answer s' =>
    cases answer with
    | error e => rfl
    | ok o => rfl

/-- **A record with an identifier** is updated, and inserted if no row is reported. -/
theorem perform_save_of_id (hd : s.dialect = w.dialect) (hn : w.Named paths) {r : Record}
    {id : Value} (hid : r.id? = some id) (ht : id.isTruthy = true) :
    s.perform (w.save paths r) = match s.update (w.update (assignments paths r) id) with
      | (.error e, s) => (.error e, s)
      | (.ok o, s) =>
        if o.affected = 0 then
          ((s.insert (w.insert (assignments paths r) id)).1.map fun _ => r,
            (s.insert (w.insert (assignments paths r) id)).2)
        else (.ok r, s) := by
  have hhas : r.hasId = true := Record.hasId_eq_true_iff.2 ⟨id, hid, ht⟩
  have hdialect := s.dialect_update (w.update (assignments paths r) id)
  rw [save]
  dsimp only
  rw [if_pos hhas, hid, Option.getD_some, Server.perform_bind, perform_sendUpdate hd hn]
  cases hupdate : s.update (w.update (assignments paths r) id) with
  | mk answer s' =>
    rw [hupdate] at hdialect
    cases answer with
    | error e => rfl
    | ok o =>
      dsimp only
      split
      · rw [Server.perform_note_bind]
        exact perform_sendInsert_bind (hdialect.trans hd) hn r id r
      · rfl

/-- **A record without an identifier** is inserted under a new one. -/
theorem perform_save_of_no_id (hd : s.dialect = w.dialect) (hn : w.Named paths) {r : Record}
    (hnone : r.hasId = false) :
    s.perform (w.save paths r)
      = ((s.renewed.insert (w.insert (assignments paths r) (.string s.ids.text))).1.map
          fun _ => r.set idPath (.string s.ids.text),
        (s.renewed.insert (w.insert (assignments paths r) (.string s.ids.text))).2) := by
  have hinsert := perform_sendInsert_bind (s := s.renewed) hd hn r (.string s.ids.text)
    (r.set idPath (.string s.ids.text))
  rw [save]
  dsimp only
  rw [if_neg (by rw [hnone]; decide), Server.perform_freshId_bind, hinsert]

end Writer

/-! ## §4. What a save leaves. -/

/-- A row is there under an identifier, and holds the values of a record for paths. -/
def Server.Keeps (s : Server) (id : Value) (paths : List (String × String)) (r : Record) : Prop :=
  ∃ row, s.rows id = some row ∧ ∀ p ∈ paths, row (Text.lowered p.2) = (r.get? p.1).getD .null

namespace Writer

variable {w : Writer} {paths : List (String × String)} {s : Server}

/-- An insertion that succeeds leaves a row of the record. -/
theorem keeps_of_insert {r result saved : Record} {id : Value} {s' : Server}
    (h : ((s.insert (w.insert (assignments paths r) id)).1.map fun _ => result,
        (s.insert (w.insert (assignments paths r) id)).2) = (.ok saved, s')) :
    saved = result ∧ s'.Keeps id paths r ∧ s.Follows id s' := by
  rcases s.insert_cases (w.insert (assignments paths r) id) with
    ⟨e, heq⟩ | ⟨hnodup, id', hlookup, _, heq⟩
  · rw [heq] at h
    cases h
  · rw [lookup_insert] at hlookup
    cases hlookup
    rw [heq] at h
    cases h
    refine ⟨rfl, ⟨_, s.rows_put_self id _, ?_⟩, s.follows_put id _⟩
    intro p hp
    have hdistinct : ((s.values (w.insert (assignments paths r) id).items).map Prod.fst).Nodup := by
      rw [Server.map_fst_values]
      exact hnodup
    refine assign_of_mem hdistinct ?_
    exact List.mem_map_of_mem (w.changes_subset_insert paths r id
      (List.mem_append_left _ (List.mem_map_of_mem hp)))

/-- **What a save that succeeds has left**: a row of the record under its identifier. -/
theorem keeps_of_perform_save (hd : s.dialect = w.dialect) (hn : w.Named paths)
    (hc : w.settings.Admits (paths.map Prod.snd)) {r saved : Record} {s' : Server}
    (h : s.perform (w.save paths r) = (.ok saved, s')) :
    ∃ id, saved.id? = some id ∧ s'.Keeps id paths r ∧ s.Follows id s' := by
  cases hhas : r.hasId with
  | true =>
    obtain ⟨id, hid, ht⟩ := Record.hasId_eq_true_iff.1 hhas
    rw [perform_save_of_id hd hn hid ht] at h
    rcases s.update_cases (w.update (assignments paths r) id) with
      heq | ⟨_, heq⟩ | ⟨row, _, heq⟩
    · rw [heq] at h
      cases h
    -- no row was found, so one is inserted
    · rw [heq] at h
      obtain ⟨rfl, hkeeps, hfollows⟩ := keeps_of_insert h
      exact ⟨id, hid, hkeeps, (s.follows_counted id).trans hfollows⟩
    · rw [heq] at h
      have hkeeps : (s.put id (assign row (s.values (w.changes paths r)))).Keeps id paths r :=
        ⟨_, s.rows_put_self id _, fun p hp => assign_changes hc s row r hp⟩
      dsimp only at h
      split at h
      -- the row is there, so an insertion cannot succeed, but nothing depends on it
      · obtain ⟨rfl, hinserted, hfollows⟩ := keeps_of_insert h
        exact ⟨id, hid, hinserted, (s.follows_put id _).trans hfollows⟩
      · cases h
        exact ⟨id, hid, hkeeps, s.follows_put id _⟩
  | false =>
    rw [perform_save_of_no_id hd hn hhas] at h
    obtain ⟨rfl, hkeeps, hfollows⟩ := keeps_of_insert h
    refine ⟨.string s.ids.text, ?_, hkeeps, (s.follows_renewed _).trans hfollows⟩
    rw [Record.id?, Record.get?_set, if_pos rfl]

/-! ## §5. Which saves succeed. -/

/-- The row of a record after an update of it. -/
def changedRow (w : Writer) (paths : List (String × String)) (s : Server) (r : Record)
    (row : Stored) : Stored := assign row (s.values (w.changes paths r))

/-- The row of a record after an insertion. -/
def newRow (w : Writer) (paths : List (String × String)) (s : Server) (r : Record)
    (id : Value) : Stored :=
  assign (fun _ => .null) (s.values (w.insert (assignments paths r) id).items)

theorem update_of_differ (ht : s.table = w.card.table)
    (hc : w.settings.Admits (paths.map Prod.snd)) (ho : Text.Differ w.settings.ownColumns)
    (r : Record) (id : Value) :
    s.update (w.update (assignments paths r) id) = match s.rows id with
      | none => (.ok (.ofAffected 0), s.counted)
      | some row =>
        (.ok (.ofAffected (s.reported row (s.values (w.changes paths r)))),
          s.put id (w.changedRow paths s r row)) :=
  if_pos ⟨ht.symm, (List.nodup_cons.1 (nodup_columns_changes hc ho r)).1⟩

theorem insert_of_differ (ht : s.table = w.card.table)
    (hc : w.settings.Admits (paths.map Prod.snd)) (ho : Text.Differ w.settings.ownColumns)
    (r : Record) (id : Value) :
    s.insert (w.insert (assignments paths r) id) =
      if (s.rows id).isSome then (.error Server.duplicate, s)
      else (.ok (.ofAffected 1), s.put id (w.newRow paths s r id)) := by
  have haccepted : (w.insert (assignments paths r) id).table = s.table
      ∧ (w.insert (assignments paths r) id).items.columns.Nodup :=
    ⟨ht.symm, nodup_columns_insert hc ho r id⟩
  unfold Server.insert
  rw [if_pos haccepted, lookup_insert]
  rfl

variable (hd : s.dialect = w.dialect) (ht : s.table = w.card.table) (hn : w.Named paths)
  (hc : w.settings.Admits (paths.map Prod.snd)) (ho : Text.Differ w.settings.ownColumns)
  {r : Record} {id : Value}

include hd ht hn hc ho

/-- **A record whose row is there** is saved if the update reports it.  If it does not, the row is
there all the same, and the insertion fails. -/
theorem perform_save_of_row (hid : r.id? = some id) (htruthy : id.isTruthy = true) {row : Stored}
    (hrow : s.rows id = some row) :
    s.perform (w.save paths r)
      = (if s.reported row (s.values (w.changes paths r)) = 0
          then .error Server.duplicate else .ok r,
        s.put id (w.changedRow paths s r row)) := by
  have hinsert : (s.put id (w.changedRow paths s r row)).insert (w.insert (assignments paths r) id)
      = (.error Server.duplicate, s.put id (w.changedRow paths s r row)) := by
    rw [insert_of_differ (s := s.put id (w.changedRow paths s r row)) ht hc ho, s.rows_put_self]
    rfl
  rw [perform_save_of_id hd hn hid htruthy, update_of_differ ht hc ho, hrow]
  dsimp only
  rw [hinsert]
  show (if s.reported row _ = 0 then _ else _) = _
  split <;> rfl

/-- **A record whose row is not there** is inserted. -/
theorem perform_save_of_no_row (hid : r.id? = some id) (htruthy : id.isTruthy = true)
    (hrow : s.rows id = none) :
    s.perform (w.save paths r) = (.ok r, s.counted.put id (w.newRow paths s.counted r id)) := by
  have hinsert : s.counted.insert (w.insert (assignments paths r) id)
      = (.ok (.ofAffected 1), s.counted.put id (w.newRow paths s.counted r id)) := by
    rw [insert_of_differ (s := s.counted) ht hc ho]
    show (if (s.rows id).isSome then _ else _) = _
    rw [hrow]
    rfl
  rw [perform_save_of_id hd hn hid htruthy, update_of_differ ht hc ho, hrow]
  dsimp only
  rw [hinsert]
  rfl

/-- **A record without an identifier** is inserted if the new identifier is not taken. -/
theorem perform_save_of_fresh (hnone : r.hasId = false)
    (hrow : s.rows (.string s.ids.text) = none) :
    s.perform (w.save paths r)
      = (.ok (r.set idPath (.string s.ids.text)),
        s.renewed.put (.string s.ids.text) (w.newRow paths s.renewed r (.string s.ids.text))) := by
  have hinsert : s.renewed.insert (w.insert (assignments paths r) (.string s.ids.text))
      = (.ok (.ofAffected 1),
        s.renewed.put (.string s.ids.text) (w.newRow paths s.renewed r (.string s.ids.text))) := by
    rw [insert_of_differ (s := s.renewed) ht hc ho]
    show (if (s.rows (.string s.ids.text)).isSome then _ else _) = _
    rw [hrow]
    rfl
  rw [perform_save_of_no_id hd hn hnone, hinsert]
  rfl

omit hd ht hn hc ho in
/-- A write of one record saves it. -/
theorem perform_writeRecords_singleton (w : Writer) (s : Server) (model : List String) (r : Record) :
    s.perform (w.writeRecords model [r])
      = ((s.perform (w.save (w.writablePaths model) r)).1.map ([·]),
        (s.perform (w.save (w.writablePaths model) r)).2) := by
  rw [writeRecords, Server.perform_bind, saveAll, Server.perform_bind]
  cases s.perform (w.save (w.writablePaths model) r) with
  | mk answer s' =>
    cases answer with
    | error e => rfl
    | ok saved => rfl

end Writer

end

end CardStore
