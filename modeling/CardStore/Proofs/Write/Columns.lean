/-
  CardStore.Proofs.Write.Columns
  ──────────────────────────────
  **WHICH WRITES NAME A COLUMN TWICE.**

  The columns of a write come from the paths of its model and from the
  settings.  Paths are skipped by their names and not by their columns, and a
  model is taken as it is: two of its paths may have one column, and a path
  may have a column that the settings set by themselves.  Only the marker is
  looked for among the columns.  A statement names no column twice exactly if
  none of this happens.

  Main statements:
    * `Writer.differ_preparedUpdate_iff`, `Writer.differ_preparedInsert_iff` — when the columns of
      a statement are all different.
    * `Writer.differ_writeRecords_iff` — so it is for all statements of a write.
-/
import CardStore.Proofs.Write.Slots

namespace CardStore

open Sql (PreparedTerm PreparedInsert PreparedUpdate)

/-! ## §1. Names and columns. -/

namespace Text

/-- Names that are different from each other and from others. -/
structure DifferFrom (others names : List String) : Prop where
  differ : Differ names
  apart : ∀ name ∈ names, ∀ other ∈ others, eqIgnoreCase name other = false

theorem differ_append_iff {names others : List String} (h : Differ others) :
    Differ (names ++ others) ↔ DifferFrom others names := by
  rw [Differ, List.pairwise_append]
  constructor
  · rintro ⟨hnames, _, happart⟩
    exact ⟨hnames, happart⟩
  · rintro ⟨hnames, happart⟩
    exact ⟨hnames, h, happart⟩

/-- The order of names does not matter. -/
theorem differ_perm {names names' : List String} (h : names.Perm names') :
    Differ names ↔ Differ names' :=
  h.pairwise_iff fun hne => eqIgnoreCase_comm _ _ ▸ hne

end Text

namespace WriteSettings

variable (settings : WriteSettings)

/-- The columns of the last change. -/
def updatedColumns : List String :=
  [settings.updatedAtColumn, settings.updatedByColumn, settings.updatedDeptColumn]

/-- The columns of the creation and of the last change. -/
def auditColumns : List String :=
  [settings.createdAtColumn, settings.createdByColumn, settings.createdDeptColumn]
    ++ settings.updatedColumns

end WriteSettings

namespace Writer

variable {w : Writer} {paths : List (String × String)}

theorem map_fst_columnSlots (paths : List (String × String)) (first : Nat) :
    (columnSlots paths first).map Prod.fst = paths.map Prod.snd := by
  apply List.ext_getElem?
  intro k
  rw [columnSlots, List.getElem?_map, List.getElem?_mapIdx, List.getElem?_map, Option.map_map]
  rfl

/-- **The columns of an update** are all different exactly if those of the paths are, and are none
of those of the last change. -/
theorem differ_preparedUpdate_iff (h : Text.Differ w.settings.updatedColumns) :
    Text.Differ ((w.preparedUpdate paths).sets.map Prod.fst)
      ↔ Text.DifferFrom w.settings.updatedColumns (paths.map Prod.snd) := by
  have hcolumns : (w.preparedUpdate paths).sets.map Prod.fst
      = paths.map Prod.snd ++ w.settings.updatedColumns := by
    rw [preparedUpdate, List.map_append, map_fst_columnSlots]
    rfl
  rw [hcolumns, Text.differ_append_iff h]

/-- The marker is added only where it is no column of the paths. -/
theorem differ_marker_iff (h : Text.Differ (idPath :: w.settings.columns)) :
    Text.Differ (paths.map Prod.snd
        ++ ((w.markerTerms paths).map Prod.fst ++ (idPath :: w.settings.auditColumns)))
      ↔ Text.DifferFrom (idPath :: w.settings.auditColumns) (paths.map Prod.snd) := by
  have hmarked : Text.Differ (w.settings.deletedColumn :: (idPath :: w.settings.auditColumns)) := by
    have hsub : ((idPath :: w.settings.auditColumns) ++ [w.settings.deletedColumn]).Sublist
        (idPath :: w.settings.columns) :=
      .cons_cons _ (.append_left (l := w.settings.auditColumns) (.cons_cons _ (.cons _ .slnil)))
    exact (Text.differ_perm (List.perm_append_singleton _ _)).1 (h.sublist hsub)
  rw [markerTerms]
  split
  · exact Text.differ_append_iff (List.pairwise_cons.1 hmarked).2
  · rename_i hmarker
    have happart : ∀ column ∈ paths.map Prod.snd,
        Text.eqIgnoreCase column w.settings.deletedColumn = false := by
      intro column hcolumn
      rw [List.any_eq_true, not_exists] at hmarker
      exact Bool.eq_false_iff.2 fun heq => hmarker column ⟨List.mem_cons_of_mem _ hcolumn, heq⟩
    rw [List.map_singleton, List.singleton_append, Text.differ_append_iff hmarked]
    constructor
    · intro hfrom
      exact ⟨hfrom.differ, fun column hcolumn other hother =>
        hfrom.apart column hcolumn other (List.mem_cons_of_mem _ hother)⟩
    · intro hfrom
      refine ⟨hfrom.differ, fun column hcolumn => ?_⟩
      rw [List.forall_mem_cons]
      exact ⟨happart column hcolumn, hfrom.apart column hcolumn⟩

/-- **The columns of an insertion** are all different exactly if those of the paths are, and are
neither the identifier nor among those of the creation and of the last change.  The marker may be
among them. -/
theorem differ_preparedInsert_iff (h : Text.Differ (idPath :: w.settings.columns)) :
    Text.Differ ((w.preparedInsert paths).items.map Prod.fst)
      ↔ Text.DifferFrom (idPath :: w.settings.auditColumns) (paths.map Prod.snd) := by
  have hcolumns : (w.preparedInsert paths).items.map Prod.fst
      = idPath :: (paths.map Prod.snd
        ++ ((w.markerTerms paths).map Prod.fst ++ w.settings.auditColumns)) := by
    rw [preparedInsert, List.map_append, List.cons_append, List.map_cons, List.map_append,
      map_fst_columnSlots, List.cons_append, List.append_assoc]
    rfl
  -- the identifier may as well stand behind the marker
  have hperm : (idPath :: (paths.map Prod.snd
      ++ ((w.markerTerms paths).map Prod.fst ++ w.settings.auditColumns))).Perm
        (paths.map Prod.snd
          ++ ((w.markerTerms paths).map Prod.fst ++ (idPath :: w.settings.auditColumns))) := by
    rw [← List.append_assoc, ← List.append_assoc]
    exact List.perm_middle.symm
  rw [hcolumns, Text.differ_perm hperm, differ_marker_iff h]

end Writer

/-! ## §2. All statements of a write. -/

/-- The update that a server prepares of what it is sent. -/
def Exchange.updated? (d : Sql.Dialect) : Exchange → Option PreparedUpdate
  | .executed _ _ native _ _ => PreparedUpdate.ofText? d native
  | _ => none

/-- The insertion that a server prepares of what it is sent. -/
def Exchange.inserted? (d : Sql.Dialect) : Exchange → Option PreparedInsert
  | .executed _ _ native _ _ => PreparedInsert.ofText? d native
  | _ => none

/-- A statement of a write is prepared as its update, which takes an identifier, or as its
insertion. -/
theorem Writer.prepared_of_linesUp {w : Writer} {paths : List (String × String)} {connection : Nat}
    {r : Record} {e : Exchange} (h : w.LinesUp paths connection r e) :
    e.updated? w.dialect = some (w.preparedUpdate paths) ∧ r.hasId = true
      ∨ e.inserted? w.dialect = some (w.preparedInsert paths) := by
  obtain ⟨native, params, answer, rfl, _, hlined⟩ := h
  cases hlined with
  | update hid htruthy hread _ =>
    exact .inl ⟨hread, Record.hasId_eq_true_iff.2 ⟨_, hid, htruthy⟩⟩
  | insert _ hread _ => exact .inr hread

variable {σ : Type}

/-- **Which statements of a write name a column twice**: an update does unless the columns of the
paths are all different and none is one of the last change, an insertion does unless they are all
different and none is the identifier or one of the creation or of the last change. -/
theorem Writer.differ_writeRecords_iff (b : Backend σ) (x : Executor) {connection : Nat}
    {c : Context (σ × List Exchange)} (hlive : c.connectionOf? x.transaction = some connection)
    {settings : WriteSettings} (hcheck : settings.check = .ok ())
    (hown : Text.Differ (idPath :: settings.columns)) (card : SoundCard) (model : List String)
    (records : List Record) :
    let w : Writer := ⟨card.toCard, settings, x.dialect⟩
    let columns := (w.writablePaths model).map Prod.snd
    ∃ es, ((x.perform b.recorded (w.writeRecords model records)).run c).2.backend.2
        = c.backend.2 ++ es
      ∧ ∀ e ∈ es,
        (∃ u, e.updated? x.dialect = some u
          ∧ (Text.Differ (u.sets.map Prod.fst) ↔ Text.DifferFrom settings.updatedColumns columns))
        ∨ ∃ i, e.inserted? x.dialect = some i
          ∧ (Text.Differ (i.items.map Prod.fst)
            ↔ Text.DifferFrom (idPath :: settings.auditColumns) columns) := by
  intro w columns
  have hupdated : Text.Differ w.settings.updatedColumns := by
    have hsub : settings.updatedColumns.Sublist (idPath :: settings.columns) :=
      .cons _ (.cons _ (.cons _ (.cons _ (List.sublist_append_left settings.updatedColumns
        [settings.deletedColumn, settings.pathColumn]))))
    exact hown.sublist hsub
  obtain ⟨es, hdialogue, htrace, _⟩ :=
    Executor.dialogue_perform b x (w.writeRecords model records) c hlive
  refine ⟨es, htrace, ?_⟩
  intro e he
  obtain ⟨r, _, hup⟩ := linesUp_of_dialogue connection
    (named_writablePaths hcheck card x.dialect model) hdialogue e he
  rcases prepared_of_linesUp hup with ⟨hread, _⟩ | hread
  · exact .inl ⟨_, hread, differ_preparedUpdate_iff hupdated⟩
  · exact .inr ⟨_, hread, differ_preparedInsert_iff hown⟩

/-- A person is updated and inserted, and no column is named twice. -/
theorem differ_writeRecords_person :
    ∃ es, ((Executor.perform Cards.emptyTables.recorded ⟨"default", .oracle, 0⟩
        (quotedWriter.writeRecords ["name"]
          [Record.ofList [("ID", .string "P1"), ("name", .string "Li")]])).run
            liveContext).2.backend.2 = es
      ∧ es.length = 2
      ∧ ∀ e ∈ es, (∃ u, e.updated? .oracle = some u ∧ Text.Differ (u.sets.map Prod.fst))
        ∨ ∃ i, e.inserted? .oracle = some i ∧ Text.Differ (i.items.map Prod.fst) := by
  have hlive : liveContext.connectionOf? 0 = some 7 := rfl
  have hown : Text.Differ (idPath :: quotedWriter.settings.columns) := by decide +kernel
  have hlength : ((Executor.perform Cards.emptyTables.recorded ⟨"default", .oracle, 0⟩
      (quotedWriter.writeRecords ["name"] [Record.ofList [("ID", .string "P1"),
        ("name", .string "Li")]])).run liveContext).2.backend.2.length = 2 := by
    decide +kernel
  have hcolumns : (quotedWriter.writablePaths ["name"]).map Prod.snd = ["MC"] := by decide +kernel
  have hupdate : Text.DifferFrom quotedWriter.settings.updatedColumns ["MC"] :=
    ⟨by decide +kernel, by decide +kernel⟩
  have hinsert : Text.DifferFrom (idPath :: quotedWriter.settings.auditColumns) ["MC"] :=
    ⟨by decide +kernel, by decide +kernel⟩
  have hwriter : (⟨personCard.toCard, quotedWriter.settings, .oracle⟩ : Writer) = quotedWriter :=
    rfl
  have hnil : liveContext.backend.2 = [] := rfl
  have h := Writer.differ_writeRecords_iff Cards.emptyTables ⟨"default", .oracle, 0⟩ hlive
    check_quotedWriter hown personCard ["name"]
    [Record.ofList [("ID", .string "P1"), ("name", .string "Li")]]
  dsimp only at h
  rw [hwriter, hnil, hcolumns] at h
  obtain ⟨es, htrace, hes⟩ := h
  rw [List.nil_append] at htrace
  rw [htrace] at hlength
  refine ⟨es, htrace, hlength, ?_⟩
  intro e he
  rcases hes e he with ⟨u, hu, hiff⟩ | ⟨i, hi, hiff⟩
  · exact .inl ⟨u, hu, hiff.2 hupdate⟩
  · exact .inr ⟨i, hi, hiff.2 hinsert⟩

/-! ## §3. Columns that are named twice. -/

/-- A card with two members of one column, and a member whose column the settings set. -/
def clashingCard : SoundCard :=
  ⟨(((Card.ofTable "person" "STAFF").withField "name" "MC" "Text").withField
    "title" "MC" "Text").withField "changed" "RUDAT" "Text", by decide +kernel⟩

/-- What is sent to write a person that is not there yet. -/
def clashingTrace (settings : WriteSettings) (model : List String) (r : Record) : List Exchange :=
  ((Executor.perform Cards.emptyTables.recorded ⟨"default", .mysql, 0⟩
    (Writer.writeRecords ⟨clashingCard.toCard, settings, .mysql⟩ model [r])).run
      liveContext).2.backend.2

/-- The statements of such a write are those of its record. -/
theorem prepared_clashingTrace {settings : WriteSettings} (hcheck : settings.check.isOk = true)
    (model : List String) (r : Record) : ∀ e ∈ clashingTrace settings model r,
      let w : Writer := ⟨clashingCard.toCard, settings, .mysql⟩
      e.updated? .mysql = some (w.preparedUpdate (w.writablePaths model)) ∧ r.hasId = true
        ∨ e.inserted? .mysql = some (w.preparedInsert (w.writablePaths model)) := by
  have hok : settings.check = .ok () := WriteSettings.check_of_isOk hcheck
  obtain ⟨es, hdialogue, htrace, _⟩ := Executor.dialogue_perform Cards.emptyTables
    ⟨"default", .mysql, 0⟩ (Writer.writeRecords ⟨clashingCard.toCard, settings, .mysql⟩ model [r])
    liveContext (show liveContext.connectionOf? 0 = some 7 from rfl)
  have hes : clashingTrace settings model r = [] ++ es := htrace
  intro e he w
  rw [hes, List.nil_append] at he
  obtain ⟨r', hr', hup⟩ := Writer.linesUp_of_dialogue 7
    (Writer.named_writablePaths hok clashingCard .mysql model) hdialogue e he
  rw [List.mem_singleton.1 hr'] at hup
  exact Writer.prepared_of_linesUp hup

/-- Settings with two columns that only the case of their letters tells apart. -/
def shoutingSettings : WriteSettings := { WriteSettings.standard with createdAtColumn := "rudat" }

/-- **Columns are named twice** where a model repeats a path, where two paths have one column, where
a path has a column that the settings set, and where the settings tell two columns apart by case. -/
theorem not_differ_clashingTrace :
    let person := Record.ofList [("ID", .string "P1"), ("name", .string "Li")]
    WriteSettings.standard.check.isOk = true
      ∧ Text.Differ (idPath :: WriteSettings.standard.columns)
      ∧ shoutingSettings.check.isOk = true ∧ (idPath :: shoutingSettings.columns).Nodup
      ∧ (∀ model ∈ [["name", "name"], ["name", "title"], ["changed"]],
        (clashingTrace .standard model person).length = 2
          ∧ ∀ e ∈ clashingTrace .standard model person,
            (∃ u, e.updated? .mysql = some u ∧ ¬ Text.Differ (u.sets.map Prod.fst))
              ∨ ∃ i, e.inserted? .mysql = some i ∧ ¬ Text.Differ (i.items.map Prod.fst))
      ∧ (clashingTrace shoutingSettings ["name"] .empty).length = 1
      ∧ ∀ e ∈ clashingTrace shoutingSettings ["name"] .empty,
        ∃ i, e.inserted? .mysql = some i ∧ ¬ Text.Differ (i.items.map Prod.fst) := by
  intro person
  have hstandard : WriteSettings.standard.check.isOk = true := by decide +kernel
  have hshouting : shoutingSettings.check.isOk = true := by decide +kernel
  have hlengths : ∀ model ∈ [["name", "name"], ["name", "title"], ["changed"]],
      (clashingTrace .standard model person).length = 2 := by decide +kernel
  have hlength : (clashingTrace shoutingSettings ["name"] .empty).length = 1 := by decide +kernel
  have hcolumns : ∀ model ∈ [["name", "name"], ["name", "title"], ["changed"]],
      let w : Writer := ⟨clashingCard.toCard, .standard, .mysql⟩
      ¬ Text.Differ ((w.preparedUpdate (w.writablePaths model)).sets.map Prod.fst)
        ∧ ¬ Text.Differ ((w.preparedInsert (w.writablePaths model)).items.map Prod.fst) := by
    decide +kernel
  have hshouted :
      let w : Writer := ⟨clashingCard.toCard, shoutingSettings, .mysql⟩
      ¬ Text.Differ ((w.preparedInsert (w.writablePaths ["name"])).items.map Prod.fst) := by
    decide +kernel
  refine ⟨hstandard, by decide +kernel, hshouting, by decide +kernel, ?_, hlength, ?_⟩
  · intro model hmodel
    refine ⟨hlengths model hmodel, ?_⟩
    intro e he
    rcases prepared_clashingTrace hstandard model person e he with ⟨hread, _⟩ | hread
    · exact .inl ⟨_, hread, (hcolumns model hmodel).1⟩
    · exact .inr ⟨_, hread, (hcolumns model hmodel).2⟩
  -- a record without an identifier is inserted at once
  · intro e he
    rcases prepared_clashingTrace hshouting ["name"] .empty e he with ⟨_, hid⟩ | hread
    · exact absurd hid (by decide)
    · exact ⟨_, hread, hshouted⟩

end CardStore
