/-
  CardStore.Proofs.Injection
  ──────────────────────────
  **NO DATA IN THE TEXT OF A STATEMENT.**

  Whoever supplies the operands of a filter, the values of records or the
  identifiers to delete decides nothing about the statements but what stands
  between the quotes of a literal.  Everything else of a text is decided by
  cards, models and settings.

  Two queries whose filters differ in data only are compiled alike: the same
  cards are loaded on the way, and then both fail with the same error, or the
  texts of both are the same once their literals are emptied.

  Main statements:
    * `agree_run_compile` — queries that differ in data are compiled alike.
    * `texts_independent_of_data` — texts of reads, writes and deletions for different data.
-/
import CardStore.Proofs.Filter.Alike
import CardStore.Proofs.Query.Compile
import CardStore.Proofs.Query.Slots
import CardStore.Proofs.Write.Texts

namespace CardStore

open Sql (Dialect)

/-- Two queries that differ in the data of their filters only. -/
structure QueryOptions.Alike (o o' : QueryOptions) : Prop where
  filter : Option.Rel Filter.Alike o.filter o'.filter
  order : o.order = o'.order
  rows : o.rows = o'.rows
  page : o.page = o'.page

/-- Two statements with the same text once their literals are emptied. -/
def CompiledQuery.SameBlanked (d : Dialect) (q q' : CompiledQuery) : Prop :=
  ∃ text, d.blanked? (q.text d) = some text ∧ d.blanked? (q'.text d) = some text

namespace QueryOptions

/-- Queries that differ in data name the same paths. -/
theorem Alike.paths_eq {o o' : QueryOptions} (h : o.Alike o') : o.paths = o'.paths := by
  have hfilter := h.filter
  rw [paths, paths, h.order]
  revert hfilter
  generalize o.filter = f
  generalize o'.filter = g
  intro hfilter
  cases hfilter with
  | none => rfl
  | some hfg =>
    show Filter.paths _ ++ _ = Filter.paths _ ++ _
    rw [Filter.paths_eq_of_alike hfg]

end QueryOptions

namespace Query

/-- Selections that differ in alike conditions have the same pieces but for what stands in
literals. -/
theorem map_blank_pieces (columns : List String) (tables : Tables)
    {p p' : Option Sql.Predicate} (h : Option.Rel Sql.Predicate.Alike p p')
    (order : List (String × Direction)) (window : Option Sql.Window) (d : Dialect) :
    (Sql.Select.pieces d ⟨columns, tables, p, order, window⟩).map Sql.Piece.blank
      = (Sql.Select.pieces d ⟨columns, tables, p', order, window⟩).map Sql.Piece.blank := by
  cases h with
  | none => rfl
  | some hpq =>
    simp only [Sql.Select.pieces, List.map_append, hpq d]
    rfl

theorem blanked?_of_named {q : CompiledQuery} (h : q.select.Named) (d : Dialect) :
    d.blanked? (q.text d)
      = some (String.ofList
        (((q.select.pieces d).map Sql.Piece.blank).flatMap Sql.Piece.source)) := by
  have hclean := h.clean (d := d) (Or.inl rfl)
  show Option.map _ (d.readFrom .outside (q.select.text d).toList) = _
  rw [hclean.read, Option.map_some]

theorem agree_assemble {r : Resolved} (hr : r.Named) {o o' : QueryOptions} (h : o.Alike o')
    (d : Dialect) :
    Agree (CompiledQuery.SameBlanked d) (r.assemble o) (r.assemble o') := by
  have hagree : Agree (fun q q' : CompiledQuery =>
      (q.select.pieces d).map Sql.Piece.blank = (q'.select.pieces d).map Sql.Piece.blank)
      (r.assemble o) (r.assemble o') := by
    rw [Resolved.assemble, Resolved.assemble]
    refine Agree.bind (Filter.agree_condition h.filter r.columns) ?_
    intro condition condition' hcondition
    rw [h.order, h.rows, h.page]
    refine Agree.bind (Agree.refl _) ?_
    rintro order _ rfl
    exact .ok (map_blank_pieces _ _ hcondition _ _ d)
  -- only statements that are composed can be read, so the two outcomes are taken apart once more
  generalize hx : r.assemble o = x at hagree
  generalize hy : r.assemble o' = y at hagree
  cases hagree with
  | error e => exact .error e
  | ok hpieces =>
    apply Agree.ok
    refine ⟨_, blanked?_of_named (hr.select hx) d, ?_⟩
    rw [blanked?_of_named (hr.select hy) d, hpieces]

variable {σ : Type}

/-- **Queries that differ in data** are compiled alike, and leave the same context. -/
theorem agree_run_compile (b : Backend σ) (c : Context σ) (card : SoundCard)
    (model : List String) (d : Dialect) {o o' : QueryOptions} (h : o.Alike o') :
    Agree (CompiledQuery.SameBlanked d)
        ((Cards.withLoads b (compile card model o)).run c).1
        ((Cards.withLoads b (compile card model o')).run c).1
      ∧ ((Cards.withLoads b (compile card model o)).run c).2
        = ((Cards.withLoads b (compile card model o')).run c).2 := by
  rw [run_compile, run_compile, h.paths_eq]
  refine ⟨?_, rfl⟩
  cases hr : ((Cards.withLoads b (resolveAll card model o'.paths)).run c).1 with
  | error e => exact .error e
  | ok r => exact agree_assemble (named_of_run_resolveAll b c hr) h d

end Query

theorem Sql.Update.prefix_text (d : Dialect) (u : Sql.Update) :
    "UPDATE ".toList <+: (u.text d).toList := by
  show _ <+: ("UPDATE " ++ u.table ++ _ ++ _ ++ _ ++ _ ++ _).toList
  simp only [String.toList_append, List.append_assoc]
  exact List.prefix_append _ _

theorem Sql.Insert.prefix_text (d : Dialect) (i : Sql.Insert) :
    "INSERT INTO ".toList <+: (i.text d).toList := by
  show _ <+: ("INSERT INTO " ++ i.table ++ _ ++ _ ++ _ ++ _ ++ _).toList
  simp only [String.toList_append, List.append_assoc]
  exact List.prefix_append _ _

theorem Sql.Delete.prefix_text (d : Dialect) (x : Sql.Delete) :
    "DELETE FROM ".toList <+: (x.text d).toList := by
  show _ <+: ("DELETE FROM " ++ x.table ++ _ ++ _ ++ _ ++ _).toList
  simp only [String.toList_append, List.append_assoc]
  exact List.prefix_append _ _

/-- **Texts do not depend on data.**  Queries whose filters differ in data only load the same
cards, fail with the same error or have the same text once its literals are emptied; a write of
any records sends one update text and one insertion text; a deletion of any identifiers sends one
deletion text. -/
theorem texts_independent_of_data {σ : Type} (b : Backend σ) (c : Context σ) (card : SoundCard)
    (model : List String) (d : Dialect) :
    (∀ o o' : QueryOptions, o.Alike o' →
      Agree (CompiledQuery.SameBlanked d)
          ((Cards.withLoads b (Query.compile card model o)).run c).1
          ((Cards.withLoads b (Query.compile card model o')).run c).1
        ∧ ((Cards.withLoads b (Query.compile card model o)).run c).2
          = ((Cards.withLoads b (Query.compile card model o')).run c).2)
    ∧ (∀ settings, ∃ update insert : String,
      "UPDATE ".toList <+: update.toList ∧ "INSERT INTO ".toList <+: insert.toList
        ∧ ∀ records, (Writer.writeRecords ⟨card.toCard, settings, d⟩ model records).run.Asks
          (Work.Sends [update, insert]))
    ∧ ∀ settings scope, ∃ delete : String, "DELETE FROM ".toList <+: delete.toList
      ∧ ∀ ids, (Deleter.deleteRecords ⟨card.toCard, settings, d, scope⟩ ids).run.Asks
        (Work.Sends [delete]) := by
  refine ⟨fun o o' h => Query.agree_run_compile b c card model d h, ?_, ?_⟩
  · intro settings
    -- the texts are those for a record without values; any other record has the same
    let w : Writer := ⟨card.toCard, settings, d⟩
    refine ⟨w.updateText (w.writablePaths model), w.insertText (w.writablePaths model),
      Sql.Update.prefix_text d (w.update (Writer.assignments _ .empty) .null),
      Sql.Insert.prefix_text d (w.insert (Writer.assignments _ .empty) .null),
      fun records => w.asks_writeRecords model records⟩
  · intro settings scope
    let x : Deleter := ⟨card.toCard, settings, d, scope⟩
    exact ⟨x.deleteText, Sql.Delete.prefix_text d (x.delete .null),
      fun ids => x.asks_deleteRecords ids⟩

/-- A pattern that tries to close its literal, in the place of a harmless one. -/
theorem texts_namedOrAged :
    (namedOrAged "a" 18 65).Alike (namedOrAged "\\' OR 1=1 -- ?" 1 2)
      ∧ Agree (CompiledQuery.SameBlanked .mysql)
          ((Cards.withLoads .unreachable (Query.compile peopleCard ["name"]
            (namedOrAged "a" 18 65))).run (Context.ofBackend () default)).1
          ((Cards.withLoads .unreachable (Query.compile peopleCard ["name"]
            (namedOrAged "\\' OR 1=1 -- ?" 1 2))).run (Context.ofBackend () default)).1 := by
  have halike : (namedOrAged "a" 18 65).Alike (namedOrAged "\\' OR 1=1 -- ?" 1 2) := by
    refine ⟨.some (.groups (.cons (.triple ?_ (.triple ?_ .nil)) .nil)), rfl, rfl, rfl⟩
    · exact ⟨rfl, rfl, fun h => absurd h (by decide), fun _ _ => rfl, fun _ _ => rfl⟩
    · exact ⟨rfl, rfl, fun h => absurd h (by decide), fun _ _ => rfl, fun _ _ => rfl⟩
  exact ⟨halike, ((texts_independent_of_data .unreachable (Context.ofBackend () default) peopleCard
    ["name"] .mysql).1 _ _ halike).1⟩

end CardStore
