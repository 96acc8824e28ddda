/-
  CardStore.Proofs.Query.Values
  ─────────────────────────────
  **A READ RETURNS UNDER EACH PATH THE VALUE OF ITS COLUMN.**

  Every path of a model has a route along the tables of the query, and the
  column that is selected for it is the one that this route leads to.  A path
  that is repeated is resolved again, when further tables may have been
  joined; its route has stayed, so the same column is selected again, and it
  does not matter which of its values the record keeps.

  Main statements:
    * `Query.Resolved.Routed.reads` — what is composed from paths with routes is read by them.
    * `Query.reads_of_run_compile` — every compiled query is read by its paths.
-/
import CardStore.Proofs.Query.Reshape
import CardStore.Proofs.Query.Shared

namespace CardStore

/-! ## §1. Records of compiled queries. -/

/-- **What a query reads into a record** where the columns of its tables hold some values. -/
structure CompiledQuery.Reads (q : CompiledQuery) (value : String → Value) (record : Record) :
    Prop where
  /-- The paths of the record are those of the model, in the order of first occurrences. -/
  paths : record.paths = q.model.eraseDups
  identified : idPath ∈ record.paths
  /-- Each path is resolved along the tables of the query to the column that is selected for it,
  and the record holds the value of this column. -/
  values : ∀ (i : Nat) (path : String), q.model[i]? = some path →
    ∃ ref, q.tables.resolve path = .done (.ok ref, q.tables)
      ∧ q.select.columns[i]? = some ref.toColumn.text
      ∧ record.get? path = some (value ref.toColumn.text)

/-- A model that is read has the identifier in it. -/
theorem Card.idPath_mem_normalizeModel (card : Card) (model : List String) :
    idPath ∈ card.normalizeModel model := by
  rw [normalizeModel]
  generalize (if model = [] ∨ model = ["*"] then idPath :: card.memberNames else model) = paths
  show idPath ∈ if idPath ∈ paths then paths else idPath :: paths
  split
  · rename_i hmem
    exact hmem
  · exact List.mem_cons_self

namespace Query

/-- **What is composed** from paths with routes reads under each path the value of the column that
its route leads to. -/
theorem Resolved.Routed.reads {card : SoundCard} {model paths : List String} {r : Resolved}
    (h : r.Routed card model paths) {options : QueryOptions} {q : CompiledQuery}
    (hq : r.assemble options = .ok q) {value : String → Value} {row : Row}
    (hrow : row.Shows (q.select.columns.map value)) : q.Reads value (row.toRecord q.model) := by
  obtain ⟨condition, order, _, _, rfl⟩ := assemble_eq_ok_iff.1 hq
  obtain ⟨routes, _, hroutes, hselected, _⟩ := h.routes
  -- the column at a position of a path is that of its route
  have hcolumn {i : Nat} {path : String} (hi : r.model[i]? = some path) :
      ∃ ref, r.tables.resolve path = .done (.ok ref, r.tables)
        ∧ (r.selected.map (·.toColumn.text))[i]? = some ref.toColumn.text := by
    obtain ⟨route, hroute, htakes⟩ := exists_getElem?_of_forall₂ hroutes hi
    refine ⟨route.target, Tables.resolve_of_takes htakes, ?_⟩
    rw [hselected, List.getElem?_map, List.getElem?_map, hroute]
    rfl
  constructor
  · exact row.paths_toRecord _
  · rw [row.paths_toRecord, List.mem_eraseDups, h.model]
    exact card.idPath_mem_normalizeModel model
  · intro i path hi
    obtain ⟨ref, href, hselects⟩ := hcolumn hi
    refine ⟨ref, href, hselects, row.get?_toRecord_of_forall (List.mem_of_getElem? hi) ?_⟩
    intro j hj
    -- the path is resolved to one column, so the columns at all its positions are the same
    obtain ⟨ref', href', hselects'⟩ := hcolumn hj
    have hsame : ref' = ref := by
      rw [href, Script.done.injEq, Prod.mk.injEq] at href'
      exact (Except.ok.inj href'.1).symm
    refine Row.selected_of_shows hrow ?_
    rw [List.getElem?_map, hselects', hsame]
    rfl

variable {σ : Type}

/-- **A read returns under each path the value of its column**: a row that shows the selected
columns, in any order and any letter case, is made into one record, whose paths are those of the
model and which holds under each of them the value of the column that the path leads to. -/
theorem reads_of_run_compile (b : Backend σ) (c c' : Context σ) (card : SoundCard)
    (model : List String) (options : QueryOptions) (q : CompiledQuery)
    (h : (Cards.withLoads b (compile card model options)).run c = (.ok q, c'))
    (value : String → Value) (fields : List String) (row : Row)
    (hrow : row.Shows (q.select.columns.map value)) :
    q.model = card.normalizeModel model
      ∧ ∃ record, RowSet.reshape ⟨fields, [row]⟩ q.model = [record] ∧ q.Reads value record := by
  obtain ⟨r, hr, hq⟩ := routed_of_run_compile h
  refine ⟨?_, row.toRecord q.model, rfl, hr.reads hq hrow⟩
  obtain ⟨condition, order, _, _, rfl⟩ := Resolved.assemble_eq_ok_iff.1 hq
  exact hr.model

end Query

/-! ## §2. People and the departments of their heads. -/

/-- A row with the names of people and departments, as a backend might return it. -/
def reversedRow : Row where
  columns := ["c3", "C2", "c1", "C0"]
  values := [.string "T0.MC", .string "T1.MC", .string "T0.MC", .string "T0.ID"]

/-- The name of a person is read twice, the second time when a department has been joined. -/
theorem reads_reversedRow :
    ∃ q c', (Cards.withLoads .unreachable (Query.compile personCard
        ["name", "department.name", "name"] .unrestricted)).run staffContext = (.ok q, c')
      ∧ reversedRow.Shows (q.select.columns.map Value.string)
      ∧ q.model = ["ID", "name", "department.name", "name"]
      ∧ ∃ record, RowSet.reshape ⟨reversedRow.columns, [reversedRow]⟩ q.model = [record]
        ∧ q.Reads Value.string record := by
  have hok : (((Cards.withLoads .unreachable (Query.compile personCard
      ["name", "department.name", "name"] .unrestricted)).run
        staffContext).1.toOption.map fun q => q.select.columns)
      = some ["T0.ID", "T0.MC", "T1.MC", "T0.MC"] := by decide +kernel
  obtain ⟨q, c', hrun, hcolumns⟩ := Action.exists_run_of_map hok
  have hshows : reversedRow.Shows (q.select.columns.map Value.string) := by
    rw [hcolumns]
    exact ⟨_, List.reverse_perm _, by decide +kernel, rfl⟩
  obtain ⟨hmodel, hrecord⟩ := Query.reads_of_run_compile .unreachable staffContext c' personCard
    ["name", "department.name", "name"] .unrestricted q hrun Value.string
    reversedRow.columns reversedRow hshows
  exact ⟨q, c', hrun, hshows, hmodel, hrecord⟩

end CardStore
