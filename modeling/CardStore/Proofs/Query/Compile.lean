/-
  CardStore.Proofs.Query.Compile
  ──────────────────────────────
  **HOW A COMPILED QUERY COMES ABOUT.**

  A query is compiled in two steps: its paths are resolved, which loads cards,
  and the statement is composed from what they lead to, which asks nobody.
  Every statement that comes out selects identifiers under a formed condition.

  Main statements:
    * `run_compile` — a compilation is the run that resolves the paths, and then composing.
    * `scoped_of_run_compile` — what is composed comes of members of the tables.
    * `named_of_run_compile` — so it is a selection of identifiers.
-/
import CardStore.Cards.Load
import CardStore.Proofs.Query.Resolve
import CardStore.Proofs.Sql.Select

namespace CardStore

/-! ## §1. Composing. -/

namespace Query

/-- The columns of the sort keys are those of the map. -/
theorem exists_column_of_orderColumns {columns : ColumnMap} : ∀ {order : Order}
    {keys : List (String × Direction)}, orderColumns columns order = .ok keys →
      ∀ key ∈ keys, ∃ path column, columns.get path = .ok column ∧ key.1 = column.text := by
  intro order
  induction order with
  | nil =>
    intro keys h
    obtain rfl : [] = keys := Except.ok.inj h
    intro key hkey
    exact absurd hkey List.not_mem_nil
  | cons k order ih =>
    intro keys h
    rw [orderColumns] at h
    obtain ⟨column, hcolumn, h⟩ := bind_eq_ok_iff.1 h
    obtain ⟨rest, hrest, h⟩ := bind_eq_ok_iff.1 h
    obtain rfl : (column.text, k.2) :: rest = keys := Except.ok.inj h
    intro key hkey
    rcases List.mem_cons.1 hkey with rfl | hkey
    · exact ⟨k.1, column, hcolumn, rfl⟩
    · exact ih hrest key hkey

theorem qualified_orderColumns {columns : ColumnMap} (hq : columns.IsQualified) {order : Order}
    {keys : List (String × Direction)} (h : orderColumns columns order = .ok keys) :
    ∀ key ∈ keys, Sql.Qualified key.1 := by
  intro key hkey
  obtain ⟨path, column, hcolumn, hkey⟩ := exists_column_of_orderColumns h key hkey
  rw [hkey]
  exact hq path column hcolumn

/-- How the statement is composed from resolved paths. -/
theorem Resolved.assemble_eq_ok_iff {r : Resolved} {options : QueryOptions} {q : CompiledQuery} :
    r.assemble options = .ok q ↔
      ∃ condition order, Filter.condition r.columns options.filter = .ok condition
        ∧ orderColumns r.columns options.order = .ok order
        ∧ ⟨⟨r.selected.map (·.toColumn.text), r.tables, condition, order,
            Sql.pageWindow? options.rows options.page⟩, r.model⟩ = q := by
  rw [assemble]
  constructor
  · intro h
    obtain ⟨condition, hcondition, h⟩ := bind_eq_ok_iff.1 h
    obtain ⟨order, horder, h⟩ := bind_eq_ok_iff.1 h
    exact ⟨condition, order, hcondition, horder, Except.ok.inj h⟩
  · rintro ⟨condition, order, hcondition, horder, rfl⟩
    exact bind_eq_ok_iff.2 ⟨condition, hcondition, bind_eq_ok_iff.2 ⟨order, horder, rfl⟩⟩

/-- What is composed from paths that lead to identifiers is a selection of identifiers. -/
theorem Resolved.Named.select {r : Resolved} (h : r.Named) {options : QueryOptions}
    {q : CompiledQuery} (hq : r.assemble options = .ok q) : q.select.Named := by
  obtain ⟨condition, order, hcondition, horder, rfl⟩ := assemble_eq_ok_iff.1 hq
  refine ⟨?_, h.joins, Filter.formed_of_condition h.columns hcondition,
    qualified_orderColumns h.columns horder⟩
  intro c hc
  obtain ⟨ref, href, rfl⟩ := List.mem_map.1 hc
  exact qualified_toColumn (h.selected ref href)

/-! ## §2. Compiling. -/

variable {σ : Type}

/-- **A compilation** is the run that resolves the paths, and then composing. -/
theorem run_compile (b : Backend σ) (c : Context σ) (card : SoundCard) (model : List String)
    (options : QueryOptions) :
    (Cards.withLoads b (compile card model options)).run c =
      (((Cards.withLoads b (resolveAll card model options.paths)).run c).1 >>=
          fun r => r.assemble options,
        ((Cards.withLoads b (resolveAll card model options.paths)).run c).2) := by
  have hcompile : (compile card model options).run
      = (resolveAll card model options.paths).run.andThen
        (ExceptT.bindCont fun r => ExceptT.mk (pure (r.assemble options))) := rfl
  show (compile card model options).run.run _ c = _
  rw [hcompile, Script.run_andThen]
  show _ = (((resolveAll card model options.paths).run.run _ c).1 >>= _,
    ((resolveAll card model options.paths).run.run _ c).2)
  -- the answer is a pair of an outcome and a context; composing goes on with the outcome only
  generalize (resolveAll card model options.paths).run.run _ c = answer
  obtain ⟨r | r, c'⟩ := answer
  · rfl
  · rfl

/-- **All paths of a query** lead to members of its tables, whatever cards the store answers. -/
theorem scoped_of_run_resolveAll (b : Backend σ) (c : Context σ) {card : SoundCard}
    {model paths : List String} {r : Resolved}
    (h : ((Cards.withLoads b (resolveAll card model paths)).run c).1 = .ok r) :
    r.Scoped card :=
  resolveAll_yields (Script.yields_of_run h)

theorem named_of_run_resolveAll (b : Backend σ) (c : Context σ) {card : SoundCard}
    {model paths : List String} {r : Resolved}
    (h : ((Cards.withLoads b (resolveAll card model paths)).run c).1 = .ok r) : r.Named :=
  (scoped_of_run_resolveAll b c h).named

/-- What is composed comes of paths that lead to members of the tables. -/
theorem scoped_of_run_compile {b : Backend σ} {c c' : Context σ} {card : SoundCard}
    {model : List String} {options : QueryOptions} {q : CompiledQuery}
    (h : (Cards.withLoads b (compile card model options)).run c = (.ok q, c')) :
    ∃ r : Resolved, r.Scoped card ∧ r.assemble options = .ok q := by
  rw [run_compile, Prod.mk.injEq] at h
  obtain ⟨r, hr, hq⟩ := bind_eq_ok_iff.1 h.1
  exact ⟨r, scoped_of_run_resolveAll b c hr, hq⟩

/-- **What a compilation composes** is a selection of identifiers. -/
theorem named_of_run_compile {b : Backend σ} {c c' : Context σ} {card : SoundCard}
    {model : List String} {options : QueryOptions} {q : CompiledQuery}
    (h : (Cards.withLoads b (compile card model options)).run c = (.ok q, c')) :
    ∃ r : Resolved, r.Named ∧ r.assemble options = .ok q := by
  obtain ⟨r, hr, hq⟩ := scoped_of_run_compile h
  exact ⟨r, hr.named, hq⟩

end Query

end CardStore
