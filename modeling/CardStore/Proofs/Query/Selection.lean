/-
  CardStore.Proofs.Query.Selection
  ────────────────────────────────
  **FILTER, ORDER AND PAGE DO NOT CHANGE WHAT IS SELECTED.**

  The paths of a model are resolved before all others, and by the time that a
  filter or a sort key is looked at, the columns of the model are settled.
  Whatever paths come behind them find the tables of the model joined, and all
  that they can do is to join further ones behind these, so that no alias is
  given to another table.

      nothing else          T0, T1 of the model
      filter and order      T0, T1 of the model, T2, T3 of theirs

  Main statements:
    * `Tables.Grows.listing_isPrefix` — tables that grow keep their list in front.
    * `Query.continues_of_run_resolveAll` — further paths go on behind those of the model.
    * `Query.selection_of_run_compile` — every query selects what the unrestricted one does.
-/
import CardStore.Proofs.Cards.Steady
import CardStore.Proofs.Query.Shared

namespace CardStore

/-! ## §1. Tables that grow. -/

namespace Tables

theorem Grows.joins_isPrefix {t t' : Tables} (h : t.Grows t') : t.joins <+: t'.joins :=
  h.keeps (P := fun t' => t.joins <+: t'.joins)
    (fun _ _ _ _ _ _ _ _ ht => ht.trans (List.prefix_append _ _)) (List.prefix_refl _)

/-- **Tables that grow keep their list in front**: every alias stays that of the table it was
given to, and every table stays joined through the column it was joined through. -/
theorem Grows.listing_isPrefix {t t' : Tables} (h : t.Grows t') : t.listing <+: t'.listing := by
  obtain ⟨more, hmore⟩ := h.joins_isPrefix
  rw [listing_eq, listing_eq, h.root_eq, ← hmore, List.mapIdx_append]
  exact ⟨_, rfl⟩

/-- What stands behind `FROM` goes on as it did. -/
theorem Grows.exists_text_append {t t' : Tables} (h : t.Grows t') :
    ∃ more, t'.text = t.text ++ more := by
  obtain ⟨more, hmore⟩ := h.listing_isPrefix
  refine ⟨String.join (more.map clause), ?_⟩
  rw [text_eq_join, text_eq_join, ← hmore, List.map_append, String.join_append]

end Tables

/-! ## §2. The paths of the model come first. -/

namespace Query

/-- **Resolved paths that go on behind others**: they select the same, and their tables are those
of the others and more. -/
structure Resolved.Continues (r' r : Resolved) : Prop where
  model : r'.model = r.model
  selected : r'.selected = r.selected
  grows : r.tables.Grows r'.tables

variable {σ : Type}

/-- **Further paths go on behind those of the model**, whatever cards the store answers. -/
theorem continues_of_run_resolveAll {b : Backend σ} {c : Context σ} {card : SoundCard}
    {model paths : List String} {r' : Resolved}
    (h : ((Cards.withLoads b (resolveAll card model paths)).run c).1 = .ok r') :
    ∃ r, ((Cards.withLoads b (resolveAll card model [])).run c).1 = .ok r
      ∧ r.model = card.normalizeModel model ∧ r'.Continues r := by
  rw [resolveAll] at h
  obtain ⟨⟨selected, t⟩, c', hmodel, h⟩ := Script.run_bind_eq_ok_iff.1 h
  obtain ⟨⟨columns, t'⟩, c'', hmore, h⟩ := Script.run_bind_eq_ok_iff.1 h
  obtain rfl := Except.ok.inj h
  obtain ⟨-, -, hwithin⟩ :=
    resolveModel_yields_within (Script.yields_of_run (congrArg Prod.fst hmodel))
  obtain ⟨hgrows, -⟩ := resolveMore_yields _ _ _ _ _ hwithin
    (Script.yields_of_run (congrArg Prod.fst hmore))
  -- where there are no further paths, the columns of the model are all there are
  have hbare : ∃ columns, ((Cards.withLoads b (resolveAll card model [])).run c).1
      = .ok ⟨card.normalizeModel model, selected, columns, t⟩ := by
    rw [resolveAll]
    exact ⟨_, Script.run_bind_eq_ok_iff.2
      ⟨_, c', hmodel, Script.run_bind_eq_ok_iff.2 ⟨_, c', rfl, rfl⟩⟩⟩
  obtain ⟨bare, hbare⟩ := hbare
  exact ⟨_, hbare, rfl, rfl, rfl, hgrows⟩

end Query

/-! ## §3. Compiled queries. -/

/-- **A query extends another one**: it reads the same model through the same columns, and its
tables are those of the other one and more behind them.  What stands in a statement in front of
the condition goes on as it did. -/
structure CompiledQuery.Extends (q' q : CompiledQuery) : Prop where
  model : q'.model = q.model
  columns : q'.select.columns = q.select.columns
  tables : q.tables.listing <+: q'.tables.listing
  head : ∃ more, q'.select.head = q.select.head ++ more

namespace Query

variable {σ : Type} {b : Backend σ} {c : Context σ} {card : SoundCard} {model : List String}
  {options : QueryOptions} {q' : CompiledQuery}

/-- What is composed from paths that go on behind others extends what is composed from these. -/
theorem Resolved.Continues.extends {r' r : Resolved} (h : r'.Continues r) {q q' : CompiledQuery}
    {options' options : QueryOptions} (hq : r.assemble options = .ok q)
    (hq' : r'.assemble options' = .ok q') : q'.Extends q := by
  obtain ⟨condition, order, -, -, rfl⟩ := assemble_eq_ok_iff.1 hq
  obtain ⟨condition', order', -, -, rfl⟩ := assemble_eq_ok_iff.1 hq'
  obtain ⟨more, hmore⟩ := h.grows.exists_text_append
  refine ⟨h.model, ?_, h.grows.listing_isPrefix, more, ?_⟩
  · show r'.selected.map _ = r.selected.map _
    rw [h.selected]
  · show "SELECT " ++ _ ++ " FROM " ++ r'.tables.text = "SELECT " ++ _ ++ " FROM " ++ _ ++ more
    rw [h.selected, hmore, ← String.append_assoc]

/-- The query without filter and order is composed from anything. -/
theorem exists_assemble_unrestricted (r : Resolved) :
    ∃ q, r.assemble .unrestricted = .ok q ∧ q.model = r.model :=
  ⟨_, Resolved.assemble_eq_ok_iff.2 ⟨none, [], rfl, rfl, rfl⟩, rfl⟩

/-- **A query that compiles extends the unrestricted one**, which compiles as well where it does,
whatever cards the store answers. -/
theorem extends_of_run_compile
    (h : ((Cards.withLoads b (compile card model options)).run c).1 = .ok q') :
    ∃ q, ((Cards.withLoads b (compile card model .unrestricted)).run c).1 = .ok q
      ∧ q.model = card.normalizeModel model ∧ q'.Extends q := by
  rw [run_compile] at h
  obtain ⟨r', hr', hq'⟩ := bind_eq_ok_iff.1 h
  obtain ⟨r, hr, hmodel, hcontinues⟩ := continues_of_run_resolveAll hr'
  obtain ⟨q, hq, hread⟩ := exists_assemble_unrestricted r
  refine ⟨q, ?_, hread.trans hmodel, hcontinues.extends hq hq'⟩
  rw [run_compile]
  exact bind_eq_ok_iff.2 ⟨r, hr, hq⟩

/-- A query compiles from steady stores of the same cards alike. -/
theorem run_compile_of_steady {cards : String → Except Error SoundCard} {c' : Context σ}
    (hc : Cards.Steady b cards c) (hc' : Cards.Steady b cards c') :
    ((Cards.withLoads b (compile card model options)).run c).1
      = ((Cards.withLoads b (compile card model options)).run c').1 := by
  rw [(hc.run_withLoads _).1, (hc'.run_withLoads _).1]

/-- **Filter, order and page do not change what is selected.**  A query that compiles extends the
unrestricted query for the same model, which compiles as well: this holds whatever a store
answers that both are compiled from, and holds of stores that answer the same cards, whatever
has been loaded from either of them before. -/
theorem selection_of_run_compile (b : Backend σ) (card : SoundCard) (model : List String)
    (options : QueryOptions) (q' : CompiledQuery) :
    (∀ c, ((Cards.withLoads b (compile card model options)).run c).1 = .ok q' →
      ∃ q, ((Cards.withLoads b (compile card model .unrestricted)).run c).1 = .ok q
        ∧ q.model = card.normalizeModel model ∧ q'.Extends q)
    ∧ ∀ cards c c', Cards.Steady b cards c → Cards.Steady b cards c' →
      ((Cards.withLoads b (compile card model options)).run c').1 = .ok q' →
      ∃ q, ((Cards.withLoads b (compile card model .unrestricted)).run c).1 = .ok q
        ∧ q.model = card.normalizeModel model ∧ q'.Extends q := by
  refine ⟨fun c => extends_of_run_compile, fun cards c c' hc hc' h => ?_⟩
  rw [run_compile_of_steady hc' hc] at h
  exact extends_of_run_compile h

end Query

/-- The filter joins a table behind the one that the model does; the unrestricted query, compiled
when the cards of the other one have been loaded, joins the one of the model alone. -/
theorem selection_headedBy :
    ∃ q q' c', (Cards.withLoads .unreachable (Query.compile personCard
        ["name", "department.name"] (headedBy "Li"))).run staffContext = (.ok q', c')
      ∧ ((Cards.withLoads .unreachable (Query.compile personCard
        ["name", "department.name"] .unrestricted)).run c').1 = .ok q
      ∧ q'.Extends q ∧ q.tables.joins.length = 1 ∧ q'.tables.joins.length = 2 := by
  have hother : ((Cards.withLoads .unreachable (Query.compile personCard
      ["name", "department.name"] (headedBy "Li"))).run staffContext).1.toOption.map
        (fun q' => q'.tables.joins.length) = some 2 := by
    decide +kernel
  have hbare : ((Cards.withLoads .unreachable (Query.compile personCard
      ["name", "department.name"] .unrestricted)).run staffContext).1.toOption.map
        (fun q => q.tables.joins.length) = some 1 := by
    decide +kernel
  obtain ⟨q', c', hrun, hlength'⟩ := Action.exists_run_of_map hother
  have hsteady := Cards.steady_of_descriptors .unreachable (c := staffContext) rfl
  have hlater := (hsteady.run_withLoads
    (Query.compile personCard ["name", "department.name"] (headedBy "Li"))).2
  rw [hrun] at hlater
  obtain ⟨q, hq, -, hextends⟩ := (Query.selection_of_run_compile .unreachable personCard
    ["name", "department.name"] (headedBy "Li") q').2 _ c' staffContext hlater hsteady
      (congrArg Prod.fst hrun)
  refine ⟨q, q', c', hrun, hq, hextends, ?_, hlength'⟩
  rw [Query.run_compile_of_steady hsteady hlater, hq] at hbare
  exact Option.some.inj hbare

end CardStore
