/-
  CardStore.Proofs.Query.Whole
  ────────────────────────────
  **THE DEFAULT MODEL READS THE WHOLE CARD.**

  An empty model and a star stand for the identifier and the names of all
  members, and each of these names is resolved like any other path.  So all
  columns of a card are read exactly if every name leads, as a path, to the
  column of its own member.  Names of cards are not checked, and a name does
  not lead there if it has a point in it, if it is the name of the identifier,
  or if an earlier member has the same name.

  Main statements:
    * `Card.namesOwn_of_plain` — distinct plain names lead to the columns of their members.
    * `Query.run_compile_whole` — the default model of such a card joins no table.
    * `Query.readsWhole_iff` — the default model reads the whole card for such cards only.
-/
import CardStore.Proofs.Query.Flat
import CardStore.Proofs.Query.Values

namespace CardStore

/-! ## §1. Names that lead to columns. -/

namespace Card

/-- The names of the fields and their columns, then those of the references. -/
def memberColumns (card : Card) : List (String × String) :=
  card.fields.map (fun f => (f.name, f.column)) ++ card.references.map fun r => (r.name, r.column)

theorem map_fst_memberColumns (card : Card) :
    card.memberColumns.map Prod.fst = card.memberNames := by
  rw [memberColumns, List.map_append, List.map_map, List.map_map]
  rfl

/-- **A path of one segment** has no point, and names a member of the column. -/
theorem leads_iff {card : Card} {path column : String} : card.Leads path column ↔
    '.' ∉ path.toList ∧ (card.member? path).map (·.column.1) = some column := by
  rw [Leads, pathSegments, Text.splitAt_eq_singleton_iff, Option.map_eq_some_iff]
  simp only [and_true]

instance (card : Card) (path column : String) : Decidable (card.Leads path column) :=
  decidable_of_iff _ leads_iff.symm

/-- Every name of a member leads to the column of this member. -/
def NamesOwn (card : Card) : Prop := ∀ p ∈ card.memberColumns, card.Leads p.1 p.2

instance (card : Card) : Decidable card.NamesOwn :=
  inferInstanceAs (Decidable (∀ p ∈ card.memberColumns, card.Leads p.1 p.2))

/-- **Distinct plain names** lead to the columns of their members. -/
theorem namesOwn_of_plain {card : Card} (hnodup : card.memberNames.Nodup)
    (hid : idPath ∉ card.memberNames) (hpoint : ∀ name ∈ card.memberNames, '.' ∉ name.toList) :
    card.NamesOwn := by
  intro p hp
  have hname : p.1 ∈ card.memberNames := card.map_fst_memberColumns ▸ List.mem_map_of_mem hp
  have hne : p.1 ≠ idPath := fun h => hid (h ▸ hname)
  obtain ⟨hfields, hreferences, hapart⟩ := List.nodup_append.1 hnodup
  refine leads_iff.2 ⟨hpoint _ hname, ?_⟩
  rw [member?, if_neg hne]
  rcases List.mem_append.1 hp with hp | hp
  · obtain ⟨f, hf, rfl⟩ := List.mem_map.1 hp
    have hfound : card.field? f.name = some f := find?_of_nodup hfields hf
    rw [hfound]
    rfl
  · obtain ⟨r, hr, rfl⟩ := List.mem_map.1 hp
    have hnone : card.field? r.name = none := by
      rw [field?, List.find?_eq_none]
      intro f hf
      have hother := hapart _ (List.mem_map_of_mem hf) _ (List.mem_map_of_mem hr)
      simpa using hother
    have hfound : card.reference? r.name = some r := find?_of_nodup hreferences hr
    rw [hnone, hfound]
    rfl

end Card

/-! ## §2. Queries of the default model. -/

/-- **A query that reads a whole card**: it selects the identifier, the columns of all fields and
those of all references from the table of the card alone, and a row of it is made into one record
that holds the value of each of them. -/
structure CompiledQuery.ReadsWhole (q : CompiledQuery) (card : SoundCard) : Prop where
  tables : q.tables = ⟨card, []⟩
  columns : q.select.columns
    = (idPath :: card.memberColumns.map Prod.snd).map (columnText 0)
  records : ∀ (value : String → Value) (fields : List String) (row : Row),
    row.Shows (q.select.columns.map value) →
      ∃ record, RowSet.reshape ⟨fields, [row]⟩ q.model = [record]
        ∧ record.get? idPath = some (value (columnText 0 idPath))
        ∧ ∀ p ∈ card.memberColumns, record.get? p.1 = some (value (columnText 0 p.2))

/-- The default model stands for the identifier and all members. -/
theorem Card.normalizeModel_whole (card : Card) {model : List String}
    (hmodel : model = [] ∨ model = ["*"]) :
    card.normalizeModel model = idPath :: card.memberColumns.map Prod.fst := by
  rw [normalizeModel, if_pos hmodel, if_pos List.mem_cons_self, card.map_fst_memberColumns]

namespace Query

variable {card : SoundCard}

/-- Where no table is joined, a path leads to the column of the member that it names. -/
theorem leads_of_takes {path : String} {route : Route}
    (h : Tables.Takes ⟨card, []⟩ path route) : card.Leads path route.target.column := by
  unfold Tables.Takes at h
  generalize hnames : pathSegments path = names at h
  cases h with
  | last hm =>
    have hpath := ((Text.splitAt_eq_singleton_iff _ _ _).1 hnames).2
    rw [← hpath] at hm hnames
    exact ⟨hnames, _, hm, rfl⟩
  | cross _ hfound _ => cases hfound

variable {σ : Type}

/-- **The default model** of a card whose names lead to their own columns needs no other card, and
selects all columns from the table of this one. -/
theorem run_compile_whole (b : Backend σ) (c : Context σ) (hnames : card.NamesOwn)
    {model : List String} (hmodel : model = [] ∨ model = ["*"]) {options : QueryOptions}
    (hfilter : options.filter = none) (horder : options.order = []) :
    ∃ q, (Cards.withLoads b (compile card model options)).run c = (.ok q, c)
      ∧ q.tables = ⟨card, []⟩
      ∧ q.select.columns = (idPath :: card.memberColumns.map Prod.snd).map (columnText 0) := by
  have hleads : ∀ p ∈ (idPath, idPath) :: card.memberColumns, card.Leads p.1 p.2 := by
    rw [List.forall_mem_cons]
    exact ⟨card.leads_idPath, hnames⟩
  obtain ⟨refs, htexts, hrefs⟩ := resolveModel_of_leads [] [] hleads
  -- a query without filter and order has no further paths to resolve
  have hpaths : options.paths = [] := by
    rw [QueryOptions.paths, hfilter, horder]
    rfl
  have hall : ∃ r : Resolved, resolveAll card model options.paths = pure r
      ∧ r.selected = refs ∧ r.tables = ⟨card, []⟩ := by
    rw [resolveAll, hpaths, card.normalizeModel_whole hmodel]
    rw [List.map_cons] at hrefs
    rw [hrefs, pure_bind_compiling]
    exact ⟨_, rfl, rfl, rfl⟩
  obtain ⟨r, hall, hselected, htables⟩ := hall
  let q : CompiledQuery := ⟨⟨r.selected.map (·.toColumn.text), r.tables, none, [],
    Sql.pageWindow? options.rows options.page⟩, r.model⟩
  have hassemble : r.assemble options = .ok q := by
    refine Resolved.assemble_eq_ok_iff.2 ⟨none, [], ?_, ?_, rfl⟩
    · rw [hfilter]
      rfl
    · rw [horder]
      rfl
  refine ⟨q, ?_, htables, ?_⟩
  · rw [run_compile, hall, run_withLoads_pure, Prod.mk.injEq]
    exact ⟨bind_eq_ok_iff.2 ⟨r, rfl, hassemble⟩, rfl⟩
  · show r.selected.map _ = _
    rw [hselected, htexts, List.map_cons, List.map_cons, List.map_map]
    rfl

/-- A query of all columns of a card has a record of all their values. -/
theorem readsWhole_of_columns {b : Backend σ} {c c' : Context σ} {model : List String}
    (hmodel : model = [] ∨ model = ["*"]) {options : QueryOptions} {q : CompiledQuery}
    (h : (Cards.withLoads b (compile card model options)).run c = (.ok q, c'))
    (htables : q.tables = ⟨card, []⟩)
    (hcolumns : q.select.columns
      = (idPath :: card.memberColumns.map Prod.snd).map (columnText 0)) :
    q.ReadsWhole card := by
  obtain ⟨r, hr, hq⟩ := routed_of_run_compile h
  have hpaths : q.model = ((idPath, idPath) :: card.memberColumns).map Prod.fst := by
    obtain ⟨condition, order, _, _, rfl⟩ := Resolved.assemble_eq_ok_iff.1 hq
    exact hr.model.trans (card.normalizeModel_whole hmodel)
  refine ⟨htables, hcolumns, fun value fields row hrow => ⟨_, rfl, ?_⟩⟩
  have hreads := hr.reads hq hrow
  -- a name and its column stand at one position
  have hvalue : ∀ p ∈ (idPath, idPath) :: card.memberColumns,
      (row.toRecord q.model).get? p.1 = some (value (columnText 0 p.2)) := by
    intro p hp
    obtain ⟨i, hi⟩ := List.mem_iff_getElem?.1 hp
    have hpath : q.model[i]? = some p.1 := by
      rw [hpaths, List.getElem?_map, hi]
      rfl
    have hcolumn : q.select.columns[i]? = some (columnText 0 p.2) := by
      have hboth : idPath :: card.memberColumns.map Prod.snd
          = ((idPath, idPath) :: card.memberColumns).map Prod.snd := rfl
      rw [hcolumns, hboth, List.getElem?_map, List.getElem?_map, hi]
      rfl
    obtain ⟨ref, _, hselects, hget⟩ := hreads.values i p.1 hpath
    rw [hget, ← Option.some.inj (hselects.symm.trans hcolumn)]
  exact List.forall_mem_cons.1 hvalue

/-- If the default model reads the whole card, every name leads to the column of its member. -/
theorem namesOwn_of_readsWhole {b : Backend σ} {c c' : Context σ} {model : List String}
    (hmodel : model = [] ∨ model = ["*"]) {options : QueryOptions} {q : CompiledQuery}
    (h : (Cards.withLoads b (compile card model options)).run c = (.ok q, c'))
    (hwhole : q.ReadsWhole card) : card.NamesOwn := by
  obtain ⟨r, hr, hq⟩ := routed_of_run_compile h
  obtain ⟨condition, order, _, _, rfl⟩ := Resolved.assemble_eq_ok_iff.1 hq
  obtain ⟨routes, _, hroutes, hselected, _⟩ := hr.routes
  have htables : r.tables = ⟨card, []⟩ := hwhole.tables
  have hcolumns : r.selected.map (·.toColumn.text)
      = (idPath :: card.memberColumns.map Prod.snd).map (columnText 0) := hwhole.columns
  rw [hr.model, card.normalizeModel_whole hmodel, htables] at hroutes
  intro p hp
  obtain ⟨i, hi⟩ := List.mem_iff_getElem?.1 hp
  have hpath : (idPath :: card.memberColumns.map Prod.fst)[i + 1]? = some p.1 := by
    rw [List.getElem?_cons_succ, List.getElem?_map, hi]
    rfl
  obtain ⟨route, hroute, htakes⟩ := exists_getElem?_of_forall₂ hroutes hpath
  -- the column that is selected for the name is the one of its member
  have htext : some route.target.toColumn.text = some (columnText 0 p.2) := by
    have hposition := congrArg (·[i + 1]?) hcolumns
    simp only [hselected, List.getElem?_map, List.getElem?_cons_succ, hroute, hi,
      Option.map_some] at hposition
    exact hposition
  have hcolumn : route.target.column = p.2 := (columnText_inj (Option.some.inj htext)).2
  rw [← hcolumn]
  exact leads_of_takes htakes

/-- **The default model reads the whole card** exactly if every name leads, as a path, to the
column of its own member: then an empty model and a star, without filter and order, are compiled
to a query of the identifier, all fields and all references, in this order and from no other
table, and no other card is looked up. -/
theorem readsWhole_iff (b : Backend σ) (c : Context σ) (card : SoundCard) (model : List String)
    (hmodel : model = [] ∨ model = ["*"]) (options : QueryOptions)
    (hfilter : options.filter = none) (horder : options.order = []) :
    (∃ q, (Cards.withLoads b (compile card model options)).run c = (.ok q, c)
      ∧ q.ReadsWhole card) ↔ card.NamesOwn := by
  constructor
  · rintro ⟨q, hrun, hwhole⟩
    exact namesOwn_of_readsWhole hmodel hrun hwhole
  · intro hnames
    obtain ⟨q, hrun, htables, hcolumns⟩ := run_compile_whole b c hnames hmodel hfilter horder
    exact ⟨q, hrun, readsWhole_of_columns hmodel hrun htables hcolumns⟩

end Query

/-! ## §3. People, and cards with other names. -/

/-- The name and the department of a person are read behind the identifier. -/
theorem readsWhole_person :
    (["*"] = [] ∨ ["*"] = ["*"]) ∧ QueryOptions.unrestricted.filter = none
      ∧ QueryOptions.unrestricted.order = []
      ∧ ∃ q, (Cards.withLoads .unreachable (Query.compile personCard ["*"] .unrestricted)).run
          (Context.ofBackend () default) = (.ok q, Context.ofBackend () default)
        ∧ q.ReadsWhole personCard := by
  have hnames : personCard.NamesOwn :=
    Card.namesOwn_of_plain (by decide) (by decide) (by decide)
  exact ⟨.inr rfl, rfl, rfl, (Query.readsWhole_iff .unreachable (Context.ofBackend () default)
    personCard ["*"] (.inr rfl) .unrestricted rfl rfl).2 hnames⟩

/-- A card with a point in the name of a field. -/
def dottedCard : SoundCard :=
  ⟨(Card.ofTable "K" "KT").withField "a.b" "AB" "Text", by decide +kernel⟩

/-- A card with a field that has the name of the identifier. -/
def identifiedCard : SoundCard :=
  ⟨(Card.ofTable "K" "KT").withField "ID" "NR" "Text", by decide +kernel⟩

/-- A card with a reference that has the name of a field. -/
def namesakeCard : SoundCard :=
  ⟨((Card.ofTable "K" "KT").withField "a" "A1" "Text").withReference "a" "A2" "K",
    by decide +kernel⟩

/-- The default model reads none of these cards as a whole. -/
theorem not_readsWhole :
    (¬ ∃ q c', (Cards.withLoads .unreachable (Query.compile dottedCard [] .unrestricted)).run
        (Context.ofBackend () default) = (.ok q, c') ∧ q.ReadsWhole dottedCard)
      ∧ (¬ ∃ q c', (Cards.withLoads .unreachable
          (Query.compile identifiedCard [] .unrestricted)).run
            (Context.ofBackend () default) = (.ok q, c') ∧ q.ReadsWhole identifiedCard)
      ∧ ¬ ∃ q c', (Cards.withLoads .unreachable
          (Query.compile namesakeCard [] .unrestricted)).run
            (Context.ofBackend () default) = (.ok q, c') ∧ q.ReadsWhole namesakeCard := by
  have hnames (card : SoundCard) (hcard : ¬ card.NamesOwn) :
      ¬ ∃ q c', (Cards.withLoads .unreachable (Query.compile card [] .unrestricted)).run
        (Context.ofBackend () default) = (.ok q, c') ∧ q.ReadsWhole card := by
    rintro ⟨q, c', hrun, hwhole⟩
    exact hcard (Query.namesOwn_of_readsWhole (.inl rfl) hrun hwhole)
  exact ⟨hnames dottedCard (by decide +kernel), hnames identifiedCard (by decide +kernel),
    hnames namesakeCard (by decide +kernel)⟩

end CardStore
