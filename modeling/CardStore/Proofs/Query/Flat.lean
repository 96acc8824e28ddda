/-
  CardStore.Proofs.Query.Flat
  ───────────────────────────
  **QUERIES OF ONE TABLE.**

  A path of one segment leads to a member of the card that it starts from, so
  it needs no other card and joins no other table.  A query by identifier that
  names such paths only is compiled without a look-up, and is a selection from
  the table of its card by the column of the identifier.

  Main statements:
    * `Query.resolve_of_leads` — a path of one segment is resolved at once.
    * `Query.run_compile_byId` — a query by identifier is compiled at once.
    * `Query.text_identified` — and is the selection of a row by its identifier.
-/
import CardStore.Proofs.Query.Compile
import CardStore.Proofs.Sql.Statement

namespace CardStore

/-- A path of one segment leads to a column of the card. -/
def Card.Leads (card : Card) (path column : String) : Prop :=
  pathSegments path = [path] ∧ ∃ m, card.member? path = some m ∧ m.column.1 = column

theorem Card.leads_idPath (card : Card) : card.Leads idPath idPath :=
  ⟨by decide, .identifier, rfl, rfl⟩

/-- A path of one segment that names a member leads to its column. -/
theorem Card.leads_of_memberColumn? {card : Card} {path column : String}
    (hs : pathSegments path = [path]) (hid : path ≠ idPath)
    (h : card.memberColumn? path = some column) : card.Leads path column := by
  refine ⟨hs, ?_⟩
  rw [Card.member?, if_neg hid]
  rw [Card.memberColumn?] at h
  cases hf : card.field? path with
  | some f =>
    rw [hf] at h
    exact ⟨.field f, rfl, Option.some.inj h⟩
  | none =>
    rw [hf] at h
    obtain ⟨r, hr, rfl⟩ := Option.map_eq_some_iff.1 h
    exact ⟨.reference r, by rw [hr]; rfl, rfl⟩

namespace Query

variable {card : SoundCard}

/-! ## §1. Resolving. -/

/-- A computation that needs no look-up, and another one behind it. -/
theorem pure_bind_compiling {α β : Type} (a : α) (f : α → Compiling β) :
    (pure a : Compiling α) >>= f = f a := rfl

/-- **A path of one segment** is resolved at once, and joins nothing. -/
theorem resolve_of_leads {path column : String} (h : card.Leads path column) (joins : List Join) :
    ∃ type, resolve ⟨card, joins⟩ path = pure (⟨0, column, type⟩, ⟨card, joins⟩) := by
  obtain ⟨hs, m, hm, rfl⟩ := h
  refine ⟨m.column.2, ?_⟩
  have hwalk : Tables.resolve ⟨card, joins⟩ path
      = .done (.ok ⟨0, m.column.1, m.column.2⟩, ⟨card, joins⟩) := by
    rw [Tables.resolve, hs, Tables.walk, hm]
    rfl
  rw [resolve, hwalk]
  rfl

theorem resolveModel_of_leads (joins : List Join) : ∀ {ps : List (String × String)}
    (columns : List ColumnRef), (∀ p ∈ ps, card.Leads p.1 p.2) →
    ∃ refs : List ColumnRef, refs.map (·.toColumn.text) = ps.map (columnText 0 ·.2)
      ∧ resolveModel (ps.map Prod.fst) columns ⟨card, joins⟩
        = pure (columns ++ refs, ⟨card, joins⟩) := by
  intro ps
  induction ps with
  | nil =>
    intro columns _
    exact ⟨[], rfl, by rw [List.append_nil]; rfl⟩
  | cons p ps ih =>
    intro columns h
    obtain ⟨type, hp⟩ := resolve_of_leads (h p List.mem_cons_self) joins
    obtain ⟨refs, htexts, hps⟩ := ih (columns ++ [⟨0, p.2, type⟩])
      fun q hq => h q (List.mem_cons_of_mem _ hq)
    refine ⟨⟨0, p.2, type⟩ :: refs, ?_, ?_⟩
    · rw [List.map_cons, htexts]
      rfl
    · rw [List.map_cons, resolveModel, hp, pure_bind_compiling]
      dsimp only
      rw [hps, List.append_assoc]
      rfl

/-- Mapping other paths leaves the column of a path alone. -/
theorem get_foldl_insert_of_not_mem {path : String} : ∀ {pairs : List (String × ColumnRef)}
    {m : ColumnMap}, path ∉ pairs.map Prod.fst →
      (pairs.foldl (fun m (path, column) => m.insert path column.toColumn) m).get path
        = m.get path := by
  intro pairs
  induction pairs with
  | nil =>
    intro m _
    rfl
  | cons p pairs ih =>
    intro m h
    rw [List.map_cons, List.mem_cons, not_or] at h
    rw [List.foldl_cons, ih h.2, ColumnMap.get_insert, if_neg h.1]

/-- **Paths of one segment** behind the identifier are all resolved at once. -/
theorem resolveAll_of_leads {model : List String} {ps : List (String × String)}
    (hmodel : card.normalizeModel model = idPath :: ps.map Prod.fst)
    (hleads : ∀ p ∈ ps, card.Leads p.1 p.2) (hid : idPath ∉ ps.map Prod.fst) :
    ∃ refs columns column, refs.map (·.toColumn.text)
        = (idPath :: ps.map Prod.snd).map (columnText 0)
      ∧ columns.get idPath = .ok column ∧ column.text = columnText 0 idPath
      ∧ resolveAll card model [idPath]
        = pure ⟨idPath :: ps.map Prod.fst, refs, columns, ⟨card, []⟩⟩ := by
  obtain ⟨type, hfirst⟩ := resolve_of_leads card.leads_idPath []
  obtain ⟨refs, htexts, hrefs⟩ := resolveModel_of_leads [] [⟨0, idPath, type⟩] hleads
  have hall : resolveModel (idPath :: ps.map Prod.fst) [] ⟨card, []⟩
      = pure (⟨0, idPath, type⟩ :: refs, ⟨card, []⟩) := by
    rw [resolveModel, hfirst, pure_bind_compiling]
    exact hrefs
  -- the other paths are mapped behind the identifier and leave its column alone
  let columns := ((ps.map Prod.fst).zip refs).foldl
    (fun m (path, column) => m.insert path column.toColumn)
    ((ColumnMap.empty card.name).insert idPath ⟨columnText 0 idPath, type⟩)
  have hget : columns.get idPath = .ok ⟨columnText 0 idPath, type⟩ := by
    have hothers : idPath ∉ ((ps.map Prod.fst).zip refs).map Prod.fst := by
      intro hmem
      obtain ⟨pair, hpair, heq⟩ := List.mem_map.1 hmem
      exact hid (heq ▸ (List.of_mem_zip hpair).1)
    exact get_foldl_insert_of_not_mem hothers
  have hmore : resolveMore [idPath] columns ⟨card, []⟩ = pure (columns, ⟨card, []⟩) := by
    have hcontains : columns.contains idPath = true := (columns.contains_iff idPath).2 ⟨_, hget⟩
    rw [resolveMore, if_pos hcontains]
    rfl
  refine ⟨⟨0, idPath, type⟩ :: refs, columns, _, ?_, hget, rfl, ?_⟩
  · rw [List.map_cons, htexts, List.map_cons, List.map_map]
    rfl
  · rw [resolveAll, hmodel, hall, pure_bind_compiling]
    show (resolveMore [idPath] columns ⟨card, []⟩ >>= _) = _
    rw [hmore, pure_bind_compiling]

/-! ## §2. Compiling. -/

/-- The selection of the row with an identifier. -/
def identified (card : SoundCard) (ps : List (String × String)) (id : Value) : CompiledQuery :=
  ⟨⟨(idPath :: ps.map Prod.snd).map (columnText 0), ⟨card, []⟩,
    some (.joined .and [.compare (columnText 0 idPath) .eq id]), [], none⟩,
    idPath :: ps.map Prod.fst⟩

/-- The condition of a query by identifier. -/
theorem condition_byId {columns : ColumnMap} {column : Column}
    (h : columns.get idPath = .ok column) (htext : column.text = columnText 0 idPath)
    (id : Value) :
    Filter.condition columns (some (.byId id))
      = .ok (some (.joined .and [.compare (columnText 0 idPath) .eq id])) := by
  have htriple : Triple.predicate ⟨idPath, "=", id⟩ columns
      = .ok (.compare (columnText 0 idPath) .eq id) := by
    have hop : Operator.parse? "=" = some (.compare .eq) := Operator.parse?_symbol (.compare .eq)
    exact Triple.predicate_eq_ok_iff.2 ⟨_, column, hop, h, by rw [htext]; rfl⟩
  have hmembers : Filter.conditionPredicates columns [.triple ⟨idPath, "=", id⟩]
      = .ok [.compare (columnText 0 idPath) .eq id] := by
    rw [Filter.conditionPredicates, htriple]
    rfl
  show (Filter.groupPredicates columns [(.and, [.triple ⟨idPath, "=", id⟩])] >>= _) = _
  rw [Filter.groupPredicates, hmembers]
  rfl

variable {σ : Type}

theorem run_withLoads_pure {α : Type} (b : Backend σ) (c : Context σ) (a : α) :
    (Cards.withLoads b (pure a)).run c = (.ok a, c) := rfl

/-- **A query by identifier** that names paths of one segment is compiled without a look-up. -/
theorem run_compile_byId (b : Backend σ) (c : Context σ) {model : List String}
    {ps : List (String × String)}
    (hmodel : card.normalizeModel model = idPath :: ps.map Prod.fst)
    (hleads : ∀ p ∈ ps, card.Leads p.1 p.2) (hid : idPath ∉ ps.map Prod.fst) (id : Value) :
    (Cards.withLoads b (compile card model (.byId id))).run c
      = (.ok (identified card ps id), c) := by
  obtain ⟨refs, columns, column, htexts, hget, htext, hall⟩ := resolveAll_of_leads hmodel hleads hid
  have hpaths : (QueryOptions.byId id).paths = [idPath] := rfl
  have hcondition := condition_byId hget htext id
  have hassemble : Resolved.assemble ⟨idPath :: ps.map Prod.fst, refs, columns, ⟨card, []⟩⟩
      (.byId id) = .ok (identified card ps id) := by
    refine Resolved.assemble_eq_ok_iff.2 ⟨_, [], hcondition, rfl, ?_⟩
    rw [identified, ← htexts]
    rfl
  rw [run_compile, hpaths, hall, run_withLoads_pure, Prod.mk.injEq]
  exact ⟨bind_eq_ok_iff.2 ⟨_, rfl, hassemble⟩, rfl⟩

/-! ## §3. The statement. -/

/-- The selection of a row of the table of a card by its identifier. -/
def found (card : SoundCard) (ps : List (String × String)) (id : Value) : Sql.Find where
  columns := (idPath :: ps.map Prod.snd).mapIdx fun i column =>
    (columnText 0 column, Sql.resultName i)
  table := card.table
  name := tableAlias 0
  column := columnText 0 idPath
  value := id

/-- **The statement of a query by identifier** is the selection of a row by its identifier. -/
theorem text_identified (d : Sql.Dialect) (card : SoundCard) (ps : List (String × String))
    (id : Value) : (identified card ps id).text d = (found card ps id).text := by
  have hmarks : "=" ++ "?" = "=?" := by decide
  have hcolumns : (found card ps id).columns.map (fun c => c.1 ++ " " ++ c.2)
      = Sql.Select.columnTexts ((idPath :: ps.map Prod.snd).map (columnText 0)) := by
    apply List.ext_getElem?
    intro i
    simp only [found, Sql.Select.columnTexts, List.getElem?_map, List.getElem?_mapIdx,
      Option.map_map, Function.comp_def]
  show "SELECT " ++ Text.joined "," (Sql.Select.columnTexts
      ((idPath :: ps.map Prod.snd).map (columnText 0)))
      ++ " FROM " ++ (card.table ++ " " ++ tableAlias 0 ++ "")
      ++ (" WHERE " ++ (columnText 0 idPath ++ "=" ++ "?")) ++ ("" ++ "")
    = "SELECT " ++ Text.joined "," ((found card ps id).columns.map fun c => c.1 ++ " " ++ c.2)
      ++ " FROM " ++ card.table ++ " " ++ tableAlias 0 ++ " WHERE " ++ columnText 0 idPath ++ "=?"
  rw [hcolumns, ← hmarks]
  simp only [String.append_assoc, String.append_empty]

/-- The columns of a selection by identifier are identifiers if those of the paths are. -/
theorem isIdentifier_of_mem_found {ps : List (String × String)}
    (h : ∀ p ∈ ps, Sql.isIdentifier p.2 = true) :
    ∀ column ∈ idPath :: ps.map Prod.snd, Sql.isIdentifier column = true := by
  intro column hcolumn
  rcases List.mem_cons.1 hcolumn with rfl | hcolumn
  · decide
  · obtain ⟨p, hp, rfl⟩ := List.mem_map.1 hcolumn
    exact h p hp

theorem named_found {card : SoundCard} {ps : List (String × String)}
    (h : ∀ p ∈ ps, Sql.isIdentifier p.2 = true) (id : Value) : (found card ps id).Named where
  columns := by
    intro c hc
    obtain ⟨i, hi, rfl⟩ := List.mem_mapIdx.1 hc
    have hcolumn := isIdentifier_of_mem_found h _ (List.getElem_mem hi)
    exact ⟨Sql.qualified_columnText 0 hcolumn, Sql.isWord_append_ofNat (by decide) i⟩
  table := Sql.isWord_of_isIdentifier card.isIdentifier_table
  name := Sql.isWord_tableAlias 0
  column := Sql.qualified_columnText 0 (by decide)

end Query

end CardStore
