/-
  CardStore.Proofs.Query.Rows
  ───────────────────────────
  **QUERIES THAT READ THE SAME ROWS.**

  Two queries with the same filter, sort keys and window may select different
  paths and join different tables for them.  They read the same rows, one by
  one, if the rows of their joined tables are the same but for what further
  tables add to them.

  Every table is the target of a trail of references.  Where no two rows of a
  table have one identifier, a join finds at most one row, so joined tables
  have a row for each row of the root, and what stands in it for a table
  depends on the trail alone.

  Main statements:
    * `Tables.joined_of_identified` — the rows of joined tables, one for each row of the root.
    * `Tables.sameRows_of_faithful` — tables of the targets have the same rows.
    * `Query.Resolved.forall₂_rows` — queries over such tables read the same rows.
    * `Query.forall₂_narrows` — their records hold the same values.
-/
import CardStore.Proofs.Query.Answer
import CardStore.Proofs.Query.Tables
import CardStore.Proofs.Query.Values

namespace CardStore

open List (Forall₂)

variable {e : Engine} {contents : Contents} {cards : String → Except Error SoundCard}

/-! ## §1. Rows behind trails. -/

/-- No value refers to two rows of a table. -/
def Contents.Identified (contents : Contents) (e : Engine) : Prop :=
  ∀ table v, ((contents table).filter fun cells => e.refers v (cells idPath)).length ≤ 1

/-- The first row of a table that a value refers to. -/
def partner? (e : Engine) (contents : Contents) (v : Value) (table : String) : Option Cells :=
  (contents table).find? fun cells => e.refers v (cells idPath)

/-- What a row of the root refers to over a trail of references. -/
def behind (e : Engine) (contents : Contents) (cells : Cells) (hops : List Hop) : Option Cells :=
  hops.foldl (fun found hop =>
    partner? e contents ((found.map (· hop.column)).getD .null) hop.card.table) (some cells)

theorem behind_append_singleton (cells : Cells) (hops : List Hop) (hop : Hop) :
    behind e contents cells (hops ++ [hop])
      = partner? e contents (((behind e contents cells hops).map (· hop.column)).getD .null)
          hop.card.table := by
  rw [behind, List.foldl_append]
  rfl

namespace Join

/-- A row next to the first row that it refers to. -/
def append (e : Engine) (contents : Contents) (row : JoinedRow) (j : Join) : JoinedRow :=
  row ++ [partner? e contents (row.value j.parent j.column) j.card.table]

/-- A join finds at most one row. -/
theorem extend_of_identified (h : contents.Identified e) (j : Join) (row : JoinedRow) :
    j.extend e contents row = [append e contents row j] := by
  have hone := h j.card.table (row.value j.parent j.column)
  rw [extend, append, partner?, ← List.head?_filter]
  generalize List.filter _ (contents j.card.table) = found at hone ⊢
  match found, hone with
  | [], _ => rfl
  | [cells], _ => rfl

end Join

namespace Tables

/-- Joins keep the number of rows. -/
theorem foldl_extend (h : contents.Identified e) : ∀ (joins : List Join) (rows : List JoinedRow),
    joins.foldl (fun rows j => rows.flatMap (j.extend e contents)) rows
      = rows.map fun row => joins.foldl (Join.append e contents) row := by
  intro joins
  induction joins with
  | nil =>
    intro rows
    exact (List.map_id _).symm
  | cons j joins ih =>
    intro rows
    have hextend : j.extend e contents = fun row => [Join.append e contents row j] :=
      funext (j.extend_of_identified h)
    rw [List.foldl_cons, ih, hextend, ← List.map_eq_flatMap, List.map_map]
    rfl

/-- What is joined to the rows behind some trails stands behind the trails of all tables, if each
join has its parent in front of it. -/
theorem foldl_append (cells : Cells) : ∀ (joins : List Join) (trails : List (List Hop)),
    (∀ (i : Nat) (j : Join), joins[i]? = some j → j.parent < trails.length + i) →
      joins.foldl (Join.append e contents) (trails.map (behind e contents cells))
        = (joins.foldl extendTrails trails).map (behind e contents cells) := by
  intro joins
  induction joins with
  | nil =>
    intro trails _
    rfl
  | cons j joins ih =>
    intro trails hparents
    have hparent : j.parent < trails.length := hparents 0 j rfl
    have hjoin : Join.append e contents (trails.map (behind e contents cells)) j
        = (extendTrails trails j).map (behind e contents cells) := by
      rw [Join.append, JoinedRow.value, List.getElem?_map, extendTrails, List.map_append,
        List.map_singleton, behind_append_singleton, List.getElem?_eq_getElem hparent]
      rfl
    rw [List.foldl_cons, List.foldl_cons, hjoin]
    refine ih _ fun i k hk => ?_
    have hlater := hparents (i + 1) k hk
    rw [extendTrails, List.length_append, List.length_singleton]
    omega

/-- **Joined tables have a row for each row of the root**, and what stands in it for a table is
what the row of the root refers to over the trail of the table. -/
theorem joined_of_identified (h : contents.Identified e) {t : Tables} (ht : t.Rooted) :
    t.joined e contents
      = (contents t.root.table).map fun cells => t.trails.map (behind e contents cells) := by
  rw [joined, foldl_extend h, List.map_map]
  refine List.map_congr_left fun cells _ => ?_
  refine foldl_append cells t.joins [[]] fun i j hj => ?_
  have hparent := (ht.parent i j hj).1
  rw [List.length_singleton]
  omega

/-! ## §2. Tables with the same rows. -/

/-- Two rows hold the same value under every path that has a route along the tables of both. -/
def SameValues (t t' : Tables) (row row' : JoinedRow) : Prop :=
  ∀ path route route', t.Takes path route → t'.Takes path route' →
    row.valueOf route.target.toColumn.text = row'.valueOf route'.target.toColumn.text

/-- **Tables with the same rows**, one by one. -/
def SameRows (e : Engine) (contents : Contents) (t t' : Tables) : Prop :=
  Forall₂ (t.SameValues t') (t.joined e contents) (t'.joined e contents)

/-- A path has one target along the tables. -/
theorem Takes.target_eq {t : Tables} {path : String} {route route' : Route}
    (h : t.Takes path route) (h' : t.Takes path route') : route.target = route'.target := by
  have hsame := (resolve_of_takes h).symm.trans (resolve_of_takes h')
  rw [Script.done.injEq, Prod.mk.injEq] at hsame
  exact Except.ok.inj hsame.1

theorem sameRows_refl (e : Engine) (contents : Contents) (t : Tables) :
    t.SameRows e contents t := by
  refine List.forall₂_same.2 fun row _ path route route' h h' => ?_
  rw [Takes.target_eq h h']

/-- The target of a route is a column of one of the tables. -/
theorem Along.target_le {t : Tables} {position : Nat} {card : SoundCard} {names : List String}
    {route : Route} (h : t.Along position card names route)
    (hposition : position ≤ t.joins.length) : route.target.table ≤ t.joins.length := by
  induction h with
  | last _ => exact hposition
  | cross _ hfound _ ih => exact ih (le_of_cardAt? (cardAt?_of_find? hfound))

/-- The value of a column is that of the row behind the trail of its table. -/
theorem Takes.valueOf {t : Tables} (ht : t.Charted) {path : String} {route : Route}
    (h : t.Takes path route) (cells : Cells) :
    JoinedRow.valueOf (t.trails.map (behind e contents cells)) route.target.toColumn.text
      = ((behind e contents cells (t.destination route.target).hops).map
          (· (t.destination route.target).column)).getD .null := by
  have htrail := ht.getElem?_trail (Along.target_le h (Nat.zero_le _))
  rw [ColumnRef.toColumn, JoinedRow.valueOf_columnText, JoinedRow.value, List.getElem?_map, htrail]
  rfl

/-- Where a path leads to that has a route along the tables of an unforked card. -/
theorem Takes.destination {root : SoundCard} (hfork : Unforked cards root) {t : Tables}
    (ht : t.Faithful cards root) {path : String} {route : Route} (h : t.Takes path route) :
    follow cards root path = .ok (t.destination route.target) := by
  have hleads := Query.destination_resolve hfork ht path
  rw [resolve_of_takes h] at hleads
  exact hleads.symm

/-- **Tables of the targets** of an unforked card have the same rows. -/
theorem sameRows_of_faithful {root : SoundCard} (hfork : Unforked cards root)
    (h : contents.Identified e) {t t' : Tables} (ht : t.Faithful cards root)
    (ht' : t'.Faithful cards root) : t.SameRows e contents t' := by
  rw [SameRows, joined_of_identified h ht.charted.rooted,
    joined_of_identified h ht'.charted.rooted, ht.root_eq, ht'.root_eq,
    List.forall₂_map_left_iff, List.forall₂_map_right_iff]
  refine List.forall₂_same.2 fun cells _ path route route' hroute hroute' => ?_
  have hsame : t.destination route.target = t'.destination route'.target :=
    Except.ok.inj ((hroute.destination hfork ht).symm.trans (hroute'.destination hfork ht'))
  rw [hroute.valueOf ht.charted, hroute'.valueOf ht'.charted, hsame]

end Tables

/-! ## §3. Queries over such tables. -/

namespace ColumnMap

theorem Routed.resolveMore : ∀ {paths : List String} {columns columns' : ColumnMap}
    {t t' : Tables}, t.Charted → columns.Routed t →
      (Query.resolveMore paths columns t).run.Yields (.ok (columns', t')) →
        columns'.Routed t' := by
  intro paths
  induction paths with
  | nil =>
    intro columns columns' t t' _ hc h
    have hpair : (columns, t) = (columns', t') := Except.ok.inj (Script.yields_done_iff.1 h)
    rw [Prod.mk.injEq] at hpair
    obtain ⟨rfl, rfl⟩ := hpair
    exact hc
  | cons path paths ih =>
    intro columns columns' t t' ht hc h
    rw [Query.resolveMore] at h
    split at h
    · exact ih ht hc h
    · obtain ⟨⟨ref, t''⟩, hr, h⟩ := Script.yields_bind_ok_iff.1 h
      obtain ⟨route, rfl, hroute, hgrown⟩ := Query.takes_of_resolve ht hr
      exact ih (hgrown.grows.charted ht) ((hc.grows hgrown.grows).insert hroute) h

/-- Columns with routes hold the same values in rows that hold the same values. -/
theorem Routed.agreeOn {columns columns' : ColumnMap} {t t' : Tables} (h : columns.Routed t)
    (h' : columns'.Routed t') {row row' : JoinedRow} (hrows : t.SameValues t' row row')
    (path : String) : columns.AgreeOn columns' row.valueOf row'.valueOf path := by
  intro column column' hcolumn hcolumn'
  obtain ⟨route, hroute, rfl⟩ := h path column hcolumn
  obtain ⟨route', hroute', rfl⟩ := h' path column' hcolumn'
  exact hrows path route route' hroute hroute'

end ColumnMap

namespace Query

variable {card : SoundCard} {model model' paths : List String} {options : QueryOptions}
  {r r' : Resolved} {q q' : CompiledQuery}

theorem columns_routed_of_resolveAll (h : (resolveAll card model paths).run.Yields (.ok r)) :
    r.columns.Routed r.tables := by
  obtain ⟨⟨selected, t⟩, hmodel, h⟩ := Script.yields_bind_ok_iff.1 h
  obtain ⟨⟨columns, t'⟩, hmore, h⟩ := Script.yields_bind_ok_iff.1 h
  obtain rfl := Except.ok.inj (Script.yields_done_iff.1 h)
  have hroot := Tables.charted_root card
  obtain ⟨routes, rfl, hroutes, hgrown⟩ := takes_of_resolveModel _ _ _ _ _ hroot hmodel
  exact .resolveMore (hgrown.grows.charted hroot) (.foldl_insert hroutes card.name) hmore

/-- **Queries over tables with the same rows** read the same rows, whatever they select. -/
theorem forall₂_rows (h : (resolveAll card model options.paths).run.Yields (.ok r))
    (h' : (resolveAll card model' options.paths).run.Yields (.ok r'))
    (hq : r.assemble options = .ok q) (hq' : r'.assemble options = .ok q')
    (hrows : r.tables.SameRows e contents r'.tables) (d : Sql.Dialect) :
    Forall₂ (r.tables.SameValues r'.tables) (q.select.rows e contents d)
      (q'.select.rows e contents d) := by
  have hagree {row row' : JoinedRow} (hvalues : r.tables.SameValues r'.tables row row')
      (path : String) : r.columns.AgreeOn r'.columns row.valueOf row'.valueOf path :=
    (columns_routed_of_resolveAll h).agreeOn (columns_routed_of_resolveAll h') hvalues path
  obtain ⟨condition, order, hcondition, horder, rfl⟩ := Resolved.assemble_eq_ok_iff.1 hq
  obtain ⟨condition', order', hcondition', horder', rfl⟩ := Resolved.assemble_eq_ok_iff.1 hq'
  refine Sql.Select.forall₂_rows hrows ?_ ?_ rfl
  · intro row row' hvalues
    exact Filter.passes_of_condition e d (resolveAll_yields h).named.columns
      (resolveAll_yields h').named.columns hcondition hcondition' fun t _ => hagree hvalues t.path
  · intro row row' hvalues
    exact map_value_orderColumns horder horder' fun key _ => hagree hvalues key.1

end Query

/-! ## §4. Their records. -/

/-- **A record with fewer paths**: under those that it selects it holds what the other record
holds, and nothing under the others. -/
def Record.Narrows (selected others : List String) (record record' : Record) : Prop :=
  ∀ path ∈ others, record.get? path = if path ∈ selected then record'.get? path else none

namespace Query

variable {card : SoundCard} {model model' : List String} {options : QueryOptions}
  {r r' : Resolved} {q q' : CompiledQuery}

/-- The records of an answer, one for each row. -/
theorem forall₂_reads (h : (resolveAll card model options.paths).run.Yields (.ok r))
    (hq : r.assemble options = .ok q) {d : Sql.Dialect} {answer : RowSet}
    (hshows : Forall₂ Row.Shows answer.rows (q.select.answer e contents d)) :
    Forall₂ (fun row record => q.Reads row.valueOf record) (q.select.rows e contents d)
      (answer.reshape q.model) := by
  rw [Sql.Select.answer, List.forall₂_map_right_iff] at hshows
  rw [RowSet.reshape, List.forall₂_map_right_iff]
  exact hshows.flip.imp fun row shown hshown => (routed_of_resolveAll h).reads hq hshown

/-- A path that is selected has a route along the tables. -/
theorem exists_takes_of_mem (h : (resolveAll card model options.paths).run.Yields (.ok r))
    (hq : r.assemble options = .ok q) {path : String} (hpath : path ∈ q.model) :
    ∃ route, q.tables.Takes path route := by
  obtain ⟨condition, order, _, _, rfl⟩ := Resolved.assemble_eq_ok_iff.1 hq
  obtain ⟨routes, _, hroutes, _⟩ := (routed_of_resolveAll h).routes
  obtain ⟨i, hi⟩ := List.mem_iff_getElem?.1 hpath
  obtain ⟨route, _, hroute⟩ := exists_getElem?_of_forall₂ hroutes hi
  exact ⟨route, hroute⟩

theorem tables_of_assemble (hq : r.assemble options = .ok q) : q.tables = r.tables := by
  obtain ⟨condition, order, _, _, rfl⟩ := Resolved.assemble_eq_ok_iff.1 hq
  rfl

theorem model_of_assemble (h : (resolveAll card model options.paths).run.Yields (.ok r))
    (hq : r.assemble options = .ok q) : q.model = card.normalizeModel model := by
  obtain ⟨condition, order, _, _, rfl⟩ := Resolved.assemble_eq_ok_iff.1 hq
  exact (routed_of_resolveAll h).model

/-- The value that a record holds under a path is that of the column that its route leads to. -/
theorem get?_of_takes {value : String → Value} {record : Record}
    (h : q.Reads value record) {path : String} (hpath : path ∈ q.model) {route : Route}
    (hroute : q.tables.Takes path route) :
    record.get? path = some (value route.target.toColumn.text) := by
  obtain ⟨i, hi⟩ := List.mem_iff_getElem?.1 hpath
  obtain ⟨ref, href, _, hvalue⟩ := h.values i path hi
  rw [Tables.resolve_of_takes hroute, Script.done.injEq, Prod.mk.injEq] at href
  rw [hvalue, ← Except.ok.inj href.1]

/-- **Their records** hold the same values under the paths that both queries select, and nothing
under those that only the other one selects. -/
theorem forall₂_narrows (h : (resolveAll card model options.paths).run.Yields (.ok r))
    (h' : (resolveAll card model' options.paths).run.Yields (.ok r'))
    (hq : r.assemble options = .ok q) (hq' : r'.assemble options = .ok q')
    (hrows : r.tables.SameRows e contents r'.tables) {d : Sql.Dialect} {answer answer' : RowSet}
    (hshows : Forall₂ Row.Shows answer.rows (q.select.answer e contents d))
    (hshows' : Forall₂ Row.Shows answer'.rows (q'.select.answer e contents d)) :
    Forall₂ (Record.Narrows q.model q'.model) (answer.reshape q.model)
      (answer'.reshape q'.model) := by
  refine forall₂_of_beside ?_ (forall₂_rows h h' hq hq' hrows d) (forall₂_reads h hq hshows)
    (forall₂_reads h' hq' hshows')
  intro row row' record record' hvalues hreads hreads' path hpath'
  obtain ⟨route', hroute'⟩ := exists_takes_of_mem h' hq' hpath'
  split
  · rename_i hpath
    obtain ⟨route, hroute⟩ := exists_takes_of_mem h hq hpath
    have htables := tables_of_assemble hq
    have htables' := tables_of_assemble hq'
    rw [get?_of_takes hreads hpath hroute, get?_of_takes hreads' hpath' hroute']
    rw [htables] at hroute
    rw [htables'] at hroute'
    exact congrArg some (hvalues path route route' hroute hroute')
  · rename_i hpath
    rw [Record.get?, OrderedMap.get?_eq_none_iff]
    show path ∉ record.paths
    rw [hreads.paths, List.mem_eraseDups]
    exact hpath

end Query

end CardStore
