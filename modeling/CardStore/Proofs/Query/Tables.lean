/-
  CardStore.Proofs.Query.Tables
  ─────────────────────────────
  **THE TABLES THAT PATHS JOIN.**

  All tables of a query are those of cards that references lead to from its
  root, and every such card is joined by some query.

  Whatever becomes of their columns, the paths of a query join tables one
  after another: those of the model first, then those of the filter and of
  the sort keys.  A path that was resolved before joins nothing, so paths that
  are repeated can be left out.  Over an unforked card it does not matter
  behind which paths a path is resolved: each of them is resolved if it leads
  somewhere on its own.

  Main statements:
    * `Query.faithful_of_resolveAll` — the cards of the tables are those that references lead to.
    * `Query.exists_resolveAll_of_through` — each of these is joined by a query.
    * `Query.exists_resolveAll_iff` — a query joins the tables of its paths, one after another.
    * `Query.joinAll_insert_of_subset` — paths that are repeated join nothing.
    * `Query.exists_joinAll_iff` — which paths are resolved over an unforked card.
-/
import CardStore.Proofs.Query.Meaning

namespace CardStore

variable {cards : String → Except Error SoundCard}

/-! ## §1. Tables and cards. -/

namespace Tables

/-- A card that is joined stands at a position. -/
theorem exists_cardAt?_of_mem {t : Tables} {j : Join} (h : j ∈ t.joins) :
    ∃ position, t.cardAt? position = some j.card := by
  obtain ⟨i, hi⟩ := List.mem_iff_getElem?.1 h
  refine ⟨i + 1, ?_⟩
  show t.joins[i]?.map _ = _
  rw [hi]
  rfl

/-- A card at a position is the root, or is joined. -/
theorem eq_root_or_exists_join {t : Tables} {position : Nat} {card : SoundCard}
    (h : t.cardAt? position = some card) : card = t.root ∨ ∃ j ∈ t.joins, j.card = card := by
  cases position with
  | zero => exact .inl (Option.some.inj h).symm
  | succ n =>
    obtain ⟨j, hj, hcard⟩ := Option.map_eq_some_iff.1 h
    exact .inr ⟨j, List.mem_of_getElem? hj, hcard⟩

end Tables

/-! ## §2. Cards that references lead to. -/

namespace Query

/-- **The tables of a query** belong to cards that references lead to from its root. -/
theorem faithful_of_resolveAll {card : SoundCard} {model paths : List String} {r : Resolved}
    (h : (resolveAll card model paths).run.eval cards = .ok r) : r.tables.Faithful cards card :=
  outlasts_resolveAll (Tables.outlasts_faithful card) (Tables.faithful_root card) h

/-- The identifier of a card is at hand where the card is. -/
theorem walk_idPath (path : String) (position : Nat) (card : SoundCard) (t : Tables) :
    Tables.walk path position card [idPath] t = .done (.ok ⟨position, idPath, idType⟩, t) := by
  have hmember : card.member? idPath = some .identifier := by
    rw [Card.member?, if_pos rfl]
  rw [Tables.walk, hmember]
  rfl

/-- A path to the identifier of the root joins nothing. -/
theorem eval_resolve_idPath (root : SoundCard) :
    (resolve ⟨root, []⟩ idPath).run.eval cards = .ok (⟨0, idPath, idType⟩, ⟨root, []⟩) := by
  have hsegments : pathSegments idPath = [idPath] := by decide +kernel
  rw [eval_resolve, Tables.resolve, hsegments, walk_idPath]
  rfl

/-- **Every card that references lead to** is joined by the query for its identifier. -/
theorem exists_resolveAll_of_through {root card : SoundCard} {names : List String}
    {hops : List Hop} (h : Through cards root names hops card) :
    ∃ r position, (resolveAll root [idPath, pathOf (names ++ [idPath])] []).run.eval cards = .ok r
      ∧ r.tables.root = root ∧ r.tables.cardAt? position = some card := by
  obtain ⟨t, ht, hroot, hcard, _, hwalk, _⟩ :=
    Tables.exists_walk_of_through h (Tables.charted_root root) rfl
  have hsegments : pathSegments (pathOf (names ++ [idPath])) = names ++ [idPath] :=
    pathSegments_through h (List.cons_ne_nil _ _) (List.forall_mem_singleton.2 (by decide))
  have hresolve : (resolve ⟨root, []⟩ (pathOf (names ++ [idPath]))).run.eval cards
      = .ok (⟨t.joins.length, idPath, idType⟩, t) := by
    have hend : (Tables.resolve ⟨root, []⟩ (pathOf (names ++ [idPath]))).eval cards
        = (.ok ⟨t.joins.length, idPath, idType⟩, t) := by
      rw [Tables.resolve, hsegments]
      refine (hwalk _ _ (List.cons_ne_nil _ _)).trans ?_
      rw [walk_idPath]
      rfl
    rw [eval_resolve, hend]
    rfl
  have hmodel : root.normalizeModel [idPath, pathOf (names ++ [idPath])]
      = [idPath, pathOf (names ++ [idPath])] := by
    have hgiven : ¬ ([idPath, pathOf (names ++ [idPath])] = []
        ∨ [idPath, pathOf (names ++ [idPath])] = ["*"]) := by simp
    rw [Card.normalizeModel, if_neg hgiven]
    exact if_pos List.mem_cons_self
  have hmodels : (resolveModel [idPath, pathOf (names ++ [idPath])] [] ⟨root, []⟩).run.eval cards
      = .ok ([⟨0, idPath, idType⟩, ⟨t.joins.length, idPath, idType⟩], t) :=
    Script.eval_bind_eq_ok_iff.2 ⟨_, eval_resolve_idPath root,
      Script.eval_bind_eq_ok_iff.2 ⟨_, hresolve, rfl⟩⟩
  have hall : ∃ r, (resolveAll root [idPath, pathOf (names ++ [idPath])] []).run.eval cards = .ok r
      ∧ r.tables = t := by
    rw [resolveAll, hmodel]
    exact ⟨_, Script.eval_bind_eq_ok_iff.2 ⟨_, hmodels,
      Script.eval_bind_eq_ok_iff.2 ⟨_, rfl, rfl⟩⟩, rfl⟩
  obtain ⟨r, hr, rfl⟩ := hall
  exact ⟨r, r.tables.joins.length, hr, hroot, hcard⟩

/-! ## §3. One path after another. -/

variable {t t' t'' : Tables} {path : String} {paths more : List String}

/-- The tables behind a path. -/
def joinPath (cards : String → Except Error SoundCard) (t : Tables) (path : String) :
    Except Error Tables := ((resolve t path).run.eval cards).map Prod.snd

/-- The tables behind paths, one after another. -/
def joinAll (cards : String → Except Error SoundCard) (t : Tables) (paths : List String) :
    Except Error Tables := paths.foldlM (joinPath cards) t

theorem joinPath_eq_ok_iff : joinPath cards t path = .ok t' ↔
    ∃ ref, (resolve t path).run.eval cards = .ok (ref, t') := by
  rw [joinPath]
  cases (resolve t path).run.eval cards with
  | error e => exact ⟨nofun, nofun⟩
  | ok found =>
    constructor
    · intro h
      exact ⟨found.1, congrArg Except.ok (Prod.ext rfl (Except.ok.inj h))⟩
    · rintro ⟨ref, h⟩
      rw [Except.ok.inj h]
      rfl

theorem joinAll_cons_eq_ok_iff : joinAll cards t (path :: paths) = .ok t' ↔
    ∃ t'', joinPath cards t path = .ok t'' ∧ joinAll cards t'' paths = .ok t' := by
  rw [joinAll, List.foldlM_cons]
  exact bind_eq_ok_iff

theorem joinAll_append_eq_ok_iff : joinAll cards t (paths ++ more) = .ok t' ↔
    ∃ t'', joinAll cards t paths = .ok t'' ∧ joinAll cards t'' more = .ok t' := by
  rw [joinAll, List.foldlM_append]
  exact bind_eq_ok_iff

/-- The paths of a model join tables, whatever columns there are. -/
theorem exists_resolveModel_iff : ∀ {paths : List String} (columns : List ColumnRef) {t : Tables},
    (∃ columns', (resolveModel paths columns t).run.eval cards = .ok (columns', t'))
      ↔ joinAll cards t paths = .ok t' := by
  intro paths
  induction paths with
  | nil =>
    intro columns t
    constructor
    · rintro ⟨columns', h⟩
      exact congrArg Except.ok (Prod.mk.inj (Except.ok.inj h)).2
    · intro h
      exact ⟨columns, congrArg Except.ok (Prod.ext rfl (Except.ok.inj h))⟩
  | cons path paths ih =>
    intro columns t
    rw [joinAll_cons_eq_ok_iff]
    constructor
    · rintro ⟨columns', h⟩
      obtain ⟨⟨ref, t''⟩, hfirst, h⟩ := Script.eval_bind_eq_ok_iff.1 h
      exact ⟨t'', joinPath_eq_ok_iff.2 ⟨ref, hfirst⟩, (ih _).1 ⟨columns', h⟩⟩
    · rintro ⟨t'', hfirst, h⟩
      obtain ⟨ref, hfirst⟩ := joinPath_eq_ok_iff.1 hfirst
      obtain ⟨columns', h⟩ := (ih (columns ++ [ref])).2 h
      exact ⟨columns', Script.eval_bind_eq_ok_iff.2 ⟨_, hfirst, h⟩⟩

/-! ## §4. Paths that have been resolved. -/

/-- Paths that have been resolved have routes along the tables. -/
theorem exists_takes_of_joinAll (ht : t.Charted) (h : joinAll cards t paths = .ok t') :
    t'.Charted ∧ ∀ path ∈ paths, ∃ route, t'.Takes path route := by
  obtain ⟨columns, h⟩ := (exists_resolveModel_iff []).2 h
  obtain ⟨routes, _, hroutes, hgrown⟩ :=
    takes_of_resolveModel paths [] columns t t' ht (h ▸ Script.yields_eval cards _)
  refine ⟨hgrown.grows.charted ht, fun path hpath => ?_⟩
  obtain ⟨i, hi⟩ := List.mem_iff_getElem?.1 hpath
  obtain ⟨route, _, hroute⟩ := exists_getElem?_of_forall₂ hroutes hi
  exact ⟨route, hroute⟩

theorem joinPath_of_takes {route : Route} (h : t.Takes path route) :
    joinPath cards t path = .ok t := by
  rw [joinPath, eval_resolve, Tables.resolve_of_takes h]
  rfl

/-- Paths that have been resolved join nothing. -/
theorem joinAll_of_takes (h : ∀ path ∈ paths, ∃ route, t.Takes path route) :
    joinAll cards t paths = .ok t := by
  induction paths with
  | nil => rfl
  | cons path paths ih =>
    obtain ⟨⟨route, hroute⟩, h⟩ := List.forall_mem_cons.1 h
    exact joinAll_cons_eq_ok_iff.2 ⟨t, joinPath_of_takes hroute, ih h⟩

/-- **Paths that are repeated** join nothing. -/
theorem joinAll_insert_of_subset {rest : List String} (ht : t.Charted)
    (hmore : ∀ path ∈ more, path ∈ paths) (h : joinAll cards t (paths ++ rest) = .ok t') :
    joinAll cards t (paths ++ (more ++ rest)) = .ok t' := by
  obtain ⟨t'', hpaths, hrest⟩ := joinAll_append_eq_ok_iff.1 h
  have htakes := (exists_takes_of_joinAll ht hpaths).2
  have hnothing : joinAll cards t'' more = .ok t'' :=
    joinAll_of_takes fun path hpath => htakes path (hmore path hpath)
  exact joinAll_append_eq_ok_iff.2 ⟨t'', hpaths, joinAll_append_eq_ok_iff.2 ⟨t'', hnothing, hrest⟩⟩

/-- Further paths join tables whether or not those are passed over that have a column. -/
theorem exists_resolveMore_iff : ∀ {paths : List String} {columns : ColumnMap} {t : Tables},
    t.Charted → columns.Routed t →
      ((∃ columns', (resolveMore paths columns t).run.eval cards = .ok (columns', t'))
        ↔ joinAll cards t paths = .ok t') := by
  intro paths
  induction paths with
  | nil =>
    intro columns t _ _
    constructor
    · rintro ⟨columns', h⟩
      exact congrArg Except.ok (Prod.mk.inj (Except.ok.inj h)).2
    · intro h
      exact ⟨columns, congrArg Except.ok (Prod.ext rfl (Except.ok.inj h))⟩
  | cons path paths ih =>
    intro columns t ht hcolumns
    rw [joinAll_cons_eq_ok_iff, resolveMore]
    split
    -- a path that has a column has a route, so it joins nothing
    · rename_i hcontains
      obtain ⟨column, hcolumn⟩ := (columns.contains_iff path).1 hcontains
      obtain ⟨route, hroute, _⟩ := hcolumns path column hcolumn
      rw [ih ht hcolumns, joinPath_of_takes hroute]
      constructor
      · intro h
        exact ⟨t, rfl, h⟩
      · rintro ⟨t'', hfirst, h⟩
        rw [Except.ok.inj hfirst]
        exact h
    · have hnext {ref : ColumnRef} {t'' : Tables}
          (hfirst : (resolve t path).run.eval cards = .ok (ref, t'')) :
          t''.Charted ∧ (columns.insert path ref.toColumn).Routed t'' := by
        obtain ⟨route, rfl, hroute, hgrown⟩ :=
          takes_of_resolve ht (hfirst ▸ Script.yields_eval cards _)
        exact ⟨hgrown.grows.charted ht, (hcolumns.grows hgrown.grows).insert hroute⟩
      constructor
      · rintro ⟨columns', h⟩
        obtain ⟨⟨ref, t''⟩, hfirst, h⟩ := Script.eval_bind_eq_ok_iff.1 h
        exact ⟨t'', joinPath_eq_ok_iff.2 ⟨ref, hfirst⟩,
          (ih (hnext hfirst).1 (hnext hfirst).2).1 ⟨columns', h⟩⟩
      · rintro ⟨t'', hfirst, h⟩
        obtain ⟨ref, hfirst⟩ := joinPath_eq_ok_iff.1 hfirst
        obtain ⟨columns', h⟩ := (ih (hnext hfirst).1 (hnext hfirst).2).2 h
        exact ⟨columns', Script.eval_bind_eq_ok_iff.2 ⟨_, hfirst, h⟩⟩

/-- **A query joins the tables of its paths**, one after another. -/
theorem exists_resolveAll_iff {card : SoundCard} {model : List String} :
    (∃ r, (resolveAll card model paths).run.eval cards = .ok r ∧ r.tables = t)
      ↔ joinAll cards ⟨card, []⟩ (card.normalizeModel model ++ paths) = .ok t := by
  have hroutes {selected : List ColumnRef} {t' : Tables}
      (hmodel : (resolveModel (card.normalizeModel model) [] ⟨card, []⟩).run.eval cards
        = .ok (selected, t')) : ∃ routes : List Route, selected = routes.map Route.target
          ∧ List.Forall₂ t'.Takes (card.normalizeModel model) routes ∧ t'.Charted := by
    have hroot := Tables.charted_root card
    obtain ⟨routes, hselected, htakes, hgrown⟩ :=
      takes_of_resolveModel _ _ _ _ _ hroot (hmodel ▸ Script.yields_eval cards _)
    exact ⟨routes, hselected, htakes, hgrown.grows.charted hroot⟩
  rw [joinAll_append_eq_ok_iff]
  constructor
  · rintro ⟨r, h, rfl⟩
    obtain ⟨⟨selected, t'⟩, hmodel, h⟩ := Script.eval_bind_eq_ok_iff.1 h
    obtain ⟨⟨columns, t''⟩, hmore, h⟩ := Script.eval_bind_eq_ok_iff.1 h
    obtain rfl := Except.ok.inj h
    obtain ⟨routes, rfl, htakes, ht'⟩ := hroutes hmodel
    exact ⟨t', (exists_resolveModel_iff []).1 ⟨_, hmodel⟩,
      (exists_resolveMore_iff ht' (.foldl_insert htakes card.name)).1 ⟨columns, hmore⟩⟩
  · rintro ⟨t', hmodel, hmore⟩
    obtain ⟨selected, hmodel⟩ := (exists_resolveModel_iff []).2 hmodel
    obtain ⟨routes, rfl, htakes, ht'⟩ := hroutes hmodel
    obtain ⟨columns, hmore⟩ :=
      (exists_resolveMore_iff ht' (.foldl_insert htakes card.name)).2 hmore
    exact ⟨_, Script.eval_bind_eq_ok_iff.2 ⟨_, hmodel,
      Script.eval_bind_eq_ok_iff.2 ⟨_, hmore, rfl⟩⟩, rfl⟩

/-! ## §5. Paths of an unforked card. -/

variable {root : SoundCard}

/-- A path is resolved behind others of an unforked card if it leads somewhere on its own. -/
theorem exists_joinPath_iff (hfork : Unforked cards root) (ht : t.Faithful cards root) :
    (∃ t', joinPath cards t path = .ok t') ↔ ∃ d, follow cards root path = .ok d := by
  rw [joinPath, eval_resolve, ← destination_resolve hfork ht]
  cases ((t.resolve path).eval cards).1 with
  | error e => exact ⟨nofun, nofun⟩
  | ok ref => exact ⟨fun _ => ⟨_, rfl⟩, fun _ => ⟨_, rfl⟩⟩

theorem faithful_of_joinPath (ht : t.Faithful cards root)
    (h : joinPath cards t path = .ok t') : t'.Faithful cards root := by
  obtain ⟨ref, h⟩ := joinPath_eq_ok_iff.1 h
  exact outlasts_resolve (Tables.outlasts_faithful root) ht h

theorem faithful_of_joinAll : ∀ {paths : List String} {t : Tables}, t.Faithful cards root →
    joinAll cards t paths = .ok t' → t'.Faithful cards root := by
  intro paths
  induction paths with
  | nil =>
    intro t ht h
    rw [← Except.ok.inj h]
    exact ht
  | cons path paths ih =>
    intro t ht h
    obtain ⟨t'', hfirst, h⟩ := joinAll_cons_eq_ok_iff.1 h
    exact ih (faithful_of_joinPath ht hfirst) h

/-- **Which paths are resolved** one after another over an unforked card: those that lead somewhere
on their own. -/
theorem exists_joinAll_iff (hfork : Unforked cards root) : ∀ {paths : List String} {t : Tables},
    t.Faithful cards root → ((∃ t', joinAll cards t paths = .ok t')
      ↔ ∀ path ∈ paths, ∃ d, follow cards root path = .ok d) := by
  intro paths
  induction paths with
  | nil =>
    intro t _
    exact ⟨fun _ => nofun, fun _ => ⟨t, rfl⟩⟩
  | cons path paths ih =>
    intro t ht
    rw [List.forall_mem_cons, ← exists_joinPath_iff hfork ht]
    constructor
    · rintro ⟨t', h⟩
      obtain ⟨t'', hfirst, h⟩ := joinAll_cons_eq_ok_iff.1 h
      exact ⟨⟨t'', hfirst⟩, (ih (faithful_of_joinPath ht hfirst)).1 ⟨t', h⟩⟩
    · rintro ⟨⟨t'', hfirst⟩, hrest⟩
      obtain ⟨t', h⟩ := (ih (faithful_of_joinPath ht hfirst)).2 hrest
      exact ⟨t', joinAll_cons_eq_ok_iff.2 ⟨t'', hfirst, h⟩⟩

end Query

end CardStore
