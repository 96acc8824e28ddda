/-
  CardStore.Proofs.Query.Shared
  ─────────────────────────────
  **JOINS ARE SHARED AND MINIMAL.**

  The paths of a query are resolved one after another, and each of them is
  left with a route along the tables of the query.  A table is joined for each
  chain of reference columns that these routes cross, in the order in which
  the chains are crossed first, and for nothing else.  So two crossings lead
  to one table exactly when the columns crossed up to there are the same.

  A walk that fails leaves the tables that it has joined, and every later walk
  may join more, but none takes a table away or puts one in front of another.
  So a path keeps its route whatever is resolved later, and leads to the same
  column again, without a look-up and without a join.

  Main statements:
    * `Query.routed_of_run_resolveAll` — every path of a query has a route along its tables.
    * `Tables.GrownBy.sharedBy` — tables that have grown by routes are shared by them.
    * `Query.sharedBy_of_run_resolveAll` — the joins of a query are shared and minimal.
    * `Tables.Later.grows` — further paths only join further tables.
    * `Tables.resolve_stable` — resolved paths are stable.
-/
import CardStore.Proofs.Context
import CardStore.Proofs.Query.Route
import Mathlib.Logic.Relation

namespace CardStore

open List (Forall₂)
open Relation (ReflTransGen)

/-! ## §1. The routes of all paths of a query. -/

namespace Tables

theorem Takes.grows {t t' : Tables} {path : String} {route : Route} (h : t.Takes path route)
    (ht : Grows t t') : t'.Takes path route := by
  rw [Takes, ht.root_eq]
  exact Along.grows h ht

end Tables

/-- Every path of the map has a route to its column. -/
def ColumnMap.Routed (columns : ColumnMap) (t : Tables) : Prop :=
  ∀ path column, columns.get path = .ok column →
    ∃ route, t.Takes path route ∧ route.target.toColumn = column

namespace ColumnMap.Routed

variable {columns : ColumnMap} {t t' : Tables}

theorem grows (h : columns.Routed t) (ht : t.Grows t') : columns.Routed t' := by
  intro path column hcolumn
  obtain ⟨route, hroute, htarget⟩ := h path column hcolumn
  exact ⟨route, hroute.grows ht, htarget⟩

theorem insert (h : columns.Routed t) {path : String} {route : Route}
    (hroute : t.Takes path route) : (columns.insert path route.target.toColumn).Routed t := by
  intro other found hfound
  rw [ColumnMap.get_insert] at hfound
  split at hfound
  · rename_i hother
    rw [hother]
    exact ⟨route, hroute, Except.ok.inj hfound⟩
  · exact h other found hfound

/-- A map that is given the columns of paths with routes. -/
theorem foldl_insert {paths : List String} {routes : List Route}
    (h : Forall₂ t.Takes paths routes) (card : String) :
    ((paths.zip (routes.map Route.target)).foldl
      (fun m (path, column) => m.insert path column.toColumn) (ColumnMap.empty card)).Routed t := by
  intro path column hcolumn
  rcases ColumnMap.exists_pair_of_get_foldl_insert hcolumn with ⟨p, hp, rfl, rfl⟩ | hempty
  · obtain ⟨i, hi⟩ := List.mem_iff_getElem?.1 hp
    rw [List.getElem?_zip_eq_some, List.getElem?_map] at hi
    obtain ⟨route, hroute, htakes⟩ := exists_getElem?_of_forall₂ h hi.1
    rw [hroute] at hi
    exact ⟨route, htakes, by rw [← Option.some.inj hi.2]⟩
  · cases hempty

end ColumnMap.Routed

namespace Query

/-- A path that is resolved has a route then, by which the tables have grown. -/
theorem takes_of_resolve {t t' : Tables} {path : String} {ref : ColumnRef} (ht : t.Charted)
    (h : (resolve t path).run.Yields (.ok (ref, t'))) :
    ∃ route, route.target = ref ∧ t'.Takes path route ∧ t.GrownBy [route] t' := by
  have hgrows := (resolve_yields h).1
  obtain ⟨route, htarget, halong, hchains⟩ :=
    Tables.walk_along path _ _ _ _ _ _ rfl ht (yields_of_resolve h)
  refine ⟨route, htarget, ?_, hgrows, ?_⟩
  · rw [Tables.Takes, hgrows.root_eq]
    exact halong
  · have hfront : route.chains.map (t.chain 0 ++ ·) = route.chains := by
      rw [ht.chain_zero]
      exact List.map_id _
    rw [hchains, hfront, List.flatMap_singleton]

theorem takes_of_resolveModel : ∀ (paths : List String) (columns columns' : List ColumnRef)
    (t t' : Tables), t.Charted → (resolveModel paths columns t).run.Yields (.ok (columns', t')) →
      ∃ routes : List Route, columns' = columns ++ routes.map Route.target
        ∧ Forall₂ t'.Takes paths routes ∧ t.GrownBy routes t' := by
  intro paths
  induction paths with
  | nil =>
    intro columns columns' t t' ht h
    have hpair : (columns, t) = (columns', t') := Except.ok.inj (Script.yields_done_iff.1 h)
    rw [Prod.mk.injEq] at hpair
    obtain ⟨rfl, rfl⟩ := hpair
    exact ⟨[], (List.append_nil _).symm, .nil, .nil ht⟩
  | cons path paths ih =>
    intro columns columns' t t' ht h
    rw [resolveModel] at h
    obtain ⟨⟨ref, t''⟩, hr, h⟩ := Script.yields_bind_ok_iff.1 h
    obtain ⟨route, rfl, hroute, hgrown⟩ := takes_of_resolve ht hr
    obtain ⟨routes, rfl, hroutes, hgrown'⟩ := ih _ _ _ _ (hgrown.grows.charted ht) h
    refine ⟨route :: routes, ?_, .cons (hroute.grows hgrown'.grows) hroutes,
      hgrown.trans hgrown'⟩
    rw [List.append_assoc]
    rfl

theorem takes_of_resolveMore : ∀ (paths : List String) (columns columns' : ColumnMap)
    (t t' : Tables), t.Charted → columns.Routed t →
      (resolveMore paths columns t).run.Yields (.ok (columns', t')) →
      ∃ routes : List Route, Forall₂ t'.Takes paths routes ∧ t.GrownBy routes t' := by
  intro paths
  induction paths with
  | nil =>
    intro columns columns' t t' ht _ h
    have hpair : (columns, t) = (columns', t') := Except.ok.inj (Script.yields_done_iff.1 h)
    rw [Prod.mk.injEq] at hpair
    obtain ⟨rfl, rfl⟩ := hpair
    exact ⟨[], .nil, .nil ht⟩
  | cons path paths ih =>
    intro columns columns' t t' ht hc h
    rw [resolveMore] at h
    split at h
    -- a path that has a column already has a route already
    · rename_i hcontains
      obtain ⟨column, hcolumn⟩ := (columns.contains_iff path).1 hcontains
      obtain ⟨route, hroute, _⟩ := hc path column hcolumn
      obtain ⟨routes, hroutes, hgrown⟩ := ih _ _ _ _ ht hc h
      exact ⟨route :: routes, .cons (hroute.grows hgrown.grows) hroutes,
        (Tables.GrownBy.of_takes ht hroute).trans hgrown⟩
    · obtain ⟨⟨ref, t''⟩, hr, h⟩ := Script.yields_bind_ok_iff.1 h
      obtain ⟨route, rfl, hroute, hgrown⟩ := takes_of_resolve ht hr
      obtain ⟨routes, hroutes, hgrown'⟩ :=
        ih _ _ _ _ (hgrown.grows.charted ht) ((hc.grows hgrown.grows).insert hroute) h
      exact ⟨route :: routes, .cons (hroute.grows hgrown'.grows) hroutes, hgrown.trans hgrown'⟩

/-- **Resolved paths with their routes**: those of the model lead to the selected columns, and
the tables have grown by the routes of the model and of the further paths. -/
structure Resolved.Routed (card : SoundCard) (model paths : List String) (r : Resolved) :
    Prop where
  model : r.model = card.normalizeModel model
  charted : r.tables.Charted
  routes : ∃ routes more : List Route, Forall₂ r.tables.Takes r.model routes
    ∧ r.selected = routes.map Route.target ∧ Forall₂ r.tables.Takes paths more
    ∧ Tables.GrownBy ⟨card, []⟩ (routes ++ more) r.tables

theorem routed_of_resolveAll {card : SoundCard} {model paths : List String} {r : Resolved}
    (h : (resolveAll card model paths).run.Yields (.ok r)) : r.Routed card model paths := by
  rw [resolveAll] at h
  obtain ⟨⟨selected, t⟩, hmodel, h⟩ := Script.yields_bind_ok_iff.1 h
  obtain ⟨⟨columns, t'⟩, hmore, h⟩ := Script.yields_bind_ok_iff.1 h
  have hroot := Tables.charted_root card
  obtain ⟨routes, rfl, hroutes, hgrown⟩ := takes_of_resolveModel _ _ _ _ _ hroot hmodel
  have ht := hgrown.grows.charted hroot
  obtain ⟨more, hmore, hgrown'⟩ :=
    takes_of_resolveMore _ _ _ _ _ ht (.foldl_insert hroutes card.name) hmore
  obtain rfl := Except.ok.inj (Script.yields_done_iff.1 h)
  exact ⟨rfl, hgrown'.grows.charted ht, routes, more,
    hroutes.imp fun _ _ hroute => hroute.grows hgrown'.grows, rfl, hmore, hgrown.trans hgrown'⟩

variable {σ : Type}

/-- **Every path of a query** has a route along its tables, whatever cards the store answers on
the way. -/
theorem routed_of_run_resolveAll {b : Backend σ} {c : Context σ} {card : SoundCard}
    {model paths : List String} {r : Resolved}
    (h : ((Cards.withLoads b (resolveAll card model paths)).run c).1 = .ok r) :
    r.Routed card model paths :=
  routed_of_resolveAll (Script.yields_of_run h)

/-- What is composed comes of paths with routes along the tables. -/
theorem routed_of_run_compile {b : Backend σ} {c c' : Context σ} {card : SoundCard}
    {model : List String} {options : QueryOptions} {q : CompiledQuery}
    (h : (Cards.withLoads b (compile card model options)).run c = (.ok q, c')) :
    ∃ r : Resolved, r.Routed card model options.paths ∧ r.assemble options = .ok q := by
  rw [run_compile, Prod.mk.injEq] at h
  obtain ⟨r, hr, hq⟩ := bind_eq_ok_iff.1 h.1
  exact ⟨r, routed_of_run_resolveAll hr, hq⟩

end Query

/-! ## §2. Sharing. -/

namespace Tables

/-- **Joins that are shared by paths, and minimal**: they are in one-to-one correspondence with
the distinct chains of reference columns that the paths cross. -/
structure SharedBy (t : Tables) (paths : List String) : Prop where
  /-- There is one chain for each table. -/
  length : t.chains.length = t.joins.length + 1
  /-- The chain of a join is the one of its parent and its own column behind it. -/
  join : ∀ (i : Nat) (j : Join), t.joins[i]? = some j →
    t.chains[i + 1]? = some (t.chain j.parent ++ [j.column])
  /-- Every path has a route along the tables, and behind the root, whose chain is empty, the
  chains of the tables are those that the routes cross, in the order of the first crossings. -/
  crossed : ∃ routes, Forall₂ t.Takes paths routes
    ∧ t.chains = [] :: (routes.flatMap Route.chains).eraseDups
  /-- Two crossings lead to one table exactly when the columns crossed up to there are the
  same. -/
  shared : ∀ path ∈ paths, ∀ path' ∈ paths, ∀ route route', t.Takes path route →
    t.Takes path' route' → ∀ (n n' : Nat) (c c' : Crossing), route.crossings[n]? = some c →
      route'.crossings[n']? = some c' →
        (c.table = c'.table ↔ route.columns.take (n + 1) = route'.columns.take (n' + 1))

theorem nil_not_mem_chains (routes : List Route) : [] ∉ routes.flatMap Route.chains := by
  intro hmem
  obtain ⟨route, _, hmem⟩ := List.mem_flatMap.1 hmem
  rw [Route.chains] at hmem
  cases hcolumns : route.columns with
  | nil =>
    rw [hcolumns] at hmem
    exact absurd hmem List.not_mem_nil
  | cons column columns =>
    rw [hcolumns, List.inits_cons, List.tail_cons, List.mem_map] at hmem
    obtain ⟨chain, _, hchain⟩ := hmem
    exact List.cons_ne_nil _ _ hchain

/-- What the tables of a root have grown to by routes. -/
theorem GrownBy.chains_eq {card : SoundCard} {routes : List Route} {t : Tables}
    (h : GrownBy ⟨card, []⟩ routes t) :
    t.chains = [] :: (routes.flatMap Route.chains).eraseDups := by
  have hroot : (⟨card, []⟩ : Tables).chains = [[]] := rfl
  have hfilter : (routes.flatMap Route.chains).filter (fun chain => !chain == [])
      = routes.flatMap Route.chains := by
    rw [List.filter_eq_self]
    intro chain hchain
    have hne : chain ≠ [] := fun hnil => nil_not_mem_chains routes (hnil ▸ hchain)
    simpa using hne
  rw [h.chains, hroot, List.singleton_append, List.eraseDups_cons, hfilter]

/-- **Tables that have grown by the routes of paths** are shared by these paths. -/
theorem GrownBy.sharedBy {card : SoundCard} {paths : List String} {routes : List Route}
    {t : Tables} (h : GrownBy ⟨card, []⟩ routes t) (hroutes : Forall₂ t.Takes paths routes) :
    t.SharedBy paths := by
  have ht := h.grows.charted (charted_root card)
  constructor
  · exact ht.length_chains
  · intro i j hj
    rw [getElem?_chains_of_trails (ht.next i j hj), List.map_append]
    rfl
  · exact ⟨routes, hroutes, h.chains_eq⟩
  · intro path _ path' _ route route' hroute hroute' n n' c c' hc hc'
    obtain ⟨hchain, hle⟩ := Along.chain_table hroute ht n c hc
    obtain ⟨hchain', hle'⟩ := Along.chain_table hroute' ht n' c' hc'
    rw [ht.chain_zero, List.nil_append] at hchain hchain'
    rw [← hchain, ← hchain']
    constructor
    · intro hsame
      rw [hsame]
    · intro hsame
      have hlt : c.table < t.chains.length := by
        rw [ht.length_chains]
        exact Nat.lt_succ_of_le hle
      refine (List.getElem?_inj hlt ht.distinct).1 ?_
      rw [ht.getElem?_chain hle, ht.getElem?_chain hle', hsame]

end Tables

namespace Query

variable {σ : Type}

/-- **The joins of a query are shared and minimal**: whatever cards the store answers, the paths
of the model, of the filter and of the sort keys share the tables that are joined for them, and a
statement composed from them reads from these tables. -/
theorem sharedBy_of_run_resolveAll (b : Backend σ) (c : Context σ) (card : SoundCard)
    (model : List String) (options : QueryOptions) (r : Resolved)
    (h : ((Cards.withLoads b (resolveAll card model options.paths)).run c).1 = .ok r) :
    r.tables.SharedBy (card.normalizeModel model ++ options.paths)
      ∧ ∀ q, r.assemble options = .ok q → q.tables = r.tables := by
  have hr := routed_of_run_resolveAll h
  obtain ⟨routes, more, hroutes, _, hmore, hgrown⟩ := hr.routes
  constructor
  · rw [← hr.model]
    exact hgrown.sharedBy (List.rel_append hroutes hmore)
  · intro q hq
    obtain ⟨condition, order, _, _, rfl⟩ := Resolved.assemble_eq_ok_iff.1 hq
    rfl

end Query

/-! ## §3. The heads of departments. -/

/-- A context with the cards of people and departments. -/
def staffContext : Context Unit :=
  { Context.ofBackend () default with cards := .ofSource (.ofCards staffCards) }

/-- The sort key shares the department of the model, and the filter shares the head of it. -/
theorem sharedBy_headedBy :
    ∃ r, ((Cards.withLoads .unreachable (Query.resolveAll personCard
        ["name", "department.head.department.name"] (headedBy "Li").paths)).run staffContext).1
          = .ok r
      ∧ r.tables.chains = [[], ["DEPT_ID"], ["DEPT_ID", "HEAD_ID"],
          ["DEPT_ID", "HEAD_ID", "DEPT_ID"]]
      ∧ r.tables.SharedBy (personCard.normalizeModel ["name", "department.head.department.name"]
          ++ (headedBy "Li").paths) := by
  have hok : (((Cards.withLoads .unreachable (Query.resolveAll personCard
      ["name", "department.head.department.name"] (headedBy "Li").paths)).run
        staffContext).1.toOption.map fun r => r.tables.chains)
      = some [[], ["DEPT_ID"], ["DEPT_ID", "HEAD_ID"], ["DEPT_ID", "HEAD_ID", "DEPT_ID"]] := by
    decide +kernel
  obtain ⟨r, c', hrun, hchains⟩ := Action.exists_run_of_map hok
  have hanswer := congrArg Prod.fst hrun
  exact ⟨r, hanswer, hchains, (Query.sharedBy_of_run_resolveAll .unreachable _ personCard _
    (headedBy "Li") r hanswer).1⟩

/-! ## §4. One path after another. -/

namespace Tables

/-- A path that is resolved on some tables may come to this answer and leave these tables, whatever
the store answers to each look-up on the way. -/
def Resolves (t : Tables) (path : String) (answer : Except Error ColumnRef) (t' : Tables) : Prop :=
  (t.resolve path).Yields (answer, t')

/-- **Tables that are left** when any further paths have been resolved one after another, each with
whatever answer. -/
abbrev Later : Tables → Tables → Prop :=
  ReflTransGen fun t t' => ∃ path answer, Resolves t path answer t'

variable {t t' : Tables} {path : String} {answer : Except Error ColumnRef} {ref : ColumnRef}

/-- A path only joins tables, also where it leads nowhere. -/
theorem Resolves.grows (h : Resolves t path answer t') : t.Grows t' :=
  (walk_yields path _ _ _ _ _ _ rfl h).1

/-- **Further paths** only join further tables. -/
theorem Later.grows (h : Later t t') : t.Grows t' := by
  induction h with
  | refl => exact .refl t
  | tail _ hstep ih =>
    obtain ⟨path, answer, hresolves⟩ := hstep
    exact ih.trans hresolves.grows

/-- **A path that leads to a column** has a route to it along the tables that are left. -/
theorem exists_takes_of_resolves (ht : t.Charted) (h : Resolves t path (.ok ref) t') :
    ∃ route, t'.Takes path route ∧ route.target = ref := by
  obtain ⟨route, htarget, halong, _⟩ := walk_along path _ _ _ _ _ _ rfl ht h
  refine ⟨route, ?_, htarget⟩
  rw [Takes, h.grows.root_eq]
  exact halong

/-! ## §5. Through the store. -/

variable {σ : Type}

/-- Resolve a path on some tables through the store of a context.  The tables that are joined on
the way are kept when the path leads nowhere. -/
def resolveIn (b : Backend σ) (t : Tables) (path : String) (c : Context σ) :
    (Except Error ColumnRef × Tables) × Context σ :=
  (t.resolve path).run (fun name c => (Cards.load b name).run c) c

/-- Resolve paths one after another. -/
def resolveEach (b : Backend σ) (paths : List String) (t : Tables) (c : Context σ) :
    Tables × Context σ :=
  paths.foldl (fun (t, c) path => ((resolveIn b t path c).1.2, (resolveIn b t path c).2)) (t, c)

theorem resolves_resolveIn (b : Backend σ) (t : Tables) (path : String) (c : Context σ) :
    Resolves t path (resolveIn b t path c).1.1 (resolveIn b t path c).1.2 :=
  Script.yields_run _ _ c

theorem later_resolveEach (b : Backend σ) : ∀ (paths : List String) (t : Tables) (c : Context σ),
    Later t (resolveEach b paths t c).1 := by
  intro paths
  induction paths with
  | nil => exact fun t c => .refl
  | cons path paths ih =>
    intro t c
    exact (ih _ _).head ⟨path, _, resolves_resolveIn b t path c⟩

/-- **Resolved paths are stable.** Take the tables of any card after any paths have been resolved
on them, and a path that leads to a column then.  After any further paths, whether they led to
columns or not and whatever the store answered to their look-ups, the path leads to the same column
again, and the tables stay as they are; so it does through every store, which is not asked for
anything. -/
theorem resolve_stable (root : SoundCard) (t t' t'' : Tables) (path : String) (ref : ColumnRef)
    (hbefore : Later ⟨root, []⟩ t) (hfirst : Resolves t path (.ok ref) t')
    (hlater : Later t' t'') :
    (∀ answer left, Resolves t'' path answer left → answer = .ok ref ∧ left = t'')
      ∧ ∀ (σ : Type) (b : Backend σ) (c : Context σ),
        resolveIn b t'' path c = ((.ok ref, t''), c) := by
  have ht : t.Charted := hbefore.grows.charted (charted_root root)
  obtain ⟨route, hroute, rfl⟩ := exists_takes_of_resolves ht hfirst
  -- nothing that is joined later stands in the way of the route
  have hagain : t''.resolve path = .done (.ok route.target, t'') :=
    resolve_of_takes (hroute.grows hlater.grows)
  constructor
  · intro answer left h
    rw [Resolves, hagain, Script.yields_done_iff, Prod.mk.injEq] at h
    exact ⟨h.1.symm, h.2.symm⟩
  · intro σ b c
    rw [resolveIn, hagain]
    rfl

end Tables

/-- A path to the head of a department is resolved behind one that stops at the department, which
has no wages.  Behind it the head is found to have none either, and then the own department of the
head is joined, all of which makes no difference to the path. -/
theorem resolve_stable_head :
    ∃ t t' t'' : Tables, Tables.Later ⟨personCard, []⟩ t ∧ t.joins.length = 1
      ∧ Tables.Resolves t "department.head.name" (.ok ⟨2, "MC", "Text"⟩) t'
      ∧ t'.joins.length = 2 ∧ Tables.Later t' t'' ∧ t''.joins.length = 3
      ∧ Tables.resolveIn .unreachable t'' "department.head.name" staffContext
        = ((.ok ⟨2, "MC", "Text"⟩, t''), staffContext) := by
  let before := Tables.resolveEach .unreachable ["department.wages"] ⟨personCard, []⟩ staffContext
  let found := Tables.resolveIn .unreachable before.1 "department.head.name" before.2
  let later := Tables.resolveEach .unreachable
    ["department.head.wages", "department.head.department.name"] found.1.2 found.2
  have hbefore : Tables.Later ⟨personCard, []⟩ before.1 := Tables.later_resolveEach _ _ _ _
  have hlater : Tables.Later found.1.2 later.1 := Tables.later_resolveEach _ _ _ _
  have hlengths : before.1.joins.length = 1 ∧ found.1.2.joins.length = 2
      ∧ later.1.joins.length = 3 := by decide +kernel
  have hname : found.1.1.toOption = some ⟨2, "MC", "Text"⟩ := by decide +kernel
  have hanswer : found.1.1 = .ok ⟨2, "MC", "Text"⟩ := by
    cases h : found.1.1 with
    | error e =>
      rw [h] at hname
      cases hname
    | ok ref =>
      rw [h] at hname
      rw [Option.some.inj hname]
  have hfirst : Tables.Resolves before.1 "department.head.name" (.ok ⟨2, "MC", "Text"⟩) found.1.2 :=
    hanswer ▸ Tables.resolves_resolveIn .unreachable before.1 "department.head.name" before.2
  have hagain := (Tables.resolve_stable personCard before.1 found.1.2 later.1
    "department.head.name" ⟨2, "MC", "Text"⟩ hbefore hfirst hlater).2
  exact ⟨before.1, found.1.2, later.1, hbefore, hlengths.1, hfirst, hlengths.2.1, hlater,
    hlengths.2.2, hagain Unit .unreachable staffContext⟩

end CardStore
