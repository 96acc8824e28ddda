/-
  CardStore.Proofs.Query.Route
  ────────────────────────────
  **THE ROUTES OF PATHS ALONG JOINED TABLES.**

  Every joined table is reached from the root over a trail of reference
  columns.  A table is joined only where no table with its trail is there
  yet, so trails tell tables apart, and this stays so however many paths are
  resolved, to the end or not.

  A path that has been resolved has a route along the tables: over the
  references that it crosses, to the column that it names.  Tables are only
  ever added, so the route stays, and the path needs no card to be looked up
  again.

  Main statements:
    * `Tables.Grows.charted` — trails tell the tables of every query apart.
    * `Tables.Along.grows` — a route stays when further tables are joined.
    * `Tables.walk_of_along` — what has a route is resolved without a look-up.
    * `Tables.walk_along` — a walk that leads somewhere has a route, and the tables it joins are
      those of the chains of columns that it crosses first.
-/
import CardStore.Proofs.Lists
import CardStore.Proofs.Query.Joins
import Mathlib.Data.List.Infix

namespace CardStore

/-! ## §1. Trails. -/

/-- A step along a reference: its column, and the card of the table that it leads to. -/
structure Hop where
  column : String
  card : SoundCard
  deriving DecidableEq

namespace Tables

/-- The trails of some tables and the one of a table that is joined to them. -/
def extendTrails (trails : List (List Hop)) (j : Join) : List (List Hop) :=
  trails ++ [trails[j.parent]?.getD [] ++ [⟨j.column, j.card⟩]]

/-- How each table is reached from the root, the root first. -/
def trails (t : Tables) : List (List Hop) := t.joins.foldl extendTrails [[]]

/-- How the table at a position is reached. -/
def trail (t : Tables) (position : Nat) : List Hop := t.trails[position]?.getD []

/-- The chain of reference columns from the root to each table. -/
def chains (t : Tables) : List (List String) := t.trails.map (List.map Hop.column)

/-- The chain of reference columns to the table at a position. -/
def chain (t : Tables) (position : Nat) : List String := (t.trail position).map Hop.column

theorem trails_push (t : Tables) (j : Join) :
    (t.push j).trails = t.trails ++ [t.trail j.parent ++ [⟨j.column, j.card⟩]] :=
  List.foldl_append

theorem getElem?_chains_of_trails {t : Tables} {position : Nat} {hops : List Hop}
    (h : t.trails[position]? = some hops) :
    t.chains[position]? = some (hops.map Hop.column) := by
  rw [chains, List.getElem?_map, h]
  rfl

/-- **Charted tables**: each is reached over its parent, and no two over the same columns. -/
structure Charted (t : Tables) : Prop where
  rooted : t.Rooted
  length : t.trails.length = t.size
  first : t.trails[0]? = some []
  /-- The table of a join is reached by one more hop than its parent. -/
  next : ∀ (i : Nat) (j : Join), t.joins[i]? = some j →
    t.trails[i + 1]? = some (t.trail j.parent ++ [⟨j.column, j.card⟩])
  distinct : t.chains.Nodup

theorem charted_root (card : SoundCard) : Charted ⟨card, []⟩ where
  rooted := rooted_root card
  length := rfl
  first := rfl
  next := nofun
  distinct := List.nodup_singleton _

namespace Charted

variable {t : Tables}

theorem length_chains (h : t.Charted) : t.chains.length = t.joins.length + 1 := by
  rw [chains, List.length_map, h.length]
  rfl

/-- There is a trail to every table. -/
theorem getElem?_trail (h : t.Charted) {position : Nat} (hposition : position ≤ t.joins.length) :
    t.trails[position]? = some (t.trail position) := by
  have hlt : position < t.trails.length := by
    rw [h.length]
    exact Nat.lt_succ_of_le hposition
  rw [trail, List.getElem?_eq_getElem hlt, Option.getD_some]

theorem getElem?_chain (h : t.Charted) {position : Nat} (hposition : position ≤ t.joins.length) :
    t.chains[position]? = some (t.chain position) :=
  getElem?_chains_of_trails (h.getElem?_trail hposition)

/-- The trail to a table stays when further ones are joined. -/
theorem trail_push (h : t.Charted) {position : Nat} (hposition : position ≤ t.joins.length)
    (j : Join) : (t.push j).trail position = t.trail position := by
  have hlt : position < t.trails.length := by
    rw [h.length]
    exact Nat.lt_succ_of_le hposition
  rw [trail, trails_push, List.getElem?_append_left hlt, trail]

/-- The trail to the table that is joined. -/
theorem getElem?_trails_push_size (h : t.Charted) (j : Join) :
    (t.push j).trails[t.size]? = some (t.trail j.parent ++ [⟨j.column, j.card⟩]) := by
  rw [trails_push, ← h.length, List.getElem?_concat_length]

theorem trail_push_size (h : t.Charted) (j : Join) :
    (t.push j).trail t.size = t.trail j.parent ++ [⟨j.column, j.card⟩] := by
  rw [trail, h.getElem?_trails_push_size, Option.getD_some]

theorem trail_zero (h : t.Charted) : t.trail 0 = [] := by
  rw [trail, h.first, Option.getD_some]

theorem chain_zero (h : t.Charted) : t.chain 0 = [] := by
  rw [chain, h.trail_zero, List.map_nil]

/-- The trail to the table that is joined through a column. -/
theorem trail_of_find? (h : t.Charted) {parent next : Nat} {column : String} {card : SoundCard}
    (hfound : t.find? parent column = some (next, card)) :
    t.trail next = t.trail parent ++ [⟨column, card⟩] := by
  obtain ⟨i, rfl, hi⟩ := exists_join_of_find? hfound
  rw [trail, h.next i _ hi, Option.getD_some]

theorem chain_of_find? (h : t.Charted) {parent next : Nat} {column : String} {card : SoundCard}
    (hfound : t.find? parent column = some (next, card)) :
    t.chain next = t.chain parent ++ [column] := by
  rw [chain, h.trail_of_find? hfound, List.map_append]
  rfl

/-- No table is reached over the column of a join that is not there. -/
theorem not_mem_chains (h : t.Charted) {position : Nat} (hposition : position ≤ t.joins.length)
    {column : String} (hnew : t.find? position column = none) :
    t.chain position ++ [column] ∉ t.chains := by
  intro hmem
  obtain ⟨k, hk⟩ := List.mem_iff_getElem?.1 hmem
  cases k with
  | zero =>
    rw [getElem?_chains_of_trails h.first] at hk
    exact absurd (Option.some.inj hk).symm (List.append_ne_nil_of_right_ne_nil _ (by simp))
  | succ i =>
    have hi : i < t.joins.length := by
      have hlt := (List.getElem?_eq_some_iff.1 hk).1
      rw [h.length_chains] at hlt
      exact Nat.lt_of_succ_lt_succ hlt
    obtain ⟨j, hj⟩ : ∃ j, t.joins[i]? = some j := ⟨_, List.getElem?_eq_getElem hi⟩
    rw [getElem?_chains_of_trails (h.next i j hj), Option.some.injEq, List.map_append] at hk
    -- the two chains end in one column, and what is in front of it belongs to one table
    obtain ⟨hfront, hlast⟩ := List.append_inj' hk rfl
    have hparent : j.parent ≤ t.joins.length := (h.rooted.parent i j hj).1.trans hi.le
    have hchains : t.chains[j.parent]? = t.chains[position]? := by
      rw [h.getElem?_chain hparent, h.getElem?_chain hposition]
      exact congrArg some hfront
    have hsame : j.parent = position := by
      refine (List.getElem?_inj ?_ h.distinct).1 hchains
      rw [h.length_chains]
      exact Nat.lt_succ_of_le hparent
    exact find?_eq_none_iff.1 hnew j (List.mem_of_getElem? hj) ⟨hsame, (List.cons.inj hlast).1⟩

theorem chains_push (j : Join) :
    (t.push j).chains = t.chains ++ [t.chain j.parent ++ [j.column]] := by
  rw [chains, trails_push, List.map_append, List.map_singleton, List.map_append]
  rfl

/-- **A join keeps tables charted.** -/
theorem push (h : t.Charted) {position : Nat} {card : SoundCard} (target : SoundCard)
    {r : Reference} (hcard : t.cardAt? position = some card) (hr : r ∈ card.references)
    (hnew : t.find? position r.column = none) :
    (t.push ⟨position, r.column, target⟩).Charted := by
  have hposition := le_of_cardAt? hcard
  constructor
  · exact h.rooted.push target hcard hr hnew
  · rw [trails_push, List.length_append, h.length, size, size, length_joins_push]
    rfl
  · rw [trails_push, List.getElem?_append_left, h.first]
    rw [h.length]
    exact Nat.succ_pos _
  · intro i j hj
    rcases getElem?_joins_push hj with hj | ⟨rfl, rfl⟩
    -- the tables that were there keep their trails
    · have hi := (List.getElem?_eq_some_iff.1 hj).1
      have hparent : j.parent ≤ t.joins.length := (h.rooted.parent i j hj).1.trans hi.le
      rw [h.trail_push hparent, trails_push, List.getElem?_append_left, h.next i j hj]
      rw [h.length]
      exact Nat.succ_lt_succ hi
    · rw [h.trail_push hposition]
      exact h.getElem?_trails_push_size _
  · rw [chains_push, List.nodup_append]
    refine ⟨h.distinct, List.nodup_singleton _, ?_⟩
    intro chain hchain new hnew' hsame
    rw [List.mem_singleton.1 hnew'] at hsame
    exact h.not_mem_chains hposition hnew (hsame ▸ hchain)

end Charted

/-- **Trails tell tables apart**, whatever is joined to them. -/
theorem Grows.charted {t t' : Tables} (h : Grows t t') (ht : t.Charted) : t'.Charted :=
  h.keeps (fun _ _ _ target _ hcard hr hnew ht => ht.push target hcard hr hnew) ht

/-! ## §2. Joins that are found. -/

theorem findFrom?_append {parent : Nat} {column : String} {found : Nat × SoundCard}
    {joins : List Join} (more : List Join) : ∀ {position : Nat},
      findFrom? parent column position joins = some found →
        findFrom? parent column position (joins ++ more) = some found := by
  induction joins with
  | nil =>
    intro position h
    cases h
  | cons j joins ih =>
    intro position h
    rw [List.cons_append, findFrom?]
    rw [findFrom?] at h
    split
    · rename_i hj
      rw [if_pos hj] at h
      exact h
    · rename_i hj
      rw [if_neg hj] at h
      exact ih h

theorem findFrom?_append_singleton {joins : List Join} (j : Join) : ∀ {position : Nat},
    findFrom? j.parent j.column position joins = none →
      findFrom? j.parent j.column position (joins ++ [j])
        = some (position + joins.length, j.card) := by
  induction joins with
  | nil =>
    intro position _
    exact if_pos ⟨rfl, rfl⟩
  | cons k joins ih =>
    intro position h
    rw [findFrom?] at h
    rw [List.cons_append, findFrom?, List.length_cons, Nat.add_comm joins.length, ← Nat.add_assoc]
    split at h
    · cases h
    · rename_i hk
      rw [if_neg hk]
      exact ih h

/-- A table that is joined is found. -/
theorem find?_push_self {t : Tables} (j : Join) (hnew : t.find? j.parent j.column = none) :
    (t.push j).find? j.parent j.column = some (t.size, j.card) := by
  rw [size, Nat.add_comm]
  exact findFrom?_append_singleton j hnew

/-- The table that is found stays the same when further ones are joined. -/
theorem Grows.find? {t t' : Tables} (h : Grows t t') {parent : Nat} {column : String}
    {found : Nat × SoundCard} (ht : t.find? parent column = some found) :
    t'.find? parent column = some found :=
  h.keeps (P := fun t => t.find? parent column = some found)
    (fun _ _ _ _ _ _ _ _ ht => findFrom?_append _ ht) ht

theorem Grows.root_eq {t t' : Tables} (h : Grows t t') : t'.root = t.root :=
  h.keeps (P := fun t' => t'.root = t.root) (fun _ _ _ _ _ _ _ _ ht => ht) rfl

end Tables

/-! ## §3. Routes. -/

/-- A reference that a path crosses: its column, and the table behind it. -/
structure Crossing where
  column : String
  table : Nat
  deriving DecidableEq, Repr

/-- The way of a path along the tables: the references that it crosses, and the column that it
leads to. -/
structure Route where
  crossings : List Crossing
  target : ColumnRef
  deriving DecidableEq, Repr

namespace Route

/-- The reference columns that are crossed. -/
def columns (route : Route) : List String := route.crossings.map Crossing.column

/-- The chains of columns from the start of a route to each of its crossings. -/
def chains (route : Route) : List (List String) := route.columns.inits.tail

/-- A route behind one more crossing. -/
def behind (c : Crossing) (route : Route) : Route := ⟨c :: route.crossings, route.target⟩

theorem columns_behind (c : Crossing) (route : Route) :
    (route.behind c).columns = c.column :: route.columns := rfl

/-- The chains behind one more crossing: the one of that crossing, and all others behind it. -/
theorem map_chains_behind (front : List String) (c : Crossing) (route : Route) :
    (route.behind c).chains.map (front ++ ·)
      = (front ++ [c.column]) :: route.chains.map (front ++ [c.column] ++ ·) := by
  have hinits : route.columns.inits = [] :: route.chains := by
    rw [chains]
    cases route.columns with
    | nil => rfl
    | cons column columns => rw [List.inits_cons, List.tail_cons]
  rw [chains, columns_behind, List.inits_cons, List.tail_cons, hinits]
  simp only [List.map_cons, List.map_map, Function.comp_def, List.append_assoc, List.cons_append,
    List.nil_append]

end Route

namespace Tables

/-- **The route** that the names of a path take along the tables, from the card at a position. -/
inductive Along (t : Tables) : Nat → SoundCard → List String → Route → Prop where
  | last {position : Nat} {card : SoundCard} {name : String} {member : Member} :
    card.member? name = some member →
      Along t position card [name] ⟨[], ⟨position, member.column.1, member.column.2⟩⟩
  | cross {position next : Nat} {card target : SoundCard} {name : String} {rest : List String}
      {r : Reference} {route : Route} :
    card.member? name = some (.reference r) → t.find? position r.column = some (next, target) →
      Along t next target rest route →
        Along t position card (name :: rest) (route.behind ⟨r.column, next⟩)

/-- The route that a path takes along the tables. -/
def Takes (t : Tables) (path : String) (route : Route) : Prop :=
  t.Along 0 t.root (pathSegments path) route

namespace Along

variable {t t' : Tables} {position : Nat} {card : SoundCard} {names : List String} {route : Route}

theorem ne_nil (h : t.Along position card names route) : names ≠ [] := by
  cases h with
  | last _ => exact List.cons_ne_nil _ _
  | cross _ _ _ => exact List.cons_ne_nil _ _

/-- **A route stays** when further tables are joined. -/
theorem grows (h : t.Along position card names route) (ht : Grows t t') :
    t'.Along position card names route := by
  induction h with
  | last hm => exact .last hm
  | cross hm hfound _ ih => exact .cross hm (ht.find? hfound) ih

/-- A crossing leads to the table that is reached over the columns crossed up to there. -/
theorem chain_table (h : t.Along position card names route) (ht : t.Charted) :
    ∀ (n : Nat) (c : Crossing), route.crossings[n]? = some c →
      t.chain c.table = t.chain position ++ route.columns.take (n + 1)
        ∧ c.table ≤ t.joins.length := by
  induction h with
  | last _ => exact nofun
  | @cross position next _ _ _ _ r route _ hfound _ ih =>
    have hnext := ht.chain_of_find? hfound
    intro n c hc
    cases n with
    | zero =>
      rw [← Option.some.inj hc, Route.columns_behind]
      exact ⟨hnext, le_of_cardAt? (cardAt?_of_find? hfound)⟩
    | succ n =>
      obtain ⟨hchain, hle⟩ := ih n c hc
      rw [hchain, hnext, Route.columns_behind, List.take_succ_cons, List.append_assoc]
      exact ⟨rfl, hle⟩

/-- The chains that a route crosses are those of tables. -/
theorem mem_chains (h : t.Along position card names route) (ht : t.Charted) :
    ∀ chain ∈ route.chains.map (t.chain position ++ ·), chain ∈ t.chains := by
  induction h with
  | last _ => exact nofun
  | @cross position next _ _ _ _ r route _ hfound _ ih =>
    rw [Route.map_chains_behind, List.forall_mem_cons, ← ht.chain_of_find? hfound]
    have hnext := ht.getElem?_chain (le_of_cardAt? (cardAt?_of_find? hfound))
    exact ⟨List.mem_of_getElem? hnext, ih⟩

end Along

/-- A reference whose column has been crossed before leads to the table that is there. -/
theorem walk_of_find? (path : String) {t : Tables} {position next : Nat} {card target : SoundCard}
    {name : String} {rest : List String} {r : Reference}
    (hm : card.member? name = some (.reference r)) (hrest : rest ≠ [])
    (hfound : t.find? position r.column = some (next, target)) :
    walk path position card (name :: rest) t = walk path next target rest t := by
  have hmore : rest.isEmpty = false := List.isEmpty_eq_false_iff.2 hrest
  rw [walk, hm]
  dsimp only
  rw [hmore, if_neg Bool.false_ne_true, hfound]

/-- **What has a route** is resolved without a look-up, and joins nothing. -/
theorem walk_of_along (path : String) {t : Tables} {position : Nat} {card : SoundCard}
    {names : List String} {route : Route} (h : t.Along position card names route) :
    walk path position card names t = .done (.ok route.target, t) := by
  induction h with
  | last hm =>
    rw [walk, hm]
    rfl
  | cross hm hfound hrest ih =>
    rw [walk_of_find? path hm hrest.ne_nil hfound]
    exact ih

theorem resolve_of_takes {t : Tables} {path : String} {route : Route} (h : t.Takes path route) :
    t.resolve path = .done (.ok route.target, t) := walk_of_along path h

/-! ## §4. Walks. -/

/-- **Tables that have grown by routes**: there is a new one for each chain of columns that had
not been crossed before, in the order of the first crossings. -/
structure GrownBy (t : Tables) (routes : List Route) (t' : Tables) : Prop where
  grows : Grows t t'
  chains : t'.chains = (t.chains ++ routes.flatMap Route.chains).eraseDups

theorem GrownBy.nil {t : Tables} (ht : t.Charted) : t.GrownBy [] t where
  grows := .refl t
  chains := by rw [List.flatMap_nil, List.append_nil, eraseDups_eq_self ht.distinct]

theorem GrownBy.trans {t t' t'' : Tables} {routes more : List Route} (h : t.GrownBy routes t')
    (h' : t'.GrownBy more t'') : t.GrownBy (routes ++ more) t'' where
  grows := h.grows.trans h'.grows
  chains := by
    rw [h'.chains, h.chains, eraseDups_eraseDups_append, List.flatMap_append, List.append_assoc]

/-- A path that has a route already adds nothing. -/
theorem GrownBy.of_takes {t : Tables} {path : String} {route : Route} (ht : t.Charted)
    (h : t.Takes path route) : t.GrownBy [route] t where
  grows := .refl t
  chains := by
    have hmem : ∀ chain ∈ route.chains, chain ∈ t.chains := by
      have hmem := h.mem_chains ht
      rw [ht.chain_zero] at hmem
      simpa using hmem
    rw [List.flatMap_singleton, ← List.append_nil route.chains, eraseDups_append_of_subset hmem,
      List.append_nil, eraseDups_eq_self ht.distinct]

/-- **A walk that leads somewhere** has a route then, and joins a table for each chain of columns
that is crossed for the first time.  The induction is on the names that are left. -/
theorem walk_along (path : String) :
    ∀ (names : List String) (position : Nat) (card : SoundCard) (t t' : Tables) (ref : ColumnRef),
      t.cardAt? position = some card → t.Charted →
      (walk path position card names t).Yields (.ok ref, t') →
      ∃ route, route.target = ref ∧ t'.Along position card names route
        ∧ t'.chains = (t.chains ++ route.chains.map (t.chain position ++ ·)).eraseDups := by
  intro names
  induction names with
  | nil =>
    intro position card t t' ref _ _ h
    cases h
  | cons name rest ih =>
    intro position card t t' ref hcard ht h
    rw [walk] at h
    split at h
    · cases h
    · rename_i m hm
      split at h
      · rename_i hrest
        obtain rfl := List.isEmpty_iff.1 hrest
        rw [Script.yields_done_iff, Prod.mk.injEq] at h
        obtain ⟨href, rfl⟩ := h
        refine ⟨_, Except.ok.inj href, .last hm, ?_⟩
        rw [Route.chains]
        show _ = (t.chains ++ []).eraseDups
        rw [List.append_nil, eraseDups_eq_self ht.distinct]
      · split at h
        · rename_i r
          split at h
          -- the table behind the reference is there, so its chain has been crossed before
          · rename_i next target hfound
            have hnext := cardAt?_of_find? hfound
            have hgrows := (walk_yields path _ _ _ _ _ _ hnext h).1
            obtain ⟨route, htarget, halong, hchains⟩ := ih _ _ _ _ _ hnext ht h
            refine ⟨route.behind ⟨r.column, next⟩, htarget,
              .cross hm (hgrows.find? hfound) halong, ?_⟩
            have hmem : ∀ chain ∈ [t.chain next], chain ∈ t.chains := by
              intro chain hchain
              rw [List.mem_singleton.1 hchain]
              exact List.mem_of_getElem? (ht.getElem?_chain (le_of_cardAt? hnext))
            rw [hchains, Route.map_chains_behind, ← ht.chain_of_find? hfound]
            exact (eraseDups_append_of_subset hmem _).symm
          -- the table is joined now, and its chain is crossed for the first time
          · rename_i hnew
            cases h with
            | ask found h =>
              cases found with
              | error e => cases h
              | ok target =>
                have hnext := cardAt?_push_size t ⟨position, r.column, target⟩
                have hpushed := ht.push target hcard (Card.mem_references_of_member? hm) hnew
                have hfound : (t.push ⟨position, r.column, target⟩).find? position r.column
                    = some (t.size, target) := find?_push_self _ hnew
                have hgrows := (walk_yields path _ _ _ _ _ _ hnext h).1
                obtain ⟨route, htarget, halong, hchains⟩ := ih _ _ _ _ _ hnext hpushed h
                refine ⟨route.behind ⟨r.column, t.size⟩, htarget,
                  .cross hm (hgrows.find? hfound) halong, ?_⟩
                have hchain := hpushed.chain_of_find? hfound
                have hkept : (t.push ⟨position, r.column, target⟩).chain position
                    = t.chain position := by
                  rw [chain, ht.trail_push (le_of_cardAt? hcard), chain]
                rw [hchains, Route.map_chains_behind, hchain, hkept, Charted.chains_push,
                  List.append_assoc]
                rfl
        · cases h

end Tables

end CardStore
