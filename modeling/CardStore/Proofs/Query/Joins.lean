/-
  CardStore.Proofs.Query.Joins
  ────────────────────────────
  **THE TABLES OF A COMPILED QUERY ARE WELL SCOPED.**

  Whatever paths a query follows, and whatever cycles the references of its
  cards form, each of its tables but the first one is joined through a
  reference of a table before it, no two tables are joined through the same
  column, and every column in the statement is one of these tables.  The
  invariant is that of a list which only ever grows by such joins; it is
  carried over to the text because aliases tell positions apart.

  Main statements:
    * `Tables.Rooted.push` — a join keeps the tables rooted.
    * `Tables.WellListed` — what the list of rooted tables looks like.
    * `Query.wellScoped_of_run_compile` — every compiled query is well scoped.
-/
import CardStore.Proofs.Query.Slots
import Mathlib.Data.List.Nodup

namespace CardStore

/-! ## §1. Aliases tell positions apart. -/

namespace Text

theorem digitChar_injective {a b : Nat} (ha : a < 10) (hb : b < 10)
    (h : digitChar a = digitChar b) : a = b := by
  have hall : ∀ a < 10, ∀ b < 10, digitChar a = digitChar b → a = b := by decide
  exact hall a ha b hb h

/-- A single digit is not the text of a number that has more. -/
theorem digitChars_ne_of_lt {m n : Nat} (hm : m < 10) (hn : ¬ n < 10) :
    digitChars m ≠ digitChars n := by
  intro h
  rw [digitChars_of_lt hm, digitChars_of_not_lt hn] at h
  -- one digit on the left leaves nothing to stand in front of the last one on the right
  obtain ⟨hfront, _⟩ := List.append_inj' (show [] ++ [digitChar m] = _ from h) rfl
  exact digitChars_ne_nil _ hfront.symm

/-- Different numbers have different digits. -/
theorem digitChars_injective : Function.Injective digitChars := by
  intro m
  -- a number is its last digit and the number in front of it
  induction m using digitChars.induct with
  | case1 m hm =>
    intro n h
    by_cases hn : n < 10
    · rw [digitChars_of_lt hm, digitChars_of_lt hn] at h
      exact digitChar_injective hm hn (List.cons.inj h).1
    · exact absurd h (digitChars_ne_of_lt hm hn)
  | case2 m hm ih =>
    intro n h
    by_cases hn : n < 10
    · exact absurd h.symm (digitChars_ne_of_lt hn hm)
    · rw [digitChars_of_not_lt hm, digitChars_of_not_lt hn] at h
      obtain ⟨hfront, hlast⟩ := List.append_inj' h rfl
      have hquotient : m / 10 = n / 10 := ih hfront
      have hremainder : m % 10 = n % 10 :=
        digitChar_injective (Nat.mod_lt _ (by decide)) (Nat.mod_lt _ (by decide))
          (List.cons.inj hlast).1
      omega

/-- Two texts are told apart at the first place where a mark stands. -/
theorem append_mark_inj {mark : Char} : ∀ {front front' rest rest' : List Char},
    mark ∉ front → mark ∉ front' → front ++ mark :: rest = front' ++ mark :: rest' →
      front = front' ∧ rest = rest' := by
  intro front
  induction front with
  | nil =>
    intro front' rest rest' _ hfront' h
    cases front' with
    | nil => exact ⟨rfl, (List.cons.inj h).2⟩
    | cons c cs =>
      rw [(List.cons.inj h).1] at hfront'
      exact absurd List.mem_cons_self hfront'
  | cons c cs ih =>
    intro front' rest rest' hfront hfront' h
    cases front' with
    | nil =>
      rw [← (List.cons.inj h).1] at hfront
      exact absurd List.mem_cons_self hfront
    | cons d ds =>
      obtain ⟨rfl, htail⟩ := List.cons.inj h
      obtain ⟨rfl, hrest⟩ := ih (fun hc => hfront (List.mem_cons_of_mem _ hc))
        (fun hd => hfront' (List.mem_cons_of_mem _ hd)) htail
      exact ⟨rfl, hrest⟩

end Text

/-- A column text tells the table and the column apart. -/
theorem columnText_inj {table table' : Nat} {column column' : String}
    (h : columnText table column = columnText table' column') :
    table = table' ∧ column = column' := by
  have hpoint (n : Nat) : '.' ∉ (tableAlias n).toList := by
    intro hmem
    exact absurd ((Sql.isWord_tableAlias n).2 '.' hmem) (by decide)
  have hchars : (tableAlias table).toList ++ '.' :: column.toList
      = (tableAlias table').toList ++ '.' :: column'.toList := by
    have hlist := congrArg String.toList h
    simp only [columnText, String.toList_append, List.append_assoc] at hlist
    exact hlist
  obtain ⟨halias, hcolumn⟩ := Text.append_mark_inj (hpoint table) (hpoint table') hchars
  simp only [tableAlias, Text.ofNat, String.toList_append, String.toList_ofList] at halias
  exact ⟨Text.digitChars_injective (List.append_cancel_left halias), String.toList_inj.1 hcolumn⟩

/-! ## §2. Rooted tables. -/

namespace Tables

/-- **Rooted tables**: each is joined through a reference of a table before it, and each through
a column of its own. -/
structure Rooted (t : Tables) : Prop where
  /-- The join at a position stands behind its parent, and its column is that of a reference of
  the card there. -/
  parent : ∀ (i : Nat) (j : Join), t.joins[i]? = some j →
    j.parent ≤ i ∧ ∃ card r, t.cardAt? j.parent = some card ∧ r ∈ card.references
      ∧ r.column = j.column
  distinct : (t.joins.map fun j => (j.parent, j.column)).Nodup

theorem rooted_root (card : SoundCard) : Rooted ⟨card, []⟩ := by
  refine ⟨?_, List.nodup_nil⟩
  intro i j h
  cases h

/-- The position of a table that is there. -/
theorem le_of_cardAt? {t : Tables} {position : Nat} {card : SoundCard}
    (h : t.cardAt? position = some card) : position ≤ t.joins.length := by
  cases position with
  | zero => exact Nat.zero_le _
  | succ n =>
    obtain ⟨j, hj, _⟩ := Option.map_eq_some_iff.1 h
    exact (List.getElem?_eq_some_iff.1 hj).1

/-- **A join keeps tables rooted.** -/
theorem Rooted.push {t : Tables} (h : t.Rooted) {position : Nat} {card : SoundCard}
    (target : SoundCard) {r : Reference} (hcard : t.cardAt? position = some card)
    (hr : r ∈ card.references) (hnew : t.find? position r.column = none) :
    (t.push ⟨position, r.column, target⟩).Rooted := by
  constructor
  · intro i j hj
    rcases getElem?_joins_push hj with hj | ⟨rfl, rfl⟩
    -- the tables that were there stay where they were
    · obtain ⟨hle, card', r', hcard', hr', hcolumn⟩ := h.parent i j hj
      exact ⟨hle, card', r', cardAt?_push hcard' _, hr', hcolumn⟩
    · exact ⟨le_of_cardAt? hcard, card, r, cardAt?_push hcard _, hr, rfl⟩
  · have hjoins : (t.push ⟨position, r.column, target⟩).joins
        = t.joins ++ [⟨position, r.column, target⟩] := rfl
    rw [hjoins, List.map_append, List.nodup_append]
    refine ⟨h.distinct, List.nodup_singleton _, ?_⟩
    intro p hp q hq hpq
    obtain ⟨j, hj, rfl⟩ := List.mem_map.1 hp
    rw [List.mem_singleton.1 hq] at hpq
    rw [Prod.mk.injEq] at hpq
    exact find?_eq_none_iff.1 hnew j hj hpq

theorem Grows.rooted {t t' : Tables} (h : Grows t t') (ht : t.Rooted) : t'.Rooted :=
  h.keeps (fun _ _ _ target _ hcard hr hnew ht => ht.push target hcard hr hnew) ht

/-! ## §3. The list of the tables. -/

/-- **A list of tables that is well formed**: the root, then tables each of which is joined
through a reference column of a table in front of it. -/
structure WellListed (tables : List (String × SoundCard × Option String)) : Prop where
  /-- Aliases are positional. -/
  named : ∀ (i : Nat) entry, tables[i]? = some entry → entry.1 = "T" ++ Text.ofNat i
  /-- The first table alone is not joined through a reference. -/
  first : ∀ (i : Nat) entry, tables[i]? = some entry → (entry.2.2 = none ↔ i = 0)
  /-- All others are joined through a reference of a table before them. -/
  reference : ∀ (i : Nat) entry via, tables[i]? = some entry → entry.2.2 = some via →
    ∃ (j : Nat) (earlier : String × SoundCard × Option String) (r : Reference),
      j < i ∧ tables[j]? = some earlier ∧ r ∈ earlier.2.1.references
        ∧ via = earlier.1 ++ "." ++ r.column
  /-- No reference joins two tables. -/
  distinct : (tables.filterMap fun entry => entry.2.2).Nodup

/-- The entry of a join in the list of the tables. -/
def entry (position : Nat) (j : Join) : String × SoundCard × Option String :=
  (tableAlias position, j.card, some (columnText j.parent j.column))

theorem listing_eq (t : Tables) :
    t.listing = (tableAlias 0, t.root, none) :: t.joins.mapIdx fun i => entry (i + 1) := rfl

theorem getElem?_listing_succ (t : Tables) (i : Nat) :
    t.listing[i + 1]? = t.joins[i]?.map (entry (i + 1)) := by
  rw [listing_eq, List.getElem?_cons_succ, List.getElem?_mapIdx]

/-- A table that is there is listed with its alias. -/
theorem exists_listing_of_cardAt? {t : Tables} {position : Nat} {card : SoundCard}
    (h : t.cardAt? position = some card) :
    ∃ via, t.listing[position]? = some (tableAlias position, card, via) := by
  cases position with
  | zero =>
    obtain rfl : t.root = card := Option.some.inj h
    exact ⟨none, rfl⟩
  | succ n =>
    obtain ⟨j, hj, rfl⟩ := Option.map_eq_some_iff.1 h
    exact ⟨some (columnText j.parent j.column), by rw [getElem?_listing_succ, hj]; rfl⟩

/-- The columns that tables are joined through, in order. -/
theorem filterMap_mapIdx_entry : ∀ (joins : List Join) (position : Nat),
    ((joins.mapIdx fun i => entry (i + position)).filterMap fun entry => entry.2.2)
      = joins.map fun j => columnText j.parent j.column := by
  intro joins
  induction joins with
  | nil =>
    intro position
    rfl
  | cons j joins ih =>
    intro position
    have hvia : (entry (0 + position) j).2.2 = some (columnText j.parent j.column) := rfl
    simp only [List.mapIdx_cons, List.filterMap_cons, hvia, List.map_cons, Nat.add_assoc]
    rw [ih (1 + position)]

/-- A list of rooted tables is well formed. -/
theorem Rooted.wellListed {t : Tables} (h : t.Rooted) : WellListed t.listing := by
  constructor
  · intro i entry hentry
    cases i with
    | zero =>
      rw [← Option.some.inj hentry]
      rfl
    | succ i =>
      rw [getElem?_listing_succ] at hentry
      obtain ⟨j, _, rfl⟩ := Option.map_eq_some_iff.1 hentry
      rfl
  · intro i entry hentry
    cases i with
    | zero =>
      rw [← Option.some.inj hentry]
      exact ⟨fun _ => rfl, fun _ => rfl⟩
    | succ i =>
      rw [getElem?_listing_succ] at hentry
      obtain ⟨j, _, rfl⟩ := Option.map_eq_some_iff.1 hentry
      exact ⟨nofun, nofun⟩
  · intro i entry via hentry hvia
    cases i with
    | zero =>
      rw [← Option.some.inj hentry] at hvia
      cases hvia
    | succ i =>
      rw [getElem?_listing_succ] at hentry
      obtain ⟨j, hj, rfl⟩ := Option.map_eq_some_iff.1 hentry
      obtain ⟨hle, card, r, hcard, hr, hcolumn⟩ := h.parent i j hj
      obtain ⟨via', hlisted⟩ := exists_listing_of_cardAt? hcard
      refine ⟨j.parent, _, r, Nat.lt_succ_of_le hle, hlisted, hr, ?_⟩
      rw [← Option.some.inj hvia, hcolumn]
      rfl
  · have hlisting : (t.listing.filterMap fun entry => entry.2.2)
        = t.joins.map fun j => columnText j.parent j.column := by
      rw [listing_eq, List.filterMap_cons_none rfl, filterMap_mapIdx_entry]
    have hpairs : t.joins.map (fun j => columnText j.parent j.column)
        = (t.joins.map fun j => (j.parent, j.column)).map fun p => columnText p.1 p.2 := by
      rw [List.map_map]
      rfl
    rw [hlisting, hpairs]
    refine List.Nodup.map ?_ h.distinct
    intro p q hpq
    exact Prod.ext (columnText_inj hpq).1 (columnText_inj hpq).2

/-! ## §4. Text. -/

/-- One table as it stands in the `FROM` clause. -/
def clause : String × SoundCard × Option String → String
  | (name, card, none) => card.table ++ " " ++ name
  | (name, card, some via) =>
    " LEFT JOIN " ++ card.table ++ " " ++ name ++ " ON " ++ via ++ "=" ++ name ++ "." ++ idPath

theorem joinClauses_cons (position : Nat) (j : Join) (joins : List Join) :
    joinClauses position (j :: joins)
      = clause (entry position j) ++ joinClauses (position + 1) joins := by
  show " LEFT JOIN " ++ j.card.table ++ " " ++ tableAlias position ++ " ON "
      ++ columnText j.parent j.column ++ "=" ++ columnText position idPath
      ++ joinClauses (position + 1) joins
    = " LEFT JOIN " ++ j.card.table ++ " " ++ tableAlias position ++ " ON "
      ++ columnText j.parent j.column ++ "=" ++ tableAlias position ++ "." ++ idPath
      ++ joinClauses (position + 1) joins
  simp only [columnText, String.append_assoc]

theorem joinClauses_eq : ∀ (joins : List Join) (position : Nat), joinClauses position joins
    = String.join ((joins.mapIdx fun i => entry (i + position)).map clause) := by
  intro joins
  induction joins with
  | nil =>
    intro position
    rfl
  | cons j joins ih =>
    intro position
    rw [joinClauses_cons, ih, List.mapIdx_cons, List.map_cons, String.join_cons, Nat.zero_add]
    simp only [Nat.add_assoc, Nat.add_comm 1 position]

/-- **The tables stand in the statement** one after another. -/
theorem text_eq_join (t : Tables) : t.text = String.join (t.listing.map clause) := by
  rw [text, joinClauses_eq, listing_eq, List.map_cons, String.join_cons]
  rfl

/-! ## §5. Compiled queries. -/

/-- A column that is written with the alias of one of the tables. -/
def Qualifies (t : Tables) (column : String) : Prop :=
  ∃ entry ∈ t.listing, ∃ name, Sql.isIdentifier name = true ∧ column = entry.1 ++ "." ++ name

theorem Holds.qualifies {t : Tables} {ref : ColumnRef} (h : t.Holds ref) :
    t.Qualifies ref.toColumn.text := by
  have hname := h.isIdentifier
  obtain ⟨card, _, _, hcard, _, _⟩ := h
  obtain ⟨via, hlisted⟩ := exists_listing_of_cardAt? hcard
  exact ⟨_, List.mem_of_getElem? hlisted, ref.column, hname, rfl⟩

end Tables

/-- **A query is well scoped**: its tables are well listed, and its columns are those of tables
that are listed. -/
structure CompiledQuery.WellScoped (q : CompiledQuery) : Prop where
  /-- A table is joined through a table before it, so what stands on the left of a join condition
  names an alias that has been introduced. -/
  tables : Tables.WellListed q.tables.listing
  selected : ∀ column ∈ q.select.columns, q.tables.Qualifies column
  condition : ∀ p, q.select.condition = some p → ∀ leaf ∈ p.leaves,
    ∃ column, leaf.column? = some column ∧ q.tables.Qualifies column
  order : ∀ key ∈ q.select.order, q.tables.Qualifies key.1
  /-- The list of the tables is what stands behind `FROM`, and each of them is joined by its
  identifier. -/
  text : ∀ d, q.text d = "SELECT " ++ Text.joined "," (Sql.Select.columnTexts q.select.columns)
    ++ " FROM " ++ String.join (q.tables.listing.map Tables.clause)
    ++ q.select.conditionText d ++ q.select.tail d

namespace Query

/-- **What is composed** from paths that lead to members of rooted tables is well scoped. -/
theorem Resolved.Scoped.wellScoped {card : SoundCard} {r : Resolved} (h : r.Scoped card)
    {options : QueryOptions} {q : CompiledQuery} (hq : r.assemble options = .ok q) :
    q.WellScoped := by
  obtain ⟨condition, order, hcondition, horder, rfl⟩ := assemble_eq_ok_iff.1 hq
  have hqualifies (path : String) (column : Column) (hcolumn : r.columns.get path = .ok column) :
      r.tables.Qualifies column.text := by
    obtain ⟨ref, href, rfl⟩ := h.columns path column hcolumn
    exact href.qualifies
  refine ⟨(h.grown.rooted (Tables.rooted_root card)).wellListed, ?_, ?_, ?_, ?_⟩
  · intro column hcolumn
    obtain ⟨ref, href, rfl⟩ := List.mem_map.1 hcolumn
    exact (h.selected ref href).qualifies
  · intro p hp leaf hleaf
    obtain ⟨path, column, hcolumn, hleaf⟩ := Filter.exists_column_of_leaf hcondition hp hleaf
    exact ⟨column.text, hleaf, hqualifies path column hcolumn⟩
  · intro key hkey
    obtain ⟨path, column, hcolumn, hkey⟩ := exists_column_of_orderColumns horder key hkey
    rw [hkey]
    exact hqualifies path column hcolumn
  · intro d
    show Sql.Select.head _ ++ _ ++ _ = _
    rw [Sql.Select.head, Tables.text_eq_join]
    rfl

variable {σ : Type}

/-- **Every compiled query is well scoped**, whatever cards the store answers on the way. -/
theorem wellScoped_of_run_compile (b : Backend σ) (c c' : Context σ) (card : SoundCard)
    (model : List String) (options : QueryOptions) (q : CompiledQuery)
    (h : (Cards.withLoads b (compile card model options)).run c = (.ok q, c')) :
    q.WellScoped := by
  obtain ⟨r, hr, hq⟩ := scoped_of_run_compile h
  exact hr.wellScoped hq

end Query

/-! ## §6. People and departments. -/

/-- People belong to departments, which are headed by people. -/
def staffCards : List Card :=
  [((Card.ofTable "person" "STAFF").withField "name" "MC" "Text").withReference
      "department" "DEPT_ID" "department",
    ((Card.ofTable "department" "DEPT").withField "name" "MC" "Text").withReference
      "head" "HEAD_ID" "person"]

def personCard : SoundCard :=
  ⟨((Card.ofTable "person" "STAFF").withField "name" "MC" "Text").withReference
    "department" "DEPT_ID" "department", by decide +kernel⟩

/-- The people of the departments that are headed by someone of a name, by their department. -/
def headedBy (name : String) : QueryOptions :=
  { QueryOptions.unrestricted with
    filter := some (.group .and [.triple ⟨"department.head.name", "=", .string name⟩])
    order := [("department.name", .ascending)] }

/-- The head's own department is joined behind the head, although it may be the first one. -/
theorem wellScoped_headedBy :
    ∃ q c', (Cards.withLoads .unreachable (Query.compile personCard
        ["name", "department.head.department.name"] (headedBy "Li"))).run
          { Context.ofBackend () default with cards := .ofSource (.ofCards staffCards) }
            = (.ok q, c')
      ∧ q.tables.listing.length = 4 ∧ q.WellScoped := by
  have hok : (((Cards.withLoads .unreachable (Query.compile personCard
      ["name", "department.head.department.name"] (headedBy "Li"))).run
        { Context.ofBackend () default with
          cards := .ofSource (.ofCards staffCards) }).1.toOption.map
            fun q => q.tables.listing.length) = some 4 := by decide +kernel
  cases hrun : (Cards.withLoads .unreachable (Query.compile personCard
      ["name", "department.head.department.name"] (headedBy "Li"))).run
        { Context.ofBackend () default with cards := .ofSource (.ofCards staffCards) } with
  | mk answer c' =>
    rw [hrun] at hok
    cases answer with
    | error e => cases hok
    | ok q =>
      exact ⟨q, c', rfl, Option.some.inj hok,
        Query.wellScoped_of_run_compile .unreachable _ c' personCard _ (headedBy "Li") q hrun⟩

end CardStore
