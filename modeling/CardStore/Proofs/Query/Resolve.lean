/-
  CardStore.Proofs.Query.Resolve
  ──────────────────────────────
  **THE COLUMNS THAT PATHS LEAD TO.**

  All that resolving does to the tables of a query is to join further ones,
  each through a reference of a table that is there already.  What holds of
  the root table and survives a join holds of the tables of every query, and
  a column that a path leads to is that of a member of one of them.

  Only sound cards are walked over, so every such column is a plain
  identifier, whatever the cards are that the look-ups answer.

  Main statements:
    * `Tables.walk_yields` — a walk joins tables and leads to a member of one of them.
    * `Tables.Grows.keeps` — what survives a join survives resolving.
    * `Query.resolveAll_yields` — where all paths of a query lead.
-/
import CardStore.Proofs.Filter.Compile
import CardStore.Query.Compile

namespace CardStore

/-! ## §1. Members. -/

/-- A name that is a reference on a card is one of the references of the card. -/
theorem Card.mem_references_of_member? {card : Card} {name : String} {r : Reference}
    (h : card.member? name = some (.reference r)) : r ∈ card.references := by
  rw [member?] at h
  split at h
  · cases h
  · split at h
    · cases h
    · obtain ⟨r', hr', h⟩ := Option.map_eq_some_iff.1 h
      rw [← Member.reference.inj h]
      exact List.mem_of_find?_eq_some hr'

/-- The column of a member of a sound card is an identifier. -/
theorem SoundCard.isIdentifier_member (card : SoundCard) {name : String} {m : Member}
    (h : card.member? name = some m) : Sql.isIdentifier m.column.1 = true := by
  cases m with
  | identifier =>
    show Sql.isIdentifier idPath = true
    decide
  | field f =>
    rw [Card.member?] at h
    split at h
    · cases h
    · split at h
      · rename_i f' hf
        rw [Option.some.injEq, Member.field.injEq] at h
        rw [← h]
        exact card.isIdentifier_field (List.mem_of_find?_eq_some hf)
      · obtain ⟨r, _, hr⟩ := Option.map_eq_some_iff.1 h
        cases hr
  | reference r => exact card.isIdentifier_reference (Card.mem_references_of_member? h)

/-! ## §2. Tables that are joined. -/

namespace Tables

theorem length_joins_push (t : Tables) (j : Join) : (t.push j).joins.length = t.size :=
  List.length_append

theorem cardAt?_push_size (t : Tables) (j : Join) : (t.push j).cardAt? t.size = some j.card := by
  show (t.joins ++ [j])[t.joins.length]?.map _ = _
  rw [List.getElem?_concat_length]
  rfl

theorem cardAt?_push {t : Tables} {position : Nat} {card : SoundCard}
    (h : t.cardAt? position = some card) (j : Join) :
    (t.push j).cardAt? position = some card := by
  cases position with
  | zero => exact h
  | succ n =>
    obtain ⟨k, hk, rfl⟩ := Option.map_eq_some_iff.1 h
    show (t.joins ++ [j])[n]?.map _ = _
    rw [List.getElem?_append_left (List.getElem?_eq_some_iff.1 hk).1, hk]
    rfl

/-- The joins of tables, one of which was joined last. -/
theorem getElem?_joins_push {t : Tables} {j k : Join} {i : Nat}
    (h : (t.push j).joins[i]? = some k) :
    t.joins[i]? = some k ∨ i = t.joins.length ∧ k = j := by
  have h : (t.joins ++ [j])[i]? = some k := h
  rcases Nat.lt_or_ge i t.joins.length with hi | hi
  · rw [List.getElem?_append_left hi] at h
    exact .inl h
  · rw [List.getElem?_append_right hi, List.getElem?_singleton] at h
    split at h
    · exact .inr ⟨by omega, (Option.some.inj h).symm⟩
    · cases h

/-- The cards of tables, one of which was joined last. -/
theorem cardAt?_push_eq_some {t : Tables} {j : Join} {position : Nat} {card : SoundCard}
    (h : (t.push j).cardAt? position = some card) :
    t.cardAt? position = some card ∨ card = j.card := by
  cases position with
  | zero => exact .inl h
  | succ n =>
    obtain ⟨k, hk, rfl⟩ := Option.map_eq_some_iff.1 h
    rcases getElem?_joins_push hk with hk | ⟨_, rfl⟩
    · refine .inl ?_
      show t.joins[n]?.map _ = _
      rw [hk]
      rfl
    · exact .inr rfl

theorem getElem?_of_findFrom? {parent : Nat} {column : String} {next : Nat} {card : SoundCard} :
    ∀ {joins : List Join} {position : Nat},
      findFrom? parent column position joins = some (next, card) →
        ∃ i, next = position + i ∧ joins[i]? = some ⟨parent, column, card⟩ := by
  intro joins
  induction joins with
  | nil =>
    intro position h
    cases h
  | cons j joins ih =>
    intro position h
    rw [findFrom?] at h
    split at h
    · rename_i hj
      rw [Option.some.injEq, Prod.mk.injEq] at h
      obtain ⟨rfl, rfl⟩ := h
      obtain ⟨rfl, rfl⟩ := hj
      exact ⟨0, rfl, rfl⟩
    · obtain ⟨i, hnext, hi⟩ := ih h
      exact ⟨i + 1, by omega, hi⟩

/-- The join that is found, behind the root. -/
theorem exists_join_of_find? {t : Tables} {parent next : Nat} {column : String} {card : SoundCard}
    (h : t.find? parent column = some (next, card)) :
    ∃ i, next = i + 1 ∧ t.joins[i]? = some ⟨parent, column, card⟩ := by
  obtain ⟨i, rfl, hi⟩ := getElem?_of_findFrom? h
  exact ⟨i, Nat.add_comm 1 i, hi⟩

/-- The join that is found stands at the position it is found at. -/
theorem cardAt?_of_find? {t : Tables} {parent next : Nat} {column : String} {card : SoundCard}
    (h : t.find? parent column = some (next, card)) : t.cardAt? next = some card := by
  obtain ⟨i, rfl, hi⟩ := exists_join_of_find? h
  show t.joins[i]?.map _ = _
  rw [hi]
  rfl

theorem findFrom?_eq_none_iff {parent : Nat} {column : String} :
    ∀ {joins : List Join} {position : Nat}, findFrom? parent column position joins = none ↔
      ∀ j ∈ joins, ¬ (j.parent = parent ∧ j.column = column) := by
  intro joins
  induction joins with
  | nil =>
    intro position
    exact ⟨fun _ j hj => absurd hj List.not_mem_nil, fun _ => rfl⟩
  | cons j joins ih =>
    intro position
    rw [findFrom?, List.forall_mem_cons]
    split
    · rename_i hj
      exact ⟨nofun, fun h => absurd hj h.1⟩
    · rename_i hj
      rw [ih]
      exact ⟨fun h => ⟨hj, h⟩, fun h => h.2⟩

/-- No table is joined through a column yet. -/
theorem find?_eq_none_iff {t : Tables} {parent : Nat} {column : String} :
    t.find? parent column = none ↔ ∀ j ∈ t.joins, ¬ (j.parent = parent ∧ j.column = column) :=
  findFrom?_eq_none_iff

/-- **All that resolving does to tables** is to join further ones, each through a reference of the
card at an earlier position, and none through the same column twice. -/
inductive Grows : Tables → Tables → Prop where
  | refl (t : Tables) : Grows t t
  | join {t t' : Tables} {position : Nat} {card target : SoundCard} {r : Reference} :
    t.cardAt? position = some card → r ∈ card.references → t.find? position r.column = none →
    Grows (t.push ⟨position, r.column, target⟩) t' → Grows t t'

namespace Grows

theorem trans {t t' t'' : Tables} (h : Grows t t') (h' : Grows t' t'') : Grows t t'' := by
  induction h with
  | refl t => exact h'
  | join hcard hr hnew _ ih => exact .join hcard hr hnew (ih h')

/-- **What survives a join** survives resolving. -/
theorem keeps {P : Tables → Prop}
    (push : ∀ (t : Tables) (position : Nat) (card target : SoundCard) (r : Reference),
      t.cardAt? position = some card → r ∈ card.references → t.find? position r.column = none →
        P t → P (t.push ⟨position, r.column, target⟩))
    {t t' : Tables} (h : Grows t t') (ht : P t) : P t' := by
  induction h with
  | refl t => exact ht
  | join hcard hr hnew _ ih => exact ih (push _ _ _ _ _ hcard hr hnew ht)

/-- Every table stays where it is. -/
theorem cardAt? {t t' : Tables} (h : Grows t t') {position : Nat} {card : SoundCard}
    (ht : t.cardAt? position = some card) : t'.cardAt? position = some card :=
  h.keeps (P := fun t => t.cardAt? position = some card)
    (fun _ _ _ _ _ _ _ _ ht => cardAt?_push ht _) ht

end Grows

/-- The column belongs to a member of the card of its table. -/
def Holds (t : Tables) (ref : ColumnRef) : Prop :=
  ∃ card name member, t.cardAt? ref.table = some card ∧ card.member? name = some member
    ∧ member.column = (ref.column, ref.type)

theorem Holds.grows {t t' : Tables} {ref : ColumnRef} (h : t.Holds ref) (ht : Grows t t') :
    t'.Holds ref := by
  obtain ⟨card, name, member, hcard, hmember, hcolumn⟩ := h
  exact ⟨card, name, member, ht.cardAt? hcard, hmember, hcolumn⟩

theorem Holds.isIdentifier {t : Tables} {ref : ColumnRef} (h : t.Holds ref) :
    Sql.isIdentifier ref.column = true := by
  obtain ⟨card, name, member, _, hmember, hcolumn⟩ := h
  have hname := card.isIdentifier_member hmember
  rw [hcolumn] at hname
  exact hname

/-- All tables are joined through columns that are identifiers. -/
def JoinedByIdentifiers (t : Tables) : Prop := ∀ j ∈ t.joins, Sql.isIdentifier j.column = true

theorem JoinedByIdentifiers.push {t : Tables} (h : t.JoinedByIdentifiers) {j : Join}
    (hj : Sql.isIdentifier j.column = true) : (t.push j).JoinedByIdentifiers := by
  intro k hk
  rcases List.mem_append.1 hk with hk | hk
  · exact h k hk
  · rw [List.mem_singleton] at hk
    rw [hk]
    exact hj

theorem Grows.joinedByIdentifiers {t t' : Tables} (h : Grows t t')
    (ht : t.JoinedByIdentifiers) : t'.JoinedByIdentifiers :=
  h.keeps (fun _ _ card _ _ _ hr _ ht => ht.push (card.isIdentifier_reference hr)) ht

/-! ## §3. Walks. -/

/-- **A walk** from a card at its position joins tables, and leads to a member of one of them if
it leads anywhere.  The induction is on the names that are left. -/
theorem walk_yields (path : String) :
    ∀ (names : List String) (position : Nat) (card : SoundCard) (t t' : Tables)
      (answer : Except Error ColumnRef), t.cardAt? position = some card →
      (walk path position card names t).Yields (answer, t') →
      Grows t t' ∧ ∀ ref, answer = .ok ref → t'.Holds ref := by
  intro names
  -- a walk that ends without a column leaves the tables as they are
  have hnowhere (t t' : Tables) (e : Error) (answer : Except Error ColumnRef)
      (h : (.done (.error e, t) : Lookup (Except Error ColumnRef × Tables)).Yields (answer, t')) :
      Grows t t' ∧ ∀ ref, answer = .ok ref → t'.Holds ref := by
    rw [Script.yields_done_iff, Prod.mk.injEq] at h
    obtain ⟨rfl, rfl⟩ := h
    exact ⟨.refl t, nofun⟩
  induction names with
  | nil =>
    intro position card t t' answer _ h
    exact hnowhere _ _ _ _ h
  | cons name rest ih =>
    intro position card t t' answer ht h
    rw [walk] at h
    split at h
    · exact hnowhere _ _ _ _ h
    · rename_i m hm
      split at h
      · rw [Script.yields_done_iff, Prod.mk.injEq] at h
        obtain ⟨rfl, rfl⟩ := h
        refine ⟨.refl t, fun ref href => ?_⟩
        rw [← Except.ok.inj href]
        exact ⟨card, name, m, ht, hm, rfl⟩
      · split at h
        -- the reference has been joined before, or its card is looked up and joined now
        · rename_i r
          split at h
          · rename_i hfound
            exact ih _ _ _ _ _ (cardAt?_of_find? hfound) h
          · rename_i hnew
            cases h with
            | ask found h =>
              cases found with
              | error e => exact hnowhere _ _ _ _ h
              | ok target =>
                have hpushed := cardAt?_push_size t ⟨position, r.column, target⟩
                obtain ⟨hgrows, href⟩ := ih _ _ _ _ _ hpushed h
                exact ⟨.join ht (Card.mem_references_of_member? hm) hnew hgrows, href⟩
        · exact hnowhere _ _ _ _ h

end Tables

/-! ## §4. All paths of a query. -/

/-- A column that a map holds after some paths were mapped is one of those given to them, or was
there before. -/
theorem ColumnMap.exists_pair_of_get_foldl_insert {path : String} {column : Column} :
    ∀ {pairs : List (String × ColumnRef)} {m : ColumnMap},
      (pairs.foldl (fun m (path, column) => m.insert path column.toColumn) m).get path
        = .ok column →
      (∃ p ∈ pairs, p.1 = path ∧ p.2.toColumn = column) ∨ m.get path = .ok column := by
  intro pairs
  induction pairs with
  | nil =>
    intro m h
    exact .inr h
  | cons p pairs ih =>
    intro m h
    rcases ih h with ⟨q, hq, hcolumn⟩ | h
    · exact .inl ⟨q, List.mem_cons_of_mem _ hq, hcolumn⟩
    · rw [ColumnMap.get_insert] at h
      split at h
      · rename_i hpath
        exact .inl ⟨p, List.mem_cons_self, hpath.symm, Except.ok.inj h⟩
      · exact .inr h

/-- Every column of the map belongs to one of the tables. -/
def ColumnMap.Within (columns : ColumnMap) (t : Tables) : Prop :=
  ∀ path column, columns.get path = .ok column → ∃ ref, t.Holds ref ∧ ref.toColumn = column

namespace ColumnMap.Within

theorem empty (card : String) (t : Tables) : (ColumnMap.empty card).Within t := by
  intro path column h
  cases h

theorem grows {columns : ColumnMap} {t t' : Tables} (h : columns.Within t) (ht : t.Grows t') :
    columns.Within t' := by
  intro path column hcolumn
  obtain ⟨ref, href, hcolumn⟩ := h path column hcolumn
  exact ⟨ref, href.grows ht, hcolumn⟩

theorem insert {columns : ColumnMap} {t : Tables} (h : columns.Within t) (path : String)
    {ref : ColumnRef} (href : t.Holds ref) : (columns.insert path ref.toColumn).Within t := by
  intro other found hfound
  rw [ColumnMap.get_insert] at hfound
  by_cases ho : other = path
  · rw [if_pos ho, Except.ok.injEq] at hfound
    exact ⟨ref, href, hfound⟩
  · rw [if_neg ho] at hfound
    exact h other found hfound

/-- The columns of the first paths, given to a map one after another. -/
theorem foldl_insert {t : Tables} {pairs : List (String × ColumnRef)} {columns : ColumnMap}
    (h : columns.Within t) (hp : ∀ p ∈ pairs, t.Holds p.2) :
    (pairs.foldl (fun m (path, column) => m.insert path column.toColumn) columns).Within t := by
  intro path column hcolumn
  rcases ColumnMap.exists_pair_of_get_foldl_insert hcolumn with ⟨p, hmem, _, hcolumn⟩ | hcolumn
  · exact ⟨p.2, hp p hmem, hcolumn⟩
  · exact h path column hcolumn

end ColumnMap.Within

namespace Query

theorem qualified_toColumn {ref : ColumnRef} (h : Sql.isIdentifier ref.column = true) :
    Sql.Qualified ref.toColumn.text := Sql.qualified_columnText ref.table h

/-- A path is resolved by a walk that leads to its column. -/
theorem yields_of_resolve {t t' : Tables} {path : String} {ref : ColumnRef}
    (h : (resolve t path).run.Yields (.ok (ref, t'))) :
    (t.resolve path).Yields (.ok ref, t') := by
  obtain ⟨⟨answer, t''⟩, hw, h⟩ := Script.yields_andThen_iff.1 h
  have hdone := Script.yields_done_iff.1 h
  cases answer with
  | error e => cases hdone
  | ok column =>
    have hpair : (column, t'') = (ref, t') := Except.ok.inj hdone
    rw [Prod.mk.injEq] at hpair
    obtain ⟨rfl, rfl⟩ := hpair
    exact hw

theorem resolve_yields {t t' : Tables} {path : String} {ref : ColumnRef}
    (h : (resolve t path).run.Yields (.ok (ref, t'))) : t.Grows t' ∧ t'.Holds ref := by
  obtain ⟨hgrows, href⟩ := Tables.walk_yields path _ _ _ _ _ _ rfl (yields_of_resolve h)
  exact ⟨hgrows, href _ rfl⟩

theorem resolveModel_yields : ∀ (paths : List String) (columns columns' : List ColumnRef)
    (t t' : Tables), (∀ c ∈ columns, t.Holds c) →
      (resolveModel paths columns t).run.Yields (.ok (columns', t')) →
      t.Grows t' ∧ ∀ c ∈ columns', t'.Holds c := by
  intro paths
  induction paths with
  | nil =>
    intro columns columns' t t' hc h
    have hpair : (columns, t) = (columns', t') := Except.ok.inj (Script.yields_done_iff.1 h)
    rw [Prod.mk.injEq] at hpair
    obtain ⟨rfl, rfl⟩ := hpair
    exact ⟨.refl t, hc⟩
  | cons path paths ih =>
    intro columns columns' t t' hc h
    rw [resolveModel] at h
    obtain ⟨⟨ref, t''⟩, hr, h⟩ := Script.yields_bind_ok_iff.1 h
    obtain ⟨hgrows, href⟩ := resolve_yields hr
    -- the columns so far are columns of the tables that are joined now
    have hsofar : ∀ c ∈ columns ++ [ref], t''.Holds c := by
      intro c hmem
      rcases List.mem_append.1 hmem with hmem | hmem
      · exact (hc c hmem).grows hgrows
      · rw [List.mem_singleton] at hmem
        rw [hmem]
        exact href
    obtain ⟨hrest, hcolumns⟩ := ih _ _ _ _ hsofar h
    exact ⟨hgrows.trans hrest, hcolumns⟩

theorem resolveMore_yields : ∀ (paths : List String) (columns columns' : ColumnMap)
    (t t' : Tables), columns.Within t →
      (resolveMore paths columns t).run.Yields (.ok (columns', t')) →
      t.Grows t' ∧ columns'.Within t' := by
  intro paths
  induction paths with
  | nil =>
    intro columns columns' t t' hc h
    have hpair : (columns, t) = (columns', t') := Except.ok.inj (Script.yields_done_iff.1 h)
    rw [Prod.mk.injEq] at hpair
    obtain ⟨rfl, rfl⟩ := hpair
    exact ⟨.refl t, hc⟩
  | cons path paths ih =>
    intro columns columns' t t' hc h
    rw [resolveMore] at h
    split at h
    -- a path that has a column already is passed over
    · exact ih _ _ _ _ hc h
    · obtain ⟨⟨ref, t''⟩, hr, h⟩ := Script.yields_bind_ok_iff.1 h
      obtain ⟨hgrows, href⟩ := resolve_yields hr
      obtain ⟨hrest, hcolumns⟩ := ih _ _ _ _ ((hc.grows hgrows).insert path href) h
      exact ⟨hgrows.trans hrest, hcolumns⟩

/-- When the paths of a model are resolved, their columns belong to the tables joined by then. -/
theorem resolveModel_yields_within {card : SoundCard} {paths : List String}
    {selected : List ColumnRef} {t : Tables}
    (h : (resolveModel paths [] ⟨card, []⟩).run.Yields (.ok (selected, t))) :
    Tables.Grows ⟨card, []⟩ t ∧ (∀ c ∈ selected, t.Holds c)
      ∧ ((paths.zip selected).foldl (fun m (path, column) => m.insert path column.toColumn)
          (ColumnMap.empty card.name)).Within t := by
  obtain ⟨ht, hselected⟩ := resolveModel_yields _ _ _ _ _
    (fun c hc => absurd hc List.not_mem_nil) h
  refine ⟨ht, hselected, ColumnMap.Within.foldl_insert (ColumnMap.Within.empty _ _) ?_⟩
  intro p hp
  exact hselected p.2 (List.of_mem_zip hp).2

/-- What resolved paths hold that start from a card. -/
structure Resolved.Scoped (card : SoundCard) (r : Resolved) : Prop where
  grown : Tables.Grows ⟨card, []⟩ r.tables
  selected : ∀ c ∈ r.selected, r.tables.Holds c
  columns : r.columns.Within r.tables

/-- **All paths of a query** lead to members of its tables, whatever cards the look-ups answer. -/
theorem resolveAll_yields {card : SoundCard} {model paths : List String} {r : Resolved}
    (h : (resolveAll card model paths).run.Yields (.ok r)) : r.Scoped card := by
  rw [resolveAll] at h
  obtain ⟨⟨selected, t⟩, hmodel, h⟩ := Script.yields_bind_ok_iff.1 h
  obtain ⟨⟨columns, t'⟩, hmore, h⟩ := Script.yields_bind_ok_iff.1 h
  obtain ⟨ht, hselected, hwithin⟩ := resolveModel_yields_within hmodel
  obtain ⟨ht', hcolumns⟩ := resolveMore_yields _ _ _ _ _ hwithin hmore
  obtain rfl := Except.ok.inj (Script.yields_done_iff.1 h)
  exact ⟨ht.trans ht', fun c hc => (hselected c hc).grows ht', hcolumns⟩

/-- What resolved paths hold that lead to identifiers only. -/
structure Resolved.Named (r : Resolved) : Prop where
  selected : ∀ c ∈ r.selected, Sql.isIdentifier c.column = true
  columns : r.columns.IsQualified
  joins : r.tables.JoinedByIdentifiers

theorem Resolved.Scoped.named {card : SoundCard} {r : Resolved} (h : r.Scoped card) :
    r.Named := by
  refine ⟨fun c hc => (h.selected c hc).isIdentifier, ?_, ?_⟩
  · intro path column hcolumn
    obtain ⟨ref, href, rfl⟩ := h.columns path column hcolumn
    exact qualified_toColumn href.isIdentifier
  · exact h.grown.joinedByIdentifiers fun j hj => absurd hj List.not_mem_nil

end Query

end CardStore
