/-
  CardStore.Proofs.Sql.Select
  ───────────────────────────
  **HOW THE TEXT OF A SELECTION IS READ.**

  Around the condition of a selection there is nothing that a reader or a
  renderer would stop at: names, keywords and numbers only.

  Main statements:
    * `Select.clean` — the text of a selection is read as its pieces.
    * `Select.strewn` — the leaves of its condition lie in them, with no slot between them.
-/
import CardStore.Proofs.Sql.Predicate
import CardStore.Proofs.Query.Resolve
import CardStore.Sql.Select

namespace CardStore

open Sql (Inert Piece Predicate)
open Sql.Piece (chars slotCount)

/-! ## §1. The tables. -/

namespace Tables

theorem inert_alias (n : Nat) : Inert (tableAlias n) := (Sql.isWord_tableAlias n).inert

theorem inert_table (card : SoundCard) : Inert card.table :=
  (Sql.isWord_of_isIdentifier card.isIdentifier_table).inert

theorem inert_joinClauses : ∀ (joins : List Join) (position : Nat),
    (∀ j ∈ joins, Sql.isIdentifier j.column = true) → Inert (joinClauses position joins) := by
  intro joins
  induction joins with
  | nil =>
    intro position _
    show Inert ""
    decide
  | cons j joins ih =>
    intro position h
    -- a clause is made of two columns, an alias, a table and words
    have hparent := (Sql.qualified_columnText j.parent (h j List.mem_cons_self)).inert
    have hid : Inert (columnText position idPath) :=
      (Sql.qualified_columnText position (by decide)).inert
    have hrest := ih (position + 1) fun k hk => h k (List.mem_cons_of_mem _ hk)
    show Inert (" LEFT JOIN " ++ j.card.table ++ " " ++ tableAlias position ++ " ON "
      ++ columnText j.parent j.column ++ "=" ++ columnText position idPath
      ++ joinClauses (position + 1) joins)
    refine Inert.append ?_ hrest
    refine Inert.append ?_ hid
    refine Inert.append ?_ (by decide)
    refine Inert.append ?_ hparent
    refine Inert.append ?_ (by decide)
    refine Inert.append ?_ (inert_alias position)
    refine Inert.append ?_ (by decide)
    exact Inert.append (by decide) (inert_table j.card)

theorem JoinedByIdentifiers.inert {t : Tables} (h : t.JoinedByIdentifiers) : Inert t.text := by
  rw [text]
  refine Inert.append ?_ (inert_joinClauses _ _ h)
  refine Inert.append ?_ (inert_alias 0)
  exact Inert.append (inert_table t.root) (by decide)

end Tables

namespace Sql

theorem Dialect.inert_limitClause (d : Dialect) (limit offset : Option Nat) :
    Inert (d.limitClause limit offset) := by
  cases d with
  | mysql =>
    cases limit with
    | none =>
      cases offset with
      | none =>
        show Inert ""
        decide
      | some o =>
        show Inert (" LIMIT " ++ Text.ofNat o ++ "," ++ Text.ofNat offsetLimit)
        refine Inert.append ?_ (inert_ofNat _)
        refine Inert.append ?_ (by decide)
        exact Inert.append (by decide) (inert_ofNat o)
    | some l =>
      cases offset with
      | none =>
        show Inert (" LIMIT " ++ Text.ofNat l)
        exact Inert.append (by decide) (inert_ofNat l)
      | some o =>
        show Inert (" LIMIT " ++ Text.ofNat o ++ "," ++ Text.ofNat l)
        refine Inert.append ?_ (inert_ofNat l)
        refine Inert.append ?_ (by decide)
        exact Inert.append (by decide) (inert_ofNat o)
  | oracle =>
    cases limit with
    | none =>
      cases offset with
      | none =>
        show Inert ""
        decide
      | some o =>
        show Inert (" OFFSET " ++ Text.ofNat o ++ " ROWS")
        refine Inert.append ?_ (by decide)
        exact Inert.append (by decide) (inert_ofNat o)
    | some l =>
      cases offset with
      | none =>
        show Inert (" OFFSET 0 ROWS FETCH NEXT " ++ Text.ofNat l ++ " ROWS ONLY")
        refine Inert.append ?_ (by decide)
        exact Inert.append (by decide) (inert_ofNat l)
      | some o =>
        show Inert (" OFFSET " ++ Text.ofNat o ++ " ROWS FETCH NEXT " ++ Text.ofNat l
          ++ " ROWS ONLY")
        refine Inert.append ?_ (by decide)
        refine Inert.append ?_ (inert_ofNat l)
        refine Inert.append ?_ (by decide)
        exact Inert.append (by decide) (inert_ofNat o)

namespace Select

/-! ## §2. The pieces of a selection. -/

/-- The pieces of the text. -/
def pieces (d : Dialect) (s : Select) : List Piece :=
  chars s.head.toList
    ++ (match s.condition with
      | some p => chars " WHERE ".toList ++ p.pieces d
      | none => [])
    ++ chars (s.tail d).toList

/-! ## §3. How the text is read. -/

/-- A selection of identifiers under a formed condition. -/
structure Named (s : Select) : Prop where
  columns : ∀ c ∈ s.columns, Qualified c
  tables : s.tables.JoinedByIdentifiers
  condition : ∀ p ∈ s.condition, Predicate.Formed .group p
  order : ∀ key ∈ s.order, Qualified key.1

theorem Named.inert_head {s : Select} (h : s.Named) : Inert s.head := by
  rw [head]
  refine Inert.append ?_ h.tables.inert
  refine Inert.append ?_ (by decide)
  apply Inert.append (by decide)
  apply Inert.joined (by decide)
  intro t ht
  rw [columnTexts, List.mem_mapIdx] at ht
  obtain ⟨i, hi, rfl⟩ := ht
  refine Inert.append ?_ (isWord_append_ofNat (by decide) i).inert
  exact (h.columns _ (List.getElem_mem hi)).inert.append (by decide)

theorem Named.inert_tail {s : Select} (h : s.Named) (d : Dialect) : Inert (s.tail d) := by
  rw [tail]
  apply Inert.append
  · rw [orderText]
    split
    · decide
    · apply Inert.append (by decide)
      apply Inert.joined (by decide)
      intro t ht
      obtain ⟨key, hkey, rfl⟩ := List.mem_map.1 ht
      apply Inert.append ((h.order key hkey).inert.append (by decide))
      cases key.2 <;> decide
  · split
    · exact d.inert_limitClause _ _
    · decide

/-- **The text of a selection** is read as its pieces. -/
theorem Named.clean {d r : Dialect} (hr : d.ReadableBy r) {s : Select} (h : s.Named) :
    r.Clean (s.text d).toList (s.pieces d) := by
  rw [text, String.toList_append, String.toList_append]
  apply Dialect.Clean.append _ (.plain (h.inert_tail d).plain)
  apply Dialect.Clean.append (.plain h.inert_head.plain)
  rw [conditionText]
  cases hc : s.condition with
  | none => exact .nil
  | some p =>
    show r.Clean (" WHERE " ++ p.text d).toList _
    rw [String.toList_append]
    exact Dialect.Clean.append (.plain (by decide)) ((h.condition p hc).clean hr)

/-- **The leaves of the condition** lie in the text from left to right, and between them there
are no slots. -/
theorem Named.strewn {s : Select} (h : s.Named) (d : Dialect) :
    Predicate.Strewn d (s.condition.toList.flatMap Predicate.leaves) (s.pieces d) := by
  have hhead := Piece.slotCount_chars_eq_zero h.inert_head.slot_not_mem
  have htail := Piece.slotCount_chars_eq_zero (h.inert_tail d).slot_not_mem
  rw [pieces]
  apply Predicate.Strewn.append_glue _ htail
  apply Predicate.Strewn.glue_append hhead
  cases hc : s.condition with
  | none => exact .glue rfl
  | some p =>
    show Predicate.Strewn d (p.leaves ++ []) _
    rw [List.append_nil]
    exact ((h.condition p hc).strewn d).glue_append (by decide)

end Select

end Sql

end CardStore
