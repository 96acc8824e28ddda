/-
  CardStore.Proofs.Filter.Alike
  ─────────────────────────────
  **FILTERS THAT DIFFER IN DATA.**

  Two filters are alike if they differ in nothing but operands, and in these
  only as far as the form of a statement may not depend on them: a list keeps
  its length, a range its two bounds, a test its truth.  Alike filters compile
  to predicates with the same text but for what stands in literals, or fail
  with the same error.

  Main statements:
    * `Triple.agree_predicate` — alike triples compile alike.
    * `Filter.agree_predicate` — so do alike filters.
-/
import CardStore.Proofs.Filter.Compile

namespace CardStore

open Sql (Dialect Predicate)

/-! ## §1. Texts but for their literals. -/

/-- A piece without what stands between its quotes. -/
def Sql.Piece.blank : Sql.Piece → Sql.Piece
  | .char c => .char c
  | .literal _ => .literal []

/-- The text of a statement with nothing in its literals, which are found by the rules of a
dialect. -/
def Sql.Dialect.blanked? (d : Dialect) (sql : String) : Option String :=
  (d.read? sql).map fun ps => String.ofList ((ps.map Sql.Piece.blank).flatMap Sql.Piece.source)

/-- Two predicates have the same pieces but for what stands in literals. -/
def Sql.Predicate.Alike (p q : Predicate) : Prop :=
  ∀ d : Dialect, (p.pieces d).map Sql.Piece.blank = (q.pieces d).map Sql.Piece.blank

theorem Sql.Predicate.Alike.parens {p q : Predicate} (h : p.Alike q) :
    (Predicate.parens p).Alike (.parens q) := by
  intro d
  simp only [Predicate.pieces, List.map_append, List.map_cons, h d]

theorem map_intercalate {α β : Type} (f : α → β) (separator : List α) (parts : List (List α)) :
    (separator.intercalate parts).map f
      = (separator.map f).intercalate (parts.map (List.map f)) := by
  induction parts with
  | nil => rfl
  | cons part parts ih =>
    cases parts with
    | nil => simp
    | cons part' parts =>
      rw [List.intercalate_cons_cons, List.map_append, List.map_append, ih]
      simp

theorem Sql.Predicate.Alike.joined {ps qs : List Predicate}
    (h : List.Forall₂ Predicate.Alike ps qs) (logic : Logic) :
    (Predicate.joined logic ps).Alike (.joined logic qs) := by
  intro d
  have hparts : (ps.map (Predicate.pieces d)).map (List.map Sql.Piece.blank)
      = (qs.map (Predicate.pieces d)).map (List.map Sql.Piece.blank) := by
    induction h with
    | nil => rfl
    | cons hpq _ ih =>
      simp only [List.map_cons, List.cons.injEq]
      exact ⟨hpq d, ih⟩
  rw [Predicate.pieces, Predicate.pieces, Predicate.piecesAll_eq_map, Predicate.piecesAll_eq_map,
    map_intercalate, map_intercalate, hparts]

/-! ## §2. Triples. -/

/-- Two triples that differ in data only: operands of lists and ranges have the same number of
elements, and those of tests the same truth. -/
structure Triple.Alike (t u : Triple) : Prop where
  path : t.path = u.path
  operator : t.operator = u.operator
  is : Operator.parse? t.operator = some .is → t.operand.isTruthy = u.operand.isTruthy
  isIn : ∀ negated, Operator.parse? t.operator = some (.isIn negated) →
    t.operand.items?.map List.length = u.operand.items?.map List.length
  between : ∀ negated, Operator.parse? t.operator = some (.between negated) →
    t.operand.items?.map List.length = u.operand.items?.map List.length

namespace Triple

/-- A range needs two bounds. -/
theorem predicateOf_between_of_length_ne (t : Triple) (negated : Bool) (column : String)
    {items : List Value} (hitems : t.operand.items? = some items) (h : items.length ≠ 2) :
    t.predicateOf (.between negated) column
      = .error (t.operandError (.between negated) "a two-element array operand") := by
  rw [predicateOf, hitems]
  split
  · rename_i low high heq
    cases heq
    exact absurd rfl h
  · rfl

theorem agree_predicateOf {t u : Triple} (h : t.Alike u) {op : Operator}
    (hop : Operator.parse? t.operator = some op) (column : String) :
    Agree Predicate.Alike (t.predicateOf op column) (u.predicateOf op column) := by
  have herror : ∀ needed, t.operandError op needed = u.operandError op needed := by
    intro needed
    rw [operandError, operandError, h.path]
  cases op with
  | compare c =>
    apply Agree.ok
    intro d
    rfl
  | is =>
    rw [predicateOf, predicateOf, h.is hop]
    apply Agree.ok
    intro d
    rfl
  | isIn negated =>
    have hlength := h.isIn negated hop
    simp only [predicateOf, herror]
    cases ht : t.operand.items? with
    | none =>
      rw [ht] at hlength
      rw [Option.map_eq_none_iff.1 hlength.symm]
      exact .error _
    | some items =>
      rw [ht] at hlength
      obtain ⟨items', hu, hl⟩ := Option.map_eq_some_iff.1 hlength.symm
      rw [hu]
      apply Agree.ok
      intro d
      -- only the number of elements is in the text, and without any the list is a constant
      cases items with
      | nil => rw [List.length_eq_zero_iff.1 hl]
      | cons v vs =>
        obtain ⟨w, ws, rfl⟩ := List.exists_cons_of_length_eq_add_one hl
        rw [Predicate.pieces, Predicate.pieces, hl]
  | like negated =>
    apply Agree.ok
    intro d
    simp only [Predicate.pieces, List.map_append]
    rfl
  | between negated =>
    have hlength := h.between negated hop
    cases ht : t.operand.items? with
    | none =>
      rw [ht] at hlength
      rw [predicateOf, predicateOf, ht, Option.map_eq_none_iff.1 hlength.symm, herror]
      exact .error _
    | some items =>
      rw [ht] at hlength
      obtain ⟨items', hu, hl⟩ := Option.map_eq_some_iff.1 hlength.symm
      -- two bounds on both sides, or an error on both
      by_cases htwo : items.length = 2
      · obtain ⟨low, high, rfl⟩ := List.length_eq_two.1 htwo
        obtain ⟨low', high', rfl⟩ := List.length_eq_two.1 (hl.trans htwo)
        rw [predicateOf, predicateOf, ht, hu]
        apply Agree.ok
        intro d
        rfl
      · have htwo' : items'.length ≠ 2 := fun h => htwo (hl.symm.trans h)
        rw [t.predicateOf_between_of_length_ne negated column ht htwo,
          u.predicateOf_between_of_length_ne negated column hu htwo', herror]
        exact .error _

/-- **Alike triples** compile alike. -/
theorem agree_predicate {t u : Triple} (h : t.Alike u) (columns : ColumnMap) :
    Agree Predicate.Alike (t.predicate columns) (u.predicate columns) := by
  rw [predicate, predicate, parseOperator, parseOperator, ← h.operator, ← h.path]
  cases hop : Operator.parse? t.operator with
  | none => exact .error _
  | some op =>
    show Agree _ (columns.get t.path >>= fun column => t.predicateOf op column.text)
      (columns.get t.path >>= fun column => u.predicateOf op column.text)
    apply Agree.bind (Agree.refl _)
    rintro column _ rfl
    exact agree_predicateOf h hop column.text

end Triple

/-! ## §3. Filters. -/

mutual

/-- Two filters that differ in the data of their triples only. -/
inductive Filter.Alike : Filter → Filter → Prop where
  | groups {gs hs : List (Logic × List Condition)} :
    GroupsAlike gs hs → Filter.Alike (.groups gs) (.groups hs)

/-- So do their groups. -/
inductive GroupsAlike : List (Logic × List Condition) → List (Logic × List Condition) → Prop where
  | nil : GroupsAlike [] []
  | cons {logic : Logic} {cs ds : List Condition} {gs hs : List (Logic × List Condition)} :
    ConditionsAlike cs ds → GroupsAlike gs hs → GroupsAlike ((logic, cs) :: gs) ((logic, ds) :: hs)

/-- So do the members of their groups. -/
inductive ConditionsAlike : List Condition → List Condition → Prop where
  | nil : ConditionsAlike [] []
  | triple {t u : Triple} {cs ds : List Condition} :
    t.Alike u → ConditionsAlike cs ds → ConditionsAlike (.triple t :: cs) (.triple u :: ds)
  | nested {f g : Filter} {cs ds : List Condition} :
    Filter.Alike f g → ConditionsAlike cs ds → ConditionsAlike (.nested f :: cs) (.nested g :: ds)

end

namespace Filter

theorem rel_conjoined {ps qs : List Predicate} (h : List.Forall₂ Predicate.Alike ps qs) :
    Option.Rel Predicate.Alike (conjoined ps) (conjoined qs) := by
  cases h with
  | nil => exact .none
  | cons hpq hrest =>
    cases hrest with
    | nil => exact .some hpq
    | cons hpq' hrest =>
      apply Option.Rel.some
      apply Predicate.Alike.joined
      have hall := List.Forall₂.cons hpq (.cons hpq' hrest)
      rw [List.forall₂_map_left_iff, List.forall₂_map_right_iff]
      exact hall.imp fun p q h => h.parens

/-- Alike filters compile alike, and so do the parts of their nodes and the members of their
groups. -/
theorem agree_predicates (columns : ColumnMap) :
    (∀ f g : Filter, f.Alike g →
      Agree (Option.Rel Predicate.Alike) (f.predicate columns) (g.predicate columns))
    ∧ (∀ gs hs, GroupsAlike gs hs → Agree (List.Forall₂ Predicate.Alike)
      (groupPredicates columns gs) (groupPredicates columns hs))
    ∧ ∀ cs ds, ConditionsAlike cs ds → Agree (List.Forall₂ Predicate.Alike)
      (conditionPredicates columns cs) (conditionPredicates columns ds) := by
  apply predicate.mutual_induct
  case case1 =>
    intro gs ih g h
    cases h with
    | groups hgs =>
      rw [predicate, predicate]
      refine Agree.bind (ih _ hgs) ?_
      intro ps qs hpq
      exact .ok (rel_conjoined hpq)
  case case2 =>
    intro hs h
    cases h with
    | nil => exact .ok .nil
  case case3 =>
    intro logic cs gs ihcs ihgs hs h
    cases h with
    | cons hcs hgs =>
      rw [groupPredicates, groupPredicates]
      refine Agree.bind (ihcs _ hcs) ?_
      intro members members' hmembers
      refine Agree.bind (ihgs _ hgs) ?_
      intro parts parts' hparts
      -- alike groups have members both or neither
      cases hmembers with
      | nil => exact .ok hparts
      | cons hpq hrest => exact .ok (.cons (.joined (.cons hpq hrest) logic) hparts)
  case case4 =>
    intro ds h
    cases h with
    | nil => exact .ok .nil
  case case5 =>
    intro t cs ih ds h
    cases h with
    | triple ht hcs =>
      rw [conditionPredicates, conditionPredicates]
      refine Agree.bind (Triple.agree_predicate ht columns) ?_
      intro p q hpq
      refine Agree.bind (ih _ hcs) ?_
      intro ps qs hrest
      exact .ok (.cons hpq hrest)
  case case6 =>
    intro f cs ihf ihcs ds h
    cases h with
    | nested hf hcs =>
      rw [conditionPredicates, conditionPredicates]
      refine Agree.bind (ihf _ hf) ?_
      intro answer answer' hanswer
      refine Agree.bind (ihcs _ hcs) ?_
      intro ps qs hrest
      -- alike nodes have predicates both or neither
      cases hanswer with
      | none => exact .ok hrest
      | some hpq => exact .ok (.cons hpq.parens hrest)

/-- **Alike filters** compile alike. -/
theorem agree_predicate {f g : Filter} (h : f.Alike g) (columns : ColumnMap) :
    Agree (Option.Rel Predicate.Alike) (f.predicate columns) (g.predicate columns) :=
  (agree_predicates columns).1 f g h

/-- Alike filters name the same paths. -/
theorem paths_eq_of_alikes :
    (∀ f g : Filter, f.Alike g → f.triples.map Triple.path = g.triples.map Triple.path)
    ∧ (∀ gs hs, GroupsAlike gs hs →
      (groupTriples gs).map Triple.path = (groupTriples hs).map Triple.path)
    ∧ ∀ cs ds, ConditionsAlike cs ds →
      (conditionTriples cs).map Triple.path = (conditionTriples ds).map Triple.path := by
  apply predicate.mutual_induct
  case case1 =>
    intro gs ih g h
    cases h with
    | groups hgs =>
      rw [triples, triples]
      exact ih _ hgs
  case case2 =>
    intro hs h
    cases h with
    | nil => rfl
  case case3 =>
    intro logic cs gs ihcs ihgs hs h
    cases h with
    | cons hcs hgs =>
      rw [groupTriples, groupTriples, List.map_append, List.map_append, ihcs _ hcs, ihgs _ hgs]
  case case4 =>
    intro ds h
    cases h with
    | nil => rfl
  case case5 =>
    intro t cs ih ds h
    cases h with
    | triple ht hcs =>
      rw [conditionTriples, conditionTriples, List.map_cons, List.map_cons, ht.path, ih _ hcs]
  case case6 =>
    intro f cs ihf ihcs ds h
    cases h with
    | nested hf hcs =>
      rw [conditionTriples, conditionTriples, List.map_append, List.map_append, ihf _ hf,
        ihcs _ hcs]

theorem paths_eq_of_alike {f g : Filter} (h : f.Alike g) : f.paths = g.paths :=
  paths_eq_of_alikes.1 f g h

/-- So do optional filters. -/
theorem agree_condition {f g : Option Filter} (h : Option.Rel Filter.Alike f g)
    (columns : ColumnMap) :
    Agree (Option.Rel Predicate.Alike) (condition columns f) (condition columns g) := by
  cases h with
  | none => exact .ok .none
  | some hfg => exact agree_predicate hfg columns

end Filter

end CardStore
