/-
  CardStore.Proofs.Filter.Compile
  ───────────────────────────────
  **WHAT FILTERS COMPILE TO.**

  A filter compiles to a tree in which groups and members alternate, and whose
  leaves are the predicates of the triples, in the order of the triples.  The
  parameters follow: each triple binds what its operator takes of its operand.

  Main statements:
    * `Filter.formed_of_predicate` — groups and members alternate.
    * `Filter.leaves_of_predicate` — the leaves are the predicates of the triples.
    * `Triple.params_of_predicate` — what a triple binds.
-/
import CardStore.Filter.Compile
import CardStore.Proofs.Script
import CardStore.Proofs.Sql.Predicate
import Mathlib.Data.List.Forall2

namespace CardStore

open Sql (Predicate Qualified)
open Sql.Predicate (Formed leaves)

/-! ## §1. Triples. -/

/-- All columns of the map name their tables. -/
def ColumnMap.IsQualified (columns : ColumnMap) : Prop :=
  ∀ path column, columns.get path = .ok column → Qualified column.text

theorem ColumnMap.isQualified_empty (card : String) : (ColumnMap.empty card).IsQualified := by
  intro path column h
  cases h

theorem ColumnMap.IsQualified.insert {columns : ColumnMap} (h : columns.IsQualified)
    (path : String) {column : Column} (hc : Qualified column.text) :
    (columns.insert path column).IsQualified := by
  intro other found hfound
  rw [ColumnMap.get_insert] at hfound
  by_cases ho : other = path
  · rw [if_pos ho, Except.ok.injEq] at hfound
    rw [← hfound]
    exact hc
  · rw [if_neg ho] at hfound
    exact h other found hfound

/-- What a triple binds: the operand of a comparison, every element for a list, the two bounds
of a range, and nothing for a test or a pattern. -/
def Triple.boundOperands (t : Triple) : List Value :=
  match Operator.parse? t.operator, t.operand.items? with
  | some (.compare _), _ => [t.operand]
  | some (.isIn _), some items => items
  | some (.between _), some [low, high] => [low, high]
  | _, _ => []

/-- How the predicate of a triple comes about. -/
theorem Triple.predicate_eq_ok_iff {t : Triple} {columns : ColumnMap} {p : Predicate} :
    t.predicate columns = .ok p ↔
      ∃ op column, Operator.parse? t.operator = some op ∧ columns.get t.path = .ok column ∧
        t.predicateOf op column.text = .ok p := by
  rw [predicate, bind_eq_ok_iff]
  constructor
  · rintro ⟨op, hop, h⟩
    obtain ⟨column, hcolumn, h⟩ := bind_eq_ok_iff.1 h
    rw [parseOperator] at hop
    split at hop
    · rename_i op' hop'
      rw [Except.ok.injEq] at hop
      exact ⟨op, column, by rw [hop', hop], hcolumn, h⟩
    · cases hop
  · rintro ⟨op, column, hop, hcolumn, h⟩
    refine ⟨op, ?_, bind_eq_ok_iff.2 ⟨column, hcolumn, h⟩⟩
    rw [parseOperator, hop]

/-- The predicate of a triple is one on the column of its path. -/
theorem Triple.column?_of_predicateOf {t : Triple} {op : Operator} {column : String}
    {p : Predicate} (h : t.predicateOf op column = .ok p) : p.column? = some column := by
  cases op with
  | compare c =>
    rw [predicateOf, Except.ok.injEq] at h
    rw [← h, Predicate.column?]
  | is =>
    rw [predicateOf, Except.ok.injEq] at h
    rw [← h, Predicate.column?]
  | isIn negated =>
    rw [predicateOf] at h
    split at h
    · rw [Except.ok.injEq] at h
      rw [← h, Predicate.column?]
    · cases h
  | like negated =>
    rw [predicateOf, Except.ok.injEq] at h
    rw [← h, Predicate.column?]
  | between negated =>
    rw [predicateOf] at h
    split at h
    · rw [Except.ok.injEq] at h
      rw [← h, Predicate.column?]
    · cases h

/-- **What a triple binds** are the parameters of its predicate. -/
theorem Triple.params_of_predicate {t : Triple} {columns : ColumnMap} {p : Predicate}
    (h : t.predicate columns = .ok p) : p.params = t.boundOperands := by
  obtain ⟨op, column, hop, _, h⟩ := predicate_eq_ok_iff.1 h
  rw [boundOperands, hop]
  cases op with
  | compare c =>
    rw [predicateOf, Except.ok.injEq] at h
    rw [← h, Predicate.params]
  | is =>
    rw [predicateOf, Except.ok.injEq] at h
    rw [← h, Predicate.params]
  | isIn negated =>
    rw [predicateOf] at h
    split at h
    · rename_i items hitems
      rw [Except.ok.injEq] at h
      rw [← h, Predicate.params, hitems]
    · cases h
  | like negated =>
    rw [predicateOf, Except.ok.injEq] at h
    rw [← h, Predicate.params]
  | between negated =>
    rw [predicateOf] at h
    split at h
    · rename_i low high hitems
      rw [Except.ok.injEq] at h
      rw [← h, Predicate.params, hitems]
    · cases h

/-- The predicate of a triple on a column that names its table. -/
theorem Triple.formed_of_predicate {t : Triple} {columns : ColumnMap}
    (hq : columns.IsQualified) {p : Predicate} (h : t.predicate columns = .ok p) :
    Formed .member p := by
  obtain ⟨op, column, _, hcolumn, hp⟩ := predicate_eq_ok_iff.1 h
  exact .leaf (column?_of_predicateOf hp) (hq _ _ hcolumn)

theorem Triple.leaves_of_predicate {t : Triple} {columns : ColumnMap} {p : Predicate}
    (h : t.predicate columns = .ok p) : p.leaves = [p] := by
  obtain ⟨op, column, _, _, hp⟩ := predicate_eq_ok_iff.1 h
  exact Predicate.leaves_of_column? (column?_of_predicateOf hp)

/-! ## §2. Filters. -/

namespace Filter

/-- Groups and members alternate also where the parts of a node are conjoined. -/
theorem formed_conjoined {parts : List Predicate} (h : ∀ p ∈ parts, Formed .group p) :
    ∀ p ∈ conjoined parts, Formed .group p := by
  intro p hp
  match parts, hp with
  | [q], hp =>
    rw [conjoined, Option.mem_some_iff] at hp
    exact hp ▸ h q List.mem_cons_self
  | q :: r :: rest, hp =>
    rw [conjoined, Option.mem_some_iff] at hp
    subst hp
    apply Formed.joined
    · simp
    · intro p hp
      obtain ⟨part, hpart, rfl⟩ := List.mem_map.1 hp
      exact .parens (h part hpart)

theorem leaves_parens (ps : List Predicate) :
    (ps.map Predicate.parens).flatMap leaves = ps.flatMap leaves := by
  rw [List.flatMap_map]
  rfl

/-- Conjoining the parts of a node keeps their leaves. -/
theorem leaves_conjoined (parts : List Predicate) :
    (conjoined parts).toList.flatMap leaves = parts.flatMap leaves := by
  match parts with
  | [] => rfl
  | [p] => rfl
  | p :: q :: ps =>
    show [Predicate.joined .and ((p :: q :: ps).map .parens)].flatMap leaves = _
    rw [List.flatMap_cons, List.flatMap_nil, List.append_nil, leaves,
      Predicate.leavesAll_eq_flatMap, leaves_parens]

variable {columns : ColumnMap}

/-- Groups and members alternate, in the parts of a node and among the members of a group too.
The induction follows the three functions that compile a filter. -/
theorem formed_of_predicates (hq : columns.IsQualified) :
    (∀ f : Filter, ∀ answer, f.predicate columns = .ok answer → ∀ p ∈ answer, Formed .group p)
    ∧ (∀ gs parts, groupPredicates columns gs = .ok parts → ∀ p ∈ parts, Formed .group p)
    ∧ ∀ cs members, conditionPredicates columns cs = .ok members →
      ∀ p ∈ members, Formed .member p := by
  apply predicate.mutual_induct
  case case1 =>
    intro gs ih answer h
    rw [predicate] at h
    obtain ⟨parts, hparts, h⟩ := bind_eq_ok_iff.1 h
    obtain rfl : conjoined parts = answer := Except.ok.inj h
    exact formed_conjoined (ih parts hparts)
  case case2 =>
    intro parts h
    obtain rfl : [] = parts := Except.ok.inj h
    intro p hp
    exact absurd hp List.not_mem_nil
  -- a group: without members it is left out, else it is the first part
  case case3 =>
    intro logic cs gs ihcs ihgs parts h
    rw [groupPredicates] at h
    obtain ⟨members, hmembers, h⟩ := bind_eq_ok_iff.1 h
    obtain ⟨rest, hrest, h⟩ := bind_eq_ok_iff.1 h
    have hm := ihcs members hmembers
    have hr := ihgs rest hrest
    obtain rfl := Except.ok.inj h
    split
    · exact hr
    · rename_i hne
      intro p hp
      rcases List.mem_cons.1 hp with rfl | hp
      · exact .joined (by simpa using hne) hm
      · exact hr p hp
  case case4 =>
    intro members h
    obtain rfl : [] = members := Except.ok.inj h
    intro p hp
    exact absurd hp List.not_mem_nil
  case case5 =>
    intro t cs ih members h
    rw [conditionPredicates] at h
    obtain ⟨q, hq', h⟩ := bind_eq_ok_iff.1 h
    obtain ⟨rest, hrest, h⟩ := bind_eq_ok_iff.1 h
    obtain rfl : q :: rest = members := Except.ok.inj h
    intro p hp
    rcases List.mem_cons.1 hp with rfl | hp
    · exact t.formed_of_predicate hq hq'
    · exact ih rest hrest p hp
  -- a nested node: in brackets it is a member, and without a predicate it is left out
  case case6 =>
    intro f cs ihf ihcs members h
    rw [conditionPredicates] at h
    obtain ⟨answer, hanswer, h⟩ := bind_eq_ok_iff.1 h
    obtain ⟨rest, hrest, h⟩ := bind_eq_ok_iff.1 h
    obtain rfl := Except.ok.inj h
    intro p hp
    rcases List.mem_append.1 hp with hp | hp
    · rw [Option.mem_toList, Option.map_eq_some_iff] at hp
      obtain ⟨q, hq', rfl⟩ := hp
      exact .parens (ihf answer hanswer q hq')
    · exact ihcs rest hrest p hp

/-- **Groups and members alternate** in the predicate of a filter. -/
theorem formed_of_predicate (hq : columns.IsQualified) {f : Filter} {answer : Option Predicate}
    (h : f.predicate columns = .ok answer) : ∀ p ∈ answer, Formed .group p :=
  (formed_of_predicates hq).1 f answer h

/-- A triple and its predicate. -/
abbrev Compiles (columns : ColumnMap) (t : Triple) (q : Predicate) : Prop :=
  t.predicate columns = .ok q

/-- The leaves are the predicates of the triples, also of the parts of a node and of the members
of a group. -/
theorem leaves_of_predicates :
    (∀ f : Filter, ∀ answer, f.predicate columns = .ok answer →
      List.Forall₂ (Compiles columns) f.triples (answer.toList.flatMap leaves))
    ∧ (∀ gs parts, groupPredicates columns gs = .ok parts →
      List.Forall₂ (Compiles columns) (groupTriples gs) (parts.flatMap leaves))
    ∧ ∀ cs members, conditionPredicates columns cs = .ok members →
      List.Forall₂ (Compiles columns) (conditionTriples cs) (members.flatMap leaves) := by
  apply predicate.mutual_induct
  case case1 =>
    intro gs ih answer h
    rw [predicate] at h
    obtain ⟨parts, hparts, h⟩ := bind_eq_ok_iff.1 h
    obtain rfl : conjoined parts = answer := Except.ok.inj h
    rw [leaves_conjoined, triples]
    exact ih parts hparts
  case case2 =>
    intro parts h
    obtain rfl : [] = parts := Except.ok.inj h
    exact .nil
  case case3 =>
    intro logic cs gs ihcs ihgs parts h
    rw [groupPredicates] at h
    obtain ⟨members, hmembers, h⟩ := bind_eq_ok_iff.1 h
    obtain ⟨rest, hrest, h⟩ := bind_eq_ok_iff.1 h
    have hm := ihcs members hmembers
    have hr := ihgs rest hrest
    obtain rfl := Except.ok.inj h
    rw [groupTriples]
    split
    -- a group that is left out has no triples either
    · rename_i hnil
      rw [List.isEmpty_iff.1 hnil] at hm
      exact List.rel_append hm hr
    · rw [List.flatMap_cons, leaves, Predicate.leavesAll_eq_flatMap]
      exact List.rel_append hm hr
  case case4 =>
    intro members h
    obtain rfl : [] = members := Except.ok.inj h
    exact .nil
  case case5 =>
    intro t cs ih members h
    rw [conditionPredicates] at h
    obtain ⟨q, hq, h⟩ := bind_eq_ok_iff.1 h
    obtain ⟨rest, hrest, h⟩ := bind_eq_ok_iff.1 h
    obtain rfl : q :: rest = members := Except.ok.inj h
    rw [conditionTriples, List.flatMap_cons, Triple.leaves_of_predicate hq]
    exact .cons hq (ih rest hrest)
  case case6 =>
    intro f cs ihf ihcs members h
    rw [conditionPredicates] at h
    obtain ⟨answer, hanswer, h⟩ := bind_eq_ok_iff.1 h
    obtain ⟨rest, hrest, h⟩ := bind_eq_ok_iff.1 h
    obtain rfl := Except.ok.inj h
    have hparens : (answer.map Predicate.parens).toList.flatMap leaves
        = answer.toList.flatMap leaves := by
      cases answer with
      | none => rfl
      | some p => rfl
    rw [conditionTriples, List.flatMap_append, hparens]
    exact List.rel_append (ihf answer hanswer) (ihcs rest hrest)

/-- **The leaves** of the predicate of a filter are the predicates of its triples, from left to
right; a filter without a predicate has no triples. -/
theorem leaves_of_predicate {f : Filter} {answer : Option Predicate}
    (h : f.predicate columns = .ok answer) :
    List.Forall₂ (Compiles columns) f.triples (answer.toList.flatMap leaves) :=
  leaves_of_predicates.1 f answer h

/-! ## §3. Optional filters. -/

/-- The triples of an optional filter from left to right. -/
def allTriples (filter : Option Filter) : List Triple := filter.toList.flatMap triples

theorem formed_of_condition (hq : columns.IsQualified) {filter : Option Filter}
    {answer : Option Predicate} (h : condition columns filter = .ok answer) :
    ∀ p ∈ answer, Formed .group p := by
  cases filter with
  | none =>
    obtain rfl : none = answer := Except.ok.inj h
    intro p hp
    cases hp
  | some f => exact formed_of_predicate hq h

theorem leaves_of_condition {filter : Option Filter} {answer : Option Predicate}
    (h : condition columns filter = .ok answer) :
    List.Forall₂ (Compiles columns) (allTriples filter) (answer.toList.flatMap leaves) := by
  cases filter with
  | none =>
    obtain rfl : none = answer := Except.ok.inj h
    exact .nil
  | some f =>
    show List.Forall₂ _ (f.triples ++ []) _
    rw [List.append_nil]
    exact leaves_of_predicate h

/-- The triple of a leaf, and the triples in front of it. -/
theorem exists_triple_of_leaf {ts : List Triple} {earlier later : List Predicate} {q : Predicate}
    (h : List.Forall₂ (Compiles columns) ts (earlier ++ q :: later)) :
    ∃ ts₁ t ts₂, ts = ts₁ ++ t :: ts₂ ∧ t.predicate columns = .ok q
      ∧ List.Forall₂ (Compiles columns) ts₁ earlier := by
  have hfront := List.forall₂_take_append _ _ _ h
  have hback := List.forall₂_drop_append _ _ _ h
  obtain ⟨t, ts₂, ht, _, hdrop⟩ := List.forall₂_cons_right_iff.1 hback
  refine ⟨_, t, ts₂, ?_, ht, hfront⟩
  rw [← hdrop, List.take_append_drop]

/-- The leaves of a condition test columns of the map. -/
theorem exists_column_of_leaf {filter : Option Filter} {answer : Option Predicate}
    (h : condition columns filter = .ok answer) {p leaf : Predicate} (hp : answer = some p)
    (hleaf : leaf ∈ p.leaves) :
    ∃ path column, columns.get path = .ok column ∧ leaf.column? = some column.text := by
  have hleaves := leaves_of_condition h
  have hmem : leaf ∈ answer.toList.flatMap leaves :=
    List.mem_flatMap.2 ⟨p, Option.mem_toList.2 hp, hleaf⟩
  obtain ⟨earlier, later, hsplit⟩ := List.append_of_mem hmem
  rw [hsplit] at hleaves
  obtain ⟨_, t, _, _, ht, _⟩ := exists_triple_of_leaf hleaves
  obtain ⟨op, column, _, hcolumn, hp⟩ := Triple.predicate_eq_ok_iff.1 ht
  exact ⟨t.path, column, hcolumn, Triple.column?_of_predicateOf hp⟩

end Filter

end CardStore
