/-
  CardStore.Proofs.Filter.Meaning
  ───────────────────────────────
  **THE MEANING OF A FILTER AND OF ITS TEXT.**

  A filter means what its tree says: a group combines its members by its
  connective, all groups of a node have to hold, and what has no condition is
  left out.  Its text is read by a grammar that knows nothing of the tree.
  Both come to the same truth, whatever the truth of the single tests is.

  Main statements:
    * `truth_of_predicate` — the tree of a predicate has the truth of its filter.
    * `readsAs_of_predicate` — so has the one reading of its text.
-/
import CardStore.Proofs.Filter.Compile
import CardStore.Proofs.Sql.Grammar

namespace CardStore

open Sql (Dialect Expr Predicate Reading Truth)

/-! ## §1. The truth of a filter. -/

/-- Combine what has a truth value by a connective; what has none is left out. -/
def Sql.Truth.both (logic : Logic) : Option Truth → Option Truth → Option Truth
  | none, t => t
  | t, none => t
  | some t, some u => some (Truth.combine logic t u)

namespace Filter

mutual

/-- The truth of a filter when its triples have truth values by their positions, its first triple
standing at `n`; none for a filter without any condition. -/
def truth (values : Nat → Truth) (n : Nat) : Filter → Option Truth
  | .groups gs => groupsTruth values n gs

/-- All groups have to hold. -/
def groupsTruth (values : Nat → Truth) (n : Nat) : List (Logic × List Condition) → Option Truth
  | [] => none
  | (logic, cs) :: gs =>
    Truth.both .and (conditionsTruth values n logic cs)
      (groupsTruth values (n + (conditionTriples cs).length) gs)

/-- The members of a group are combined by its connective. -/
def conditionsTruth (values : Nat → Truth) (n : Nat) (logic : Logic) :
    List Condition → Option Truth
  | [] => none
  | .triple _ :: cs =>
    Truth.both logic (some (values n)) (conditionsTruth values (n + 1) logic cs)
  | .nested f :: cs =>
    Truth.both logic (truth values n f)
      (conditionsTruth values (n + f.triples.length) logic cs)

end

/-! ## §2. The truth of its predicate. -/

/-- The truth of joined predicates, the first leaf standing at `n`; none if there are none. -/
def joinedTruth (d : Dialect) (values : Nat → Truth) (logic : Logic) :
    Nat → List Predicate → Option Truth
  | _, [] => none
  | n, p :: ps =>
    Truth.both logic (some ((p.expr d).truth values n))
      (joinedTruth d values logic (n + p.leaves.length) ps)

theorem joinedTruth_eq (d : Dialect) (values : Nat → Truth) (logic : Logic) :
    ∀ (ps : List Predicate) (n : Nat), ps ≠ [] →
      (∀ p ∈ ps, (p.expr d).tests.length = p.leaves.length) →
      joinedTruth d values logic n ps
        = some ((Predicate.exprAll d logic ps).truth values n) := by
  intro ps
  induction ps with
  | nil =>
    intro n hne _
    exact absurd rfl hne
  | cons p ps ih =>
    intro n _ h
    cases ps with
    | nil => rfl
    | cons q qs =>
      have hrest := ih (n + p.leaves.length) (by simp)
        fun r hr => h r (List.mem_cons_of_mem _ hr)
      rw [joinedTruth, hrest, Predicate.exprAll, Expr.truth, h p List.mem_cons_self]
      rfl

theorem joinedTruth_parens (d : Dialect) (values : Nat → Truth) (logic : Logic) :
    ∀ (ps : List Predicate) (n : Nat),
      joinedTruth d values logic n (ps.map Predicate.parens)
        = joinedTruth d values logic n ps := by
  intro ps
  induction ps with
  | nil =>
    intro n
    rfl
  | cons p ps ih =>
    intro n
    rw [List.map_cons, joinedTruth, joinedTruth, ih, Predicate.expr, Predicate.leaves]

theorem tests_length {p : Predicate} {rank : Predicate.Rank} (h : Predicate.Formed rank p)
    (d : Dialect) : (p.expr d).tests.length = p.leaves.length := by
  rw [h.tests d, List.length_map]

/-- Conjoining the parts of a node. -/
theorem joinedTruth_conjoined (d : Dialect) (values : Nat → Truth) {parts : List Predicate}
    (h : ∀ p ∈ parts, Predicate.Formed .group p) (n : Nat) :
    joinedTruth d values .and n parts
      = (conjoined parts).map fun p => (p.expr d).truth values n := by
  match parts with
  | [] => rfl
  | [p] => rfl
  | p :: q :: ps =>
    -- two parts or more are put in brackets, which changes neither tests nor truth
    have hlength : ∀ r ∈ (p :: q :: ps).map Predicate.parens,
        (r.expr d).tests.length = r.leaves.length := by
      intro r hr
      obtain ⟨part, hpart, rfl⟩ := List.mem_map.1 hr
      exact tests_length (.parens (h part hpart)) d
    rw [← joinedTruth_parens, joinedTruth_eq d values .and _ n (by simp) hlength]
    rfl

variable {columns : ColumnMap}

/-- The tree of a predicate has the truth of its filter, also for the parts of a node and the
members of a group. -/
theorem truth_of_predicates (hq : columns.IsQualified) (d : Dialect) (values : Nat → Truth) :
    (∀ f : Filter, ∀ answer, f.predicate columns = .ok answer → ∀ n,
      f.truth values n = answer.map fun p => (p.expr d).truth values n)
    ∧ (∀ gs parts, groupPredicates columns gs = .ok parts → ∀ n,
      groupsTruth values n gs = joinedTruth d values .and n parts)
    ∧ ∀ cs members, conditionPredicates columns cs = .ok members → ∀ n logic,
      conditionsTruth values n logic cs = joinedTruth d values logic n members := by
  apply predicate.mutual_induct
  case case1 =>
    intro gs ih answer h n
    rw [predicate] at h
    obtain ⟨parts, hparts, h⟩ := bind_eq_ok_iff.1 h
    obtain rfl : conjoined parts = answer := Except.ok.inj h
    rw [truth, ih parts hparts]
    exact joinedTruth_conjoined d values ((formed_of_predicates hq).2.1 gs parts hparts) n
  case case2 =>
    intro parts h n
    obtain rfl : [] = parts := Except.ok.inj h
    rfl
  -- a group, whose triples move those of the groups behind it
  case case3 =>
    intro logic cs gs ihcs ihgs parts h n
    rw [groupPredicates] at h
    obtain ⟨members, hmembers, h⟩ := bind_eq_ok_iff.1 h
    obtain ⟨rest, hrest, h⟩ := bind_eq_ok_iff.1 h
    have hformed := (formed_of_predicates hq).2.2 cs members hmembers
    have hcount := (leaves_of_predicates.2.2 cs members hmembers).length_eq
    obtain rfl := Except.ok.inj h
    rw [groupsTruth, ihcs members hmembers, ihgs rest hrest, hcount]
    split
    · rename_i hnil
      rw [List.isEmpty_iff.1 hnil]
      rfl
    · rename_i hne
      -- the members have a truth value, since there are some
      have hjoined := joinedTruth_eq d values logic members n (by simpa using hne)
        fun p hp => tests_length (hformed p hp) d
      rw [hjoined, joinedTruth, Predicate.expr, Predicate.leaves,
        Predicate.leavesAll_eq_flatMap]
  case case4 =>
    intro members h n logic
    obtain rfl : [] = members := Except.ok.inj h
    rfl
  case case5 =>
    intro t cs ih members h n logic
    rw [conditionPredicates] at h
    obtain ⟨q, hq', h⟩ := bind_eq_ok_iff.1 h
    obtain ⟨rest, hrest, h⟩ := bind_eq_ok_iff.1 h
    obtain rfl : q :: rest = members := Except.ok.inj h
    obtain ⟨op, column, _, _, hp⟩ := Triple.predicate_eq_ok_iff.1 hq'
    rw [conditionsTruth, ih rest hrest, joinedTruth, Triple.leaves_of_predicate hq',
      Predicate.expr_of_column? d (Triple.column?_of_predicateOf hp)]
    rfl
  case case6 =>
    intro f cs ihf ihcs members h n logic
    rw [conditionPredicates] at h
    obtain ⟨answer, hanswer, h⟩ := bind_eq_ok_iff.1 h
    obtain ⟨rest, hrest, h⟩ := bind_eq_ok_iff.1 h
    obtain rfl := Except.ok.inj h
    have hcount := (leaves_of_predicate hanswer).length_eq
    rw [conditionsTruth, ihf answer hanswer, ihcs rest hrest, hcount]
    -- a node without a predicate has no truth value and no leaves
    cases answer with
    | none => rfl
    | some p =>
      show _ = joinedTruth d values logic n (.parens p :: rest)
      rw [joinedTruth, Predicate.expr, Predicate.leaves, Option.toList_some,
        List.flatMap_cons, List.flatMap_nil, List.append_nil]
      rfl

/-- **The tree of a predicate** has the truth of its filter. -/
theorem truth_of_predicate (hq : columns.IsQualified) {f : Filter} {p : Predicate}
    (h : f.predicate columns = .ok (some p)) (d : Dialect) (values : Nat → Truth) (n : Nat) :
    f.truth values n = some ((p.expr d).truth values n) :=
  (truth_of_predicates hq d values).1 f (some p) h n

end Filter

/-! ## §3. The reading of its text. -/

/-- **What the text of a filter is read as**: tokens, a condition, and the truth of it. -/
structure Filter.ReadsAs (f : Filter) (columns : ColumnMap) (d : Dialect) (text : String)
    (ts : List Sql.Token) (e : Expr) : Prop where
  tokens : d.tokens? text = some ts
  reading : Reading .disjunction ts e
  /-- There is no other reading. -/
  unique : ∀ e', Reading .disjunction ts e' → e' = e
  /-- The tests that are read are the predicates of the triples from left to right. -/
  tests : List.Forall₂ (fun t test => ∃ q, Triple.predicate t columns = .ok q
    ∧ d.tokens? (q.text d) = some test) f.triples e.tests
  /-- Whatever the truth of the tests is, the condition has the truth of the filter. -/
  truth : ∀ values, f.truth values 0 = some (e.truth values 0)

namespace Filter

variable {columns : ColumnMap}

/-- The text of a triple's predicate is read as the test that its tree says. -/
theorem tokens?_of_compiles (hq : columns.IsQualified) (d : Dialect) {t : Triple} {q : Predicate}
    (h : t.predicate columns = .ok q) : d.tokens? (q.text d) = some (q.leafTokens d) := by
  obtain ⟨op, column, _, hcolumn, hp⟩ := Triple.predicate_eq_ok_iff.1 h
  have hqualified := hq _ _ hcolumn
  have hcolumn? := Triple.column?_of_predicateOf hp
  have hclean := Predicate.clean_leaf (d := d) (Or.inl rfl) hcolumn? hqualified
  rw [Dialect.tokens?, Dialect.read?, hclean.read, Option.map_some,
    Predicate.tokens_leaf d hcolumn? hqualified]

/-- **The text of a filter** has one reading, and this reading has the truth of the filter. -/
theorem readsAs_of_predicate (columns : ColumnMap) (hq : columns.IsQualified) (d : Dialect)
    (f : Filter) (p : Predicate) (h : f.predicate columns = .ok (some p)) :
    ∃ ts e, f.ReadsAs columns d (p.text d) ts e := by
  have hformed : Predicate.Formed .group p := formed_of_predicate hq h p rfl
  have hreading := hformed.reading d
  have hclean := hformed.clean (d := d) (Or.inl rfl)
  refine ⟨Sql.Piece.tokens (p.pieces d), p.expr d, ?_, hreading, ?_, ?_, ?_⟩
  · rw [Dialect.tokens?, Dialect.read?, hclean.read, Option.map_some]
  · intro e' he'
    exact he'.unique hreading
  · have hleaves := leaves_of_predicate h
    rw [Option.toList_some, List.flatMap_cons, List.flatMap_nil, List.append_nil] at hleaves
    rw [hformed.tests d, List.forall₂_map_right_iff]
    apply hleaves.imp
    intro t q hcompiles
    exact ⟨q, hcompiles, tokens?_of_compiles hq d hcompiles⟩
  · intro values
    exact truth_of_predicate hq h d values 0

/-- The columns of a name and an age. -/
def peopleColumns : ColumnMap :=
  ((ColumnMap.empty "people").insert "name" ⟨columnText 0 "MC", "Text"⟩).insert "age"
    ⟨columnText 0 "AGE", "Integer"⟩

/-- A range that is nested in one of two groups, with an empty node beside it. -/
def nestedRange : Filter :=
  .groups [(.or, [.triple ⟨"name", "=", .string "a"⟩,
      .nested (.group .and [.triple ⟨"age", "not between", .array [.int 1, .int 2]⟩,
        .nested .empty])]),
    (.and, [.triple ⟨"name", "like", .string "' OR 1=1"⟩])]

/-- The connective of the range, the one in the pattern and the brackets do not mislead. -/
theorem readsAs_nestedRange :
    ∃ p, nestedRange.predicate peopleColumns = .ok (some p)
      ∧ ∃ ts e, nestedRange.ReadsAs peopleColumns .mysql (p.text .mysql) ts e := by
  have hq : peopleColumns.IsQualified := by
    apply ColumnMap.IsQualified.insert _ _ (Sql.qualified_columnText 0 (by decide))
    apply ColumnMap.IsQualified.insert _ _ (Sql.qualified_columnText 0 (by decide))
    exact ColumnMap.isQualified_empty _
  have hsome : (nestedRange.predicate peopleColumns).toOption.join.isSome = true := by
    decide +kernel
  cases hp : nestedRange.predicate peopleColumns with
  | error e =>
    rw [hp] at hsome
    cases hsome
  | ok answer =>
    cases answer with
    | none =>
      rw [hp] at hsome
      cases hsome
    | some p => exact ⟨p, rfl, readsAs_of_predicate peopleColumns hq .mysql nestedRange p hp⟩

end Filter

end CardStore
