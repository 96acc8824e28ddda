/-
  CardStore.Proofs.Sql.Grammar
  ────────────────────────────
  **THE GRAMMAR OF CONDITIONS.**

  Conditions are read with the usual grammar: tests on operands, which have no
  connectives of their own except that a range takes the next `AND`; brackets
  around any condition; conjunctions of these; disjunctions of conjunctions.

      a=? OR b BETWEEN ? AND ? AND c IS NULL
      └┬┘    └──────┬──────┘     └────┬────┘
       │            └───── AND ───────┘
       └────── OR ────────┘

  Main statements:
    * `Reading.unique` — a text has one reading at most.
    * `Formed.reading` — the text of a predicate has the reading that its tree says.
-/
import CardStore.Proofs.Sql.Token

namespace CardStore.Sql

open Token (keyword)

/-! ## §1. Tests. -/

/-- The words with a meaning of their own. -/
def keywords : List (List Char) :=
  ["AND", "OR", "NOT", "IS", "NULL", "IN", "LIKE", "BETWEEN"].map String.toList

/-- An operand: a column or a number, a bind slot, or a literal. -/
inductive Operand : Token → Prop where
  | word {cs : List Char} : cs ∉ keywords → Operand (.word cs)
  | slot : Operand .slot
  | literal {raw : List Char} : Operand (.literal raw)

/-- Operands with commas between them. -/
inductive Items : List Token → Prop where
  | one {t : Token} : Operand t → Items [t]
  | more {t : Token} {ts : List Token} : Operand t → Items ts → Items (t :: .comma :: ts)

/-- The comparison signs. -/
def comparisonSigns : List (List Char) := ["=", "<", ">", "<=", ">=", "<>"].map String.toList

/-- How a test ends that has an opposite. -/
inductive Ending : List Token → Prop where
  | isIn {items : List Token} : Items items →
    Ending (keyword "IN" :: .opening :: (items ++ [.closing]))
  | like {b : Token} : Operand b → Ending [keyword "LIKE", b]
  | between {b c : Token} : Operand b → Operand c →
    Ending [keyword "BETWEEN", b, keyword "AND", c]

/-- A test on operands. -/
inductive Test : List Token → Prop where
  | compare {a b : Token} {sign : List Char} :
    Operand a → sign ∈ comparisonSigns → Operand b → Test [a, .comparison sign, b]
  | isNull {a : Token} (negated : Bool) :
    Operand a → Test (a :: keyword "IS" :: (Token.negation negated ++ [keyword "NULL"]))
  | ending {a : Token} (negated : Bool) {ts : List Token} :
    Operand a → Ending ts → Test (a :: (Token.negation negated ++ ts))

theorem Operand.ne_closing {t : Token} (h : Operand t) : t ≠ .closing := by
  cases h <;> simp

theorem Operand.ne_opening {t : Token} (h : Operand t) : t ≠ .opening := by
  cases h <;> simp

theorem Items.ne_closing {ts : List Token} (h : Items ts) : ∀ t ∈ ts, t ≠ .closing := by
  induction h with
  | one ht =>
    intro t h
    rw [List.mem_singleton.1 h]
    exact ht.ne_closing
  | more ht _ ih =>
    intro t h
    rcases List.mem_cons.1 h with rfl | h
    · exact ht.ne_closing
    · rcases List.mem_cons.1 h with rfl | h
      · simp
      · exact ih t h

/-- The number of tokens of the ending at the front of a text. -/
def endingLength : List Token → Nat
  | t :: ts =>
    if t = keyword "LIKE" then 2
    else if t = keyword "BETWEEN" then 4
    else 3 + (ts.tail.takeWhile (· ≠ .closing)).length
  | [] => 0

/-- The number of tokens of the test at the front of a text: the words behind its first operand
say how it ends. -/
def testLength : List Token → Nat
  | _ :: t :: ts =>
    if t = keyword "IS" then (if ts.head? = some (keyword "NOT") then 4 else 3)
    else if t = keyword "NOT" then 2 + endingLength ts
    else if t.isWord then 1 + endingLength (t :: ts)
    else 3
  | _ => 0

theorem Ending.endingLength_append {ts : List Token} (h : Ending ts) (rest : List Token) :
    endingLength (ts ++ rest) = ts.length := by
  cases h with
  | @isIn items hi =>
    -- no item is a closing bracket, so the first one ends the list
    have hspan : (items ++ .closing :: rest).takeWhile (· ≠ .closing) = items := by
      rw [List.takeWhile_append_of_pos fun t ht => decide_eq_true (hi.ne_closing t ht),
        List.takeWhile_cons_of_neg (by decide), List.append_nil]
    have htail : (Token.opening :: (items ++ [.closing]) ++ rest).tail
        = items ++ .closing :: rest := by simp
    rw [List.cons_append, endingLength, if_neg (by decide), if_neg (by decide), htail, hspan]
    simp only [List.length_cons, List.length_append, List.length_nil]
    omega
  | like _ => rfl
  | between _ _ => rfl

/-- An ending begins with a word that no other part of a test begins with. -/
theorem Ending.exists_cons {ts : List Token} (h : Ending ts) :
    ∃ t us, ts = t :: us ∧ t.isWord = true ∧ t ≠ keyword "NOT" ∧ t ≠ keyword "IS" := by
  cases h with
  | isIn _ => exact ⟨_, _, rfl, rfl, by decide, by decide⟩
  | like _ => exact ⟨_, _, rfl, rfl, by decide, by decide⟩
  | between _ _ => exact ⟨_, _, rfl, rfl, by decide, by decide⟩

theorem Test.testLength_append {ts : List Token} (h : Test ts) (rest : List Token) :
    testLength (ts ++ rest) = ts.length := by
  cases h with
  | compare _ _ _ => rfl
  | isNull negated _ => cases negated <;> rfl
  | @ending a negated ts _ he =>
    have hlength := he.endingLength_append rest
    obtain ⟨t, us, rfl, hword, hnot, his⟩ := he.exists_cons
    cases negated with
    | false =>
      show testLength (a :: t :: (us ++ rest)) = (a :: t :: us).length
      rw [testLength, if_neg his, if_neg hnot, if_pos hword, List.length_cons, ← hlength]
      exact Nat.add_comm _ _
    | true =>
      show 2 + endingLength (t :: us ++ rest) = (t :: us).length + 2
      rw [hlength]
      exact Nat.add_comm _ _

/-- **No test goes on as another test.** -/
theorem Test.prefix_free {ts us rest rest' : List Token} (ht : Test ts) (hu : Test us)
    (h : ts ++ rest = us ++ rest') : ts = us := by
  have hlength : ts.length = us.length := by
    rw [← ht.testLength_append rest, h, hu.testLength_append]
  exact (List.append_inj h hlength).1

/-! ## §2. Conditions. -/

/-- A condition as it is read. -/
inductive Expr where
  | test (ts : List Token)
  | joined (logic : Logic) (left right : Expr)
  deriving DecidableEq, Repr

/-- How much of a condition is read. -/
inductive Level where
  /-- A test, or any condition in brackets. -/
  | primary
  | conjunction
  | disjunction
  deriving DecidableEq

/-- **The grammar of conditions.** -/
inductive Reading : Level → List Token → Expr → Prop where
  | test {ts : List Token} : Test ts → Reading .primary ts (.test ts)
  | brackets {ts : List Token} {e : Expr} :
    Reading .disjunction ts e → Reading .primary (.opening :: (ts ++ [.closing])) e
  | factor {ts : List Token} {e : Expr} : Reading .primary ts e → Reading .conjunction ts e
  | and {ts us : List Token} {e f : Expr} :
    Reading .primary ts e → Reading .conjunction us f →
      Reading .conjunction (ts ++ keyword "AND" :: us) (.joined .and e f)
  | term {ts : List Token} {e : Expr} : Reading .conjunction ts e → Reading .disjunction ts e
  | or {ts us : List Token} {e f : Expr} :
    Reading .conjunction ts e → Reading .disjunction us f →
      Reading .disjunction (ts ++ keyword "OR" :: us) (.joined .or e f)

/-- What may follow a condition that is read to its end. -/
def Level.Ends : Level → List Token → Prop
  | .primary, _ => True
  | .conjunction, rest => rest.head? ≠ some (keyword "AND")
  | .disjunction, rest =>
    rest.head? ≠ some (keyword "AND") ∧ rest.head? ≠ some (keyword "OR")

theorem Level.ends_closing (rest : List Token) : Level.Ends .disjunction (.closing :: rest) := by
  simp [Level.Ends, keyword]

theorem Level.ends_or (rest : List Token) : Level.Ends .conjunction (keyword "OR" :: rest) := by
  have hne : keyword "OR" ≠ keyword "AND" := by decide
  simp [Level.Ends, hne]

/-- Two readings at the front of one text end at the same place and agree.  The induction is on
the first reading; the second one must have been built in the same way, or one of the two would
have gone on. -/
theorem Reading.deterministic {level : Level} {ts : List Token} {e : Expr}
    (h : Reading level ts e) : ∀ {us : List Token} {f : Expr} {rest rest' : List Token},
      Reading level us f → ts ++ rest = us ++ rest' → level.Ends rest → level.Ends rest' →
        ts = us ∧ e = f := by
  induction h with
  | test ht =>
    intro us f rest rest' hu heq _ _
    cases hu with
    | test hu =>
      have hts := ht.prefix_free hu heq
      exact ⟨hts, congrArg Expr.test hts⟩
    | brackets _ =>
      -- a test begins with an operand, which is no bracket
      cases ht <;> exact absurd (List.cons.inj heq).1 (Operand.ne_opening ‹_›)
  | @brackets ts e _ ih =>
    intro us f rest rest' hu heq _ _
    cases hu with
    | test hu =>
      cases hu <;> exact absurd (List.cons.inj heq).1.symm (Operand.ne_opening ‹_›)
    | @brackets us f hu =>
      -- both conditions end at a closing bracket, so the induction applies inside
      have hinner : ts ++ .closing :: rest = us ++ .closing :: rest' := by simpa using heq
      obtain ⟨rfl, rfl⟩ := ih hu hinner (Level.ends_closing rest) (Level.ends_closing rest')
      exact ⟨rfl, rfl⟩
  | factor _ ih =>
    intro us f rest rest' hu heq hend hend'
    cases hu with
    | factor hu => exact ih hu heq trivial trivial
    | and hu _ =>
      rw [List.append_assoc] at heq
      obtain ⟨rfl, _⟩ := ih hu heq trivial trivial
      have hrest := List.append_cancel_left heq
      -- the first reading ends where the second one goes on with AND
      exact absurd (by rw [hrest]; rfl) hend
  | and _ _ ih ih' =>
    intro us f rest rest' hu heq hend hend'
    rw [List.append_assoc] at heq
    cases hu with
    | factor hu =>
      obtain ⟨rfl, _⟩ := ih hu heq trivial trivial
      have hrest := List.append_cancel_left heq
      exact absurd (by rw [← hrest]; rfl) hend'
    | and hu hv =>
      rw [List.append_assoc] at heq
      obtain ⟨rfl, rfl⟩ := ih hu heq trivial trivial
      have hrest := (List.cons.inj (List.append_cancel_left heq)).2
      obtain ⟨rfl, rfl⟩ := ih' hv hrest hend hend'
      exact ⟨rfl, rfl⟩
  | term _ ih =>
    intro us f rest rest' hu heq hend hend'
    cases hu with
    | term hu => exact ih hu heq hend.1 hend'.1
    | or hu _ =>
      rw [List.append_assoc] at heq
      -- and here it goes on with OR
      obtain ⟨rfl, _⟩ := ih hu heq hend.1 (Level.ends_or _)
      have hrest := List.append_cancel_left heq
      exact absurd (by rw [hrest]; rfl) hend.2
  | or _ _ ih ih' =>
    intro us f rest rest' hu heq hend hend'
    rw [List.append_assoc] at heq
    cases hu with
    | term hu =>
      obtain ⟨rfl, _⟩ := ih hu heq (Level.ends_or _) hend'.1
      have hrest := List.append_cancel_left heq
      exact absurd (by rw [← hrest]; rfl) hend'.2
    | or hu hv =>
      rw [List.append_assoc] at heq
      obtain ⟨rfl, rfl⟩ := ih hu heq (Level.ends_or _) (Level.ends_or _)
      have hrest := (List.cons.inj (List.append_cancel_left heq)).2
      obtain ⟨rfl, rfl⟩ := ih' hv hrest hend hend'
      exact ⟨rfl, rfl⟩

/-- **A text has one reading at most.** -/
theorem Reading.unique {ts : List Token} {e f : Expr} (he : Reading .disjunction ts e)
    (hf : Reading .disjunction ts f) : e = f := by
  have hend : Level.Ends .disjunction [] := by simp [Level.Ends]
  exact (he.deterministic hf rfl hend hend).2

/-! ## §3. Truth. -/

/-- A truth value; a test that meets a missing value is neither true nor false. -/
inductive Truth where
  | false
  | unknown
  | true
  deriving DecidableEq, Repr

namespace Truth

/-- The lesser of two truth values. -/
def and : Truth → Truth → Truth
  | .true, t => t
  | t, .true => t
  | .unknown, .unknown => .unknown
  | _, _ => .false

/-- The greater of two truth values. -/
def or : Truth → Truth → Truth
  | .false, t => t
  | t, .false => t
  | .unknown, .unknown => .unknown
  | _, _ => .true

/-- Combine two truth values by a connective. -/
def combine : Logic → Truth → Truth → Truth
  | .and => and
  | .or => or

end Truth

namespace Expr

/-- The tests from left to right. -/
def tests : Expr → List (List Token)
  | .test ts => [ts]
  | .joined _ left right => left.tests ++ right.tests

/-- The truth of a condition when the tests have truth values by their positions, the first of
its tests standing at `n`. -/
def truth (values : Nat → Truth) : Nat → Expr → Truth
  | n, .test _ => values n
  | n, .joined logic left right =>
    Truth.combine logic (left.truth values n) (right.truth values (n + left.tests.length))

end Expr

/-! ## §4. The reading of a predicate. -/

namespace Predicate

mutual

/-- The condition that a predicate is read as. -/
def expr (d : Dialect) : Predicate → Expr
  | .parens p => expr d p
  | .joined logic ps => exprAll d logic ps
  | p => .test (p.leafTokens d)

/-- The condition that joined predicates are read as; there is at least one. -/
def exprAll (d : Dialect) (logic : Logic) : List Predicate → Expr
  | [] => .test []
  | [p] => expr d p
  | p :: q :: ps => .joined logic (expr d p) (exprAll d logic (q :: ps))

end

theorem expr_of_column? (d : Dialect) {p : Predicate} {column : String}
    (h : p.column? = some column) : p.expr d = .test (p.leafTokens d) := by
  cases p <;> first | rfl | cases h

theorem not_mem_keywords_of_qualified {column : String} (h : Qualified column) :
    column.toList ∉ keywords := by
  obtain ⟨table, name, _, _, rfl⟩ := h
  intro hmem
  have hpoint : '.' ∈ (table ++ "." ++ name).toList := by
    rw [String.toList_append, String.toList_append]
    simp
  have hnone : ∀ w ∈ keywords, '.' ∉ w := by decide
  exact hnone _ hmem hpoint

theorem items_slots (n : Nat) : Items (Token.slots (n + 1)) := by
  induction n with
  | zero => exact .one .slot
  | succ n ih =>
    have hslots : Token.slots (n + 2) = .slot :: .comma :: Token.slots (n + 1) := by
      simp [Token.slots, List.replicate_succ]
    rw [hslots]
    exact .more .slot ih

/-- The tokens of a leaf are a test. -/
theorem test_leafTokens (d : Dialect) {p : Predicate} {column : String}
    (hp : p.column? = some column) (hq : Qualified column) : Test (p.leafTokens d) := by
  have hcolumn : Operand (.word column.toList) := .word (not_mem_keywords_of_qualified hq)
  cases p with
  | parens p => cases hp
  | joined logic ps => cases hp
  | compare column c value =>
    obtain rfl : column = _ := Option.some.inj hp
    exact .compare hcolumn (by cases c <;> decide) .slot
  | isNull column negated =>
    obtain rfl : column = _ := Option.some.inj hp
    exact .isNull negated hcolumn
  | isIn column negated items =>
    obtain rfl : column = _ := Option.some.inj hp
    cases items with
    | nil =>
      refine .compare (.word (by decide)) (by decide) (.word ?_)
      cases negated <;> decide
    | cons v vs => exact .ending negated hcolumn (.isIn (items_slots vs.length))
  | like column negated pattern =>
    obtain rfl : column = _ := Option.some.inj hp
    exact .ending negated hcolumn (.like .literal)
  | between column negated low high =>
    obtain rfl : column = _ := Option.some.inj hp
    exact .ending negated hcolumn (.between .slot .slot)

/-- The level at which a predicate of a rank is read. -/
def Rank.level : Rank → Level
  | .member => .primary
  | .group => .disjunction

/-- Members with a connective between them are read at a level that takes single members, and a
member, the connective and more of them. -/
theorem reading_joined (d : Dialect) (logic : Logic) {level : Level}
    (hone : ∀ {ts e}, Reading .primary ts e → Reading level ts e)
    (hmore : ∀ {ts us e f}, Reading .primary ts e → Reading level us f →
      Reading level (ts ++ Token.connective logic :: us) (.joined logic e f)) :
    ∀ (ps : List Predicate), ps ≠ [] →
      (∀ p ∈ ps, Reading .primary (Piece.tokens (p.pieces d)) (p.expr d)) →
        Reading level
          ([Token.connective logic].intercalate (ps.map fun p => Piece.tokens (p.pieces d)))
          (exprAll d logic ps) := by
  intro ps
  induction ps with
  | nil =>
    intro hne _
    exact absurd rfl hne
  | cons p ps ih =>
    intro _ h
    have hp := h p List.mem_cons_self
    cases ps with
    | nil =>
      rw [List.map_singleton, List.intercalate_singleton]
      exact hone hp
    | cons q qs =>
      have hrest := ih (by simp) fun r hr => h r (List.mem_cons_of_mem _ hr)
      rw [List.map_cons, List.map_cons, List.intercalate_cons_cons, List.append_assoc]
      exact hmore hp hrest

/-- **The text of a predicate** has the reading that its tree says. -/
theorem Formed.reading (d : Dialect) {rank : Rank} {p : Predicate} (h : Formed rank p) :
    Reading rank.level (Piece.tokens (p.pieces d)) (p.expr d) := by
  induction h with
  | leaf hp hq =>
    rw [tokens_leaf d hp hq, expr_of_column? d hp]
    exact .test (test_leafTokens d hp hq)
  | parens _ ih =>
    rw [tokens_parens]
    exact .brackets ih
  | @joined logic ps hne _ ih =>
    rw [tokens_joined]
    cases logic with
    | and => exact .term (reading_joined d .and .factor .and ps hne ih)
    | or =>
      -- a member is a conjunction of one
      exact reading_joined d .or (fun h => .term (.factor h)) (fun h => .or (.factor h)) ps hne ih

theorem tests_exprAll (d : Dialect) (logic : Logic) : ∀ (ps : List Predicate), ps ≠ [] →
    (exprAll d logic ps).tests = ps.flatMap fun p => (p.expr d).tests := by
  intro ps
  induction ps with
  | nil =>
    intro hne
    exact absurd rfl hne
  | cons p ps ih =>
    intro _
    cases ps with
    | nil =>
      rw [List.flatMap_cons, List.flatMap_nil, List.append_nil, exprAll]
    | cons q qs =>
      rw [exprAll, Expr.tests, ih (by simp)]
      rfl

/-- The tests that are read are those of the leaves. -/
theorem Formed.tests (d : Dialect) {rank : Rank} {p : Predicate} (h : Formed rank p) :
    (p.expr d).tests = p.leaves.map (leafTokens d) := by
  induction h with
  | leaf hp _ =>
    rw [expr_of_column? d hp, leaves_of_column? hp]
    rfl
  | parens _ ih => exact ih
  | @joined logic ps hne _ ih =>
    rw [expr, tests_exprAll d logic ps hne, leaves, leavesAll_eq_flatMap, List.map_flatMap]
    exact List.flatMap_congr ih

end Predicate

end CardStore.Sql
