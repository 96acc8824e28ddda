/-
  CardStore.Proofs.Query.Patterns
  ───────────────────────────────
  **PATTERNS OF QUERIES.**

  A triple that looks for a text binds no parameter: the text stands in a
  literal of the statement.  Three readers come upon it.  Either backend reads
  literals by its own rules, and a renderer counts quotes.  Whatever operand
  the triple has, all of them find the end of the literal where it is.

      operand    a\'b?
      MySQL      T0.MC LIKE '%a\\''b?%'   denotes   %a\'b?%
      Oracle     T0.MC LIKE '%a\''b?%'    denotes   %a\'b?%

  Main statements:
    * `Triple.predicate_of_like` — what such a triple compiles to.
    * `Query.exists_literal_of_run_compile` — its literal in a compiled query.
    * `Sql.Dialect.escape_inverted` — escaping is inverted by reading.
-/
import CardStore.Proofs.Query.Slots
import CardStore.Proofs.Sql.Literal

namespace CardStore

open Sql (Dialect Piece Predicate quote)

/-! ## §1. Triples that look for a text. -/

/-- Such a triple compiles to a test for a pattern, whatever its operand is. -/
theorem Triple.predicate_of_like {t : Triple} {negated : Bool} {columns : ColumnMap}
    {column : Column} (hop : Operator.parse? t.operator = some (.like negated))
    (hcolumn : columns.get t.path = .ok column) :
    t.predicate columns = .ok (.like column.text negated t.operand.display) :=
  predicate_eq_ok_iff.2 ⟨_, column, hop, hcolumn, rfl⟩

/-- A test for a pattern ends with its literal. -/
theorem Sql.Predicate.text_like (d : Dialect) (column : String) (negated : Bool)
    (pattern : String) :
    (Predicate.like column negated pattern).text d
      = column ++ " " ++ (Operator.like negated).symbol ++ " " ++ d.patternLiteral pattern := by
  have hopen : " '%" = " " ++ "'%" := by decide
  rw [text, Dialect.patternLiteral, hopen]
  simp only [String.append_assoc]

/-- The pieces of a leaf lie among those of the text. -/
theorem Sql.Predicate.Strewn.exists_pieces {d : Dialect} {qs : List Predicate} {ps : List Piece}
    (h : Strewn d qs ps) {q : Predicate} (hq : q ∈ qs) :
    ∃ before behind, ps = before ++ (q.pieces d ++ behind) := by
  induction h with
  | glue _ => exact absurd hq List.not_mem_nil
  | @leaf glue ps q' qs _ _ ih =>
    rcases List.mem_cons.1 hq with rfl | hq
    · exact ⟨glue, ps, rfl⟩
    · obtain ⟨before, behind, rfl⟩ := ih hq
      exact ⟨glue ++ (q'.pieces d ++ before), behind, by simp only [List.append_assoc]⟩

/-- The leaf of a triple. -/
theorem Filter.exists_leaf_of_triple {columns : ColumnMap} {ts : List Triple}
    {qs : List Predicate} (h : List.Forall₂ (Compiles columns) ts qs) {t : Triple} (ht : t ∈ ts) :
    ∃ q ∈ qs, t.predicate columns = .ok q := by
  induction h with
  | nil => exact absurd ht List.not_mem_nil
  | @cons t' q' ts qs hq _ ih =>
    rcases List.mem_cons.1 ht with rfl | ht
    · exact ⟨q', List.mem_cons_self, hq⟩
    · obtain ⟨q, hmem, hpredicate⟩ := ih ht
      exact ⟨q, List.mem_cons_of_mem _ hmem, hpredicate⟩

/-! ## §2. Patterns of compiled queries. -/

/-- **The literal of a triple that looks for a text**, in the statement that a compilation composes:
the backend reads it as the operand's text with a percent sign on either side, and rendering copies
it. -/
theorem Query.exists_literal_of_run_compile {σ : Type} {b : Backend σ} {c c' : Context σ}
    {card : SoundCard} {model : List String} {options : QueryOptions} {q : CompiledQuery}
    (h : (Cards.withLoads b (compile card model options)).run c = (.ok q, c')) (d : Dialect)
    {t : Triple} (ht : t ∈ Filter.allTriples options.filter) {negated : Bool}
    (hop : Operator.parse? t.operator = some (.like negated)) :
    ∃ before behind, d.LiteralAt (q.text d) (d.patternLiteral t.operand.display)
      ('%' :: (t.operand.display.toList ++ ['%'])) before behind := by
  obtain ⟨r, hr, hq⟩ := named_of_run_compile h
  have hnamed := hr.select hq
  obtain ⟨condition, order, hcondition, _, hselect⟩ := Resolved.assemble_eq_ok_iff.1 hq
  -- the predicate of the triple is a leaf of the condition
  obtain ⟨leaf, hleaf, hpredicate⟩ :=
    Filter.exists_leaf_of_triple (Filter.leaves_of_condition hcondition) ht
  obtain ⟨op, column, hop', hcolumn, _⟩ := Triple.predicate_eq_ok_iff.1 hpredicate
  rw [Triple.predicate_of_like hop hcolumn, Except.ok.injEq] at hpredicate
  have hq' : q.select.condition = condition := by rw [← hselect]
  obtain ⟨before, behind, hpieces⟩ := (hnamed.strewn d).exists_pieces (hq' ▸ hleaf)
  -- of the leaf's pieces the last one is the literal
  rw [← hpredicate, Predicate.pieces, List.append_assoc, ← List.append_assoc before] at hpieces
  have hown := (hnamed.clean (d := d) (Or.inl rfl)).read
  have hquotes := (hnamed.clean (d := d) (Or.inr rfl)).read
  rw [hpieces] at hown hquotes
  exact ⟨_, behind, Dialect.literalAt_of_read hown hquotes⟩

/-- **Escaping is inverted by reading.**  An escaped text between quotes is read back by the rules
of its backend, and what follows is left.  So the literal of a triple that looks for a text denotes
the display text of its operand with a percent sign on either side, and rendering a statement copies
the literal. -/
theorem Sql.Dialect.escape_inverted (d : Dialect) :
    (∀ (s : String) (rest : List Char), rest.head? ≠ some quote →
      d.readLiteral? (quote :: ((d.escape s).toList ++ quote :: rest)) = some (s.toList, rest))
    ∧ (∀ (columns : ColumnMap) (t : Triple) (negated : Bool) (column : Column),
      Operator.parse? t.operator = some (.like negated) → columns.get t.path = .ok column →
      ∃ p, t.predicate columns = .ok p ∧ p.params = []
        ∧ p.text d = column.text ++ " " ++ (Operator.like negated).symbol ++ " "
          ++ d.patternLiteral t.operand.display
        ∧ ∀ rest : List Char, rest.head? ≠ some quote →
          d.readLiteral? ((d.patternLiteral t.operand.display).toList ++ rest)
            = some ('%' :: (t.operand.display.toList ++ ['%']), rest))
    ∧ ∀ (σ : Type) (b : Backend σ) (c c' : Context σ) (card : SoundCard) (model : List String)
      (options : QueryOptions) (q : CompiledQuery),
      (Cards.withLoads b (Query.compile card model options)).run c = (.ok q, c') →
      ∀ t ∈ Filter.allTriples options.filter, ∀ negated,
        Operator.parse? t.operator = some (.like negated) →
        ∃ before behind, d.LiteralAt (q.text d) (d.patternLiteral t.operand.display)
          ('%' :: (t.operand.display.toList ++ ['%'])) before behind := by
  refine ⟨?_, ?_, ?_⟩
  · intro s rest hrest
    rw [escape, String.toList_ofList]
    exact d.readLiteral?_escape s.toList hrest
  · intro columns t negated column hop hcolumn
    exact ⟨_, Triple.predicate_of_like hop hcolumn, rfl, Predicate.text_like d _ _ _,
      fun rest => d.readLiteral?_patternLiteral t.operand.display⟩
  · intro σ b c c' card model options q hrun t ht negated hop
    exact Query.exists_literal_of_run_compile hrun d ht hop

/-- An operand with a backslash, a quote and a question mark at its end, in a query of people. -/
theorem escape_inverted_namedOrAged :
    Dialect.mysql.readLiteral? (quote :: ((Dialect.mysql.escape "a\\'?").toList
        ++ quote :: " AND".toList)) = some ("a\\'?".toList, " AND".toList)
      ∧ ∃ q c', (Cards.withLoads .unreachable
          (Query.compile peopleCard ["name"] (namedOrAged "a\\'?" 18 65))).run
            (Context.ofBackend () default) = (.ok q, c')
        ∧ ∃ before behind, Dialect.mysql.LiteralAt (q.text .mysql)
          (Dialect.mysql.patternLiteral "a\\'?") "%a\\'?%".toList before behind := by
  refine ⟨Dialect.mysql.escape_inverted.1 "a\\'?" " AND".toList (by decide), ?_⟩
  have hok : ((Cards.withLoads .unreachable
      (Query.compile peopleCard ["name"] (namedOrAged "a\\'?" 18 65))).run
        (Context.ofBackend () default)).1.isOk = true := by decide +kernel
  cases hrun : (Cards.withLoads .unreachable
      (Query.compile peopleCard ["name"] (namedOrAged "a\\'?" 18 65))).run
        (Context.ofBackend () default) with
  | mk answer c' =>
    rw [hrun] at hok
    cases answer with
    | error e => cases hok
    | ok q =>
      have hliteral := Dialect.mysql.escape_inverted.2.2 Unit .unreachable _ c' peopleCard ["name"]
        (namedOrAged "a\\'?" 18 65) q hrun ⟨"name", "like", .string "a\\'?"⟩ List.mem_cons_self
        false (by decide)
      exact ⟨q, c', rfl, hliteral⟩

end CardStore
