/-
  CardStore.Proofs.Query.Slots
  ────────────────────────────
  **BIND SLOTS AND PARAMETERS OF A QUERY.**

  The text and the parameters of a query are two readings of one tree, and a
  backend binds by position.  Here the two meet again in the text: counted
  from the left outside of literals, the slots are as many as the parameters,
  and each slot stands in the predicate of the triple that supplies its
  parameter.

  Main statement:
    * `slotsLineUp_of_run_compile` — slots and parameters of a compiled query line up.
-/
import CardStore.Proofs.Query.Compile

namespace CardStore

open Sql (Dialect)
open Sql.Piece (slotCount numbered)

/-! ## §1. Parameters of triples. -/

/-- The parameters of the leaves are what the triples bind. -/
theorem flatMap_params_of_compiles {columns : ColumnMap} {ts : List Triple}
    {qs : List Sql.Predicate} (h : List.Forall₂ (Filter.Compiles columns) ts qs) :
    qs.flatMap Sql.Predicate.params = ts.flatMap Triple.boundOperands := by
  induction h with
  | nil => rfl
  | cons hq _ ih =>
    rw [List.flatMap_cons, List.flatMap_cons, ih, Triple.params_of_predicate hq]

/-! ## §2. Slots. -/

/-- **Slots and parameters line up** in the text of a query, `ps` being what it is read as. -/
structure CompiledQuery.SlotsLineUp (q : CompiledQuery) (options : QueryOptions) (d : Dialect)
    (ps : List Sql.Piece) : Prop where
  /-- The text is read as these pieces by the literal rules of its own dialect. -/
  read : d.read? (q.text d) = some ps
  /-- It is read as the same pieces where quotes are all that counts. -/
  readByQuotes : Dialect.oracle.read? (q.text d) = some ps
  /-- There are as many slots outside of literals as parameters. -/
  count : slotCount ps = q.params.length
  /-- One renderer writes the numbers from 1 on in their places, and nothing else. -/
  renderOracle : Dialect.oracle.render (q.text d)
    = String.ofList (numbered (fun n => (":" ++ Text.ofNat n).toList) 0 ps)
  /-- The other one writes the text as it is. -/
  renderMySql : Dialect.mysql.render (q.text d) = q.text d
  /-- The parameters are what the triples bind, from left to right. -/
  params : q.params = (Filter.allTriples options.filter).flatMap Triple.boundOperands
  /-- Every parameter is one that a triple binds, and its slot stands in the predicate of this
  triple, at the same position as the parameter among those that the triple binds. -/
  supplied : ∃ columns, Filter.condition columns options.filter = .ok q.select.condition ∧
    ∀ k v, q.params[k]? = some v → ∃ earlier t later p before own behind i,
      Filter.allTriples options.filter = earlier ++ t :: later
        ∧ t.predicate columns = .ok p
        ∧ d.read? (p.text d) = some own
        ∧ ps = before ++ own ++ behind
        ∧ slotCount before = (earlier.flatMap Triple.boundOperands).length
        ∧ slotCount own = t.boundOperands.length
        ∧ k = slotCount before + i
        ∧ t.boundOperands[i]? = some v

namespace Query

variable {σ : Type}

theorem slotsLineUp_of_assemble {r : Resolved} (hr : r.Named) {options : QueryOptions}
    {q : CompiledQuery} (h : r.assemble options = .ok q) (d : Dialect) :
    q.SlotsLineUp options d (q.select.pieces d) := by
  have hnamed := hr.select h
  obtain ⟨condition, order, hcondition, _, hq⟩ := Resolved.assemble_eq_ok_iff.1 h
  have hselect : q.select.condition = condition := by rw [← hq]
  rw [← hselect] at hcondition
  have hleaves := Filter.leaves_of_condition hcondition
  have hare : Sql.Predicate.AreLeaves
      (q.select.condition.toList.flatMap Sql.Predicate.leaves) := by
    intro p hp
    obtain ⟨root, hroot, hp⟩ := List.mem_flatMap.1 hp
    exact (hnamed.condition root (Option.mem_toList.1 hroot)).areLeaves p hp
  have hparams : q.params
      = (q.select.condition.toList.flatMap Sql.Predicate.leaves).flatMap Sql.Predicate.params := by
    show Sql.Select.params _ = _
    rw [Sql.Select.params]
    cases q.select.condition with
    | none => rfl
    | some p =>
      show p.params = (p.leaves ++ []).flatMap _
      rw [List.append_nil, Sql.Predicate.params_eq_flatMap_leaves]
  -- the text is read twice, and as the same pieces: by its own rules and as renderers see it
  have hown := hnamed.clean (d := d) (Or.inl rfl)
  have hquotes := hnamed.clean (d := d) (Or.inr rfl)
  have hstrewn := hnamed.strewn d
  constructor
  · exact hown.read
  · exact hquotes.read
  · rw [hparams]
    exact hstrewn.slotCount_eq hare
  · exact Dialect.oracle.render_eq_numbered hquotes.read hquotes.quiet.callFree
  · exact Dialect.render_mysql hquotes.read hquotes.quiet.callFree
  · rw [hparams]
    exact flatMap_params_of_compiles hleaves
  · refine ⟨r.columns, hcondition, ?_⟩
    intro k v hk
    rw [hparams] at hk
    -- the parameter lies in a leaf, and the leaf is the predicate of a triple
    obtain ⟨earlier, p, later, before, behind, i, hsplit, hps, hbefore, hk, hi⟩ :=
      hstrewn.exists_slot hare hk
    rw [hsplit] at hleaves hare
    obtain ⟨ts₁, t, ts₂, hts, ht, hfront⟩ := Filter.exists_triple_of_leaf hleaves
    obtain ⟨column, hcolumn, hqualified⟩ := hare p (by simp)
    refine ⟨ts₁, t, ts₂, p, before, p.pieces d, behind, i, hts, ht, ?_, hps, ?_, ?_, hk, ?_⟩
    · exact (Sql.Predicate.clean_leaf (Or.inl rfl) hcolumn hqualified).read
    · rw [hbefore, flatMap_params_of_compiles hfront]
    · rw [Sql.Predicate.slotCount_pieces_leaf d hcolumn hqualified, Triple.params_of_predicate ht]
    · rw [← Triple.params_of_predicate ht]
      exact hi

/-- **Slots and parameters of a compiled query line up**, whatever cards the store answers on the
way, in the text of either dialect. -/
theorem slotsLineUp_of_run_compile (b : Backend σ) (c c' : Context σ) (card : SoundCard)
    (model : List String) (options : QueryOptions) (q : CompiledQuery)
    (h : (Cards.withLoads b (compile card model options)).run c = (.ok q, c')) (d : Dialect) :
    ∃ ps, q.SlotsLineUp options d ps := by
  obtain ⟨r, hr, hq⟩ := named_of_run_compile h
  exact ⟨q.select.pieces d, slotsLineUp_of_assemble hr hq d⟩

end Query

/-! ## §3. A query of people. -/

/-- A backend that nobody reaches. -/
def Backend.unreachable : Backend Unit where
  connect _ s := (.error (.configuration "unreachable"), s)
  query _ _ _ _ s := (.error (.configuration "unreachable"), s)
  execute _ _ _ _ s := (.error (.configuration "unreachable"), s)
  begin _ s := (.error (.configuration "unreachable"), s)
  commit _ s := (.error (.configuration "unreachable"), s)
  rollback _ s := (.error (.configuration "unreachable"), s)
  isValid _ s := (false, s)
  close _ s := (.ok (), s)

/-- People with a name and an age. -/
def peopleCard : SoundCard :=
  ⟨((Card.ofTable "people" "PEOPLE").withField "name" "MC" "Text").withField "age" "AGE" "Integer",
    by decide +kernel⟩

/-- People whose name contains a text, or whose age lies between two bounds. -/
def namedOrAged (name : String) (low high : Int64) : QueryOptions :=
  { QueryOptions.unrestricted with
    filter := some (.group .or [.triple ⟨"name", "like", .string name⟩,
      .triple ⟨"age", "between", .array [.int low, .int high]⟩]) }

/-- A question mark and a quote in a pattern do not shift the bounds. -/
theorem slotsLineUp_namedOrAged :
    ∃ q c', (Cards.withLoads .unreachable
        (Query.compile peopleCard ["name"] (namedOrAged "a?'" 18 65))).run
          (Context.ofBackend () default) = (.ok q, c')
      ∧ ∃ ps, q.SlotsLineUp (namedOrAged "a?'" 18 65) .mysql ps := by
  have hok : ((Cards.withLoads .unreachable
      (Query.compile peopleCard ["name"] (namedOrAged "a?'" 18 65))).run
        (Context.ofBackend () default)).1.isOk = true := by decide +kernel
  cases hrun : (Cards.withLoads .unreachable
      (Query.compile peopleCard ["name"] (namedOrAged "a?'" 18 65))).run
        (Context.ofBackend () default) with
  | mk answer c' =>
    rw [hrun] at hok
    cases answer with
    | error e => cases hok
    | ok q =>
      exact ⟨q, c', rfl, Query.slotsLineUp_of_run_compile .unreachable _ c' peopleCard ["name"]
        (namedOrAged "a?'" 18 65) q hrun .mysql⟩

end CardStore
