/-
  CardStore.Proofs.Query.Columns
  ──────────────────────────────
  **EVERY PATH HAS A COLUMN ONCE ALL ARE RESOLVED.**

  Resolving maps each path of the filter and of the sort keys to a column, so
  composing the statement finds them all.  All that can still be wrong is a
  triple of the filter in itself.

  The statement is composed by two further passes, one over the filter and one
  over the sort keys, and both of them look paths up.  They find every one,
  however deep it stands in the filter, and also where paths of the model, of
  the filter and of the sort keys are the same.

  Main statements:
    * `Query.contains_of_resolveAll` — the paths that are resolved have columns.
    * `Query.exists_assemble_iff` — which statements can be composed then.
    * `Triple.objects_iff_faulty` — a triple whose path has a column is refused for itself only.
    * `Query.assemble_eq_error_iff` — what a composition is refused for.
    * `Query.finds_all_of_run_resolveAll` — no look-up fails behind the resolved paths.
-/
import CardStore.Proofs.Filter.Objection
import CardStore.Proofs.Query.Compile
import CardStore.Proofs.Query.Shared

namespace CardStore

theorem ColumnMap.contains_insert {columns : ColumnMap} {path other : String} {column : Column} :
    (columns.insert path column).contains other = true
      ↔ other = path ∨ columns.contains other = true := by
  rw [contains_iff, contains_iff, get_insert]
  by_cases h : other = path
  · rw [if_pos h]
    exact ⟨fun _ => .inl h, fun _ => ⟨column, rfl⟩⟩
  · rw [if_neg h]
    exact ⟨.inr, fun hc => hc.resolve_left h⟩

namespace Query

/-! ## §1. Columns. -/

/-- Paths that are resolved have columns, and those that had one keep it. -/
theorem contains_of_resolveMore : ∀ {paths : List String} {columns columns' : ColumnMap}
    {t t' : Tables}, (resolveMore paths columns t).run.Yields (.ok (columns', t')) →
      ∀ path, path ∈ paths ∨ columns.contains path = true → columns'.contains path = true := by
  intro paths
  induction paths with
  | nil =>
    intro columns columns' t t' h path hpath
    have hpair : (columns, t) = (columns', t') := Except.ok.inj (Script.yields_done_iff.1 h)
    rw [← (Prod.mk.inj hpair).1]
    exact hpath.resolve_left List.not_mem_nil
  | cons first paths ih =>
    intro columns columns' t t' h path hpath
    rw [List.mem_cons, or_assoc] at hpath
    rw [resolveMore] at h
    split at h
    -- a path that has a column already is passed over
    · rename_i hfirst
      refine ih h path ?_
      rcases hpath with rfl | hpath
      · exact .inr hfirst
      · exact hpath
    · obtain ⟨⟨ref, t''⟩, _, h⟩ := Script.yields_bind_ok_iff.1 h
      refine ih h path ?_
      rcases hpath with rfl | hpath | hpath
      · exact .inr (ColumnMap.contains_insert.2 (.inl rfl))
      · exact .inl hpath
      · exact .inr (ColumnMap.contains_insert.2 (.inr hpath))

/-- **The paths that are resolved** have columns. -/
theorem contains_of_resolveAll {card : SoundCard} {model paths : List String} {r : Resolved}
    (h : (resolveAll card model paths).run.Yields (.ok r)) :
    ∀ path ∈ paths, ∃ column, r.columns.get path = .ok column := by
  intro path hpath
  obtain ⟨⟨selected, t⟩, _, h⟩ := Script.yields_bind_ok_iff.1 h
  obtain ⟨⟨columns, t'⟩, hmore, h⟩ := Script.yields_bind_ok_iff.1 h
  obtain rfl := Except.ok.inj (Script.yields_done_iff.1 h)
  exact (ColumnMap.contains_iff _ _).1 (contains_of_resolveMore hmore path (.inl hpath))

theorem exists_orderColumns_iff {columns : ColumnMap} : ∀ {order : Order},
    (∃ keys, orderColumns columns order = .ok keys)
      ↔ ∀ key ∈ order, ∃ column, columns.get key.1 = .ok column := by
  intro order
  induction order with
  | nil => exact ⟨fun _ => nofun, fun _ => ⟨[], rfl⟩⟩
  | cons key order ih =>
    rw [List.forall_mem_cons, ← ih, orderColumns]
    constructor
    · rintro ⟨keys, h⟩
      obtain ⟨column, hcolumn, h⟩ := bind_eq_ok_iff.1 h
      obtain ⟨rest, hrest, _⟩ := bind_eq_ok_iff.1 h
      exact ⟨⟨column, hcolumn⟩, rest, hrest⟩
    · rintro ⟨⟨column, hcolumn⟩, rest, hrest⟩
      exact ⟨_, bind_eq_ok_iff.2 ⟨column, hcolumn, bind_eq_ok_iff.2 ⟨rest, hrest, rfl⟩⟩⟩

/-! ## §2. Statements. -/

/-- The paths of the triples of a query are among its paths. -/
theorem path_mem_paths {options : QueryOptions} {t : Triple}
    (h : t ∈ Filter.allTriples options.filter) : t.path ∈ options.paths := by
  refine List.mem_append_left _ ?_
  cases hf : options.filter with
  | none =>
    rw [hf] at h
    cases h
  | some f =>
    have hall : Filter.allTriples (some f) = f.triples := List.append_nil _
    rw [hf, hall] at h
    exact List.mem_map_of_mem h

/-- So the paths of the filter and of the sort keys have columns. -/
theorem columns_of_resolveAll {card : SoundCard} {model : List String} {options : QueryOptions}
    {r : Resolved} (h : (resolveAll card model options.paths).run.Yields (.ok r)) :
    (∀ t ∈ Filter.allTriples options.filter, ∃ column, r.columns.get t.path = .ok column)
      ∧ ∀ key ∈ options.order, ∃ column, r.columns.get key.1 = .ok column :=
  ⟨fun t ht => contains_of_resolveAll h t.path (path_mem_paths ht),
    fun key hkey => contains_of_resolveAll h key.1
      (List.mem_append_right _ (List.mem_map_of_mem hkey))⟩

/-- **Which statements can be composed** once all paths are resolved: those of filters whose triples
are well formed. -/
theorem exists_assemble_iff {card : SoundCard} {model : List String} {options : QueryOptions}
    {r : Resolved} (h : (resolveAll card model options.paths).run.Yields (.ok r)) :
    (∃ q, r.assemble options = .ok q) ↔ ∀ t ∈ Filter.allTriples options.filter, t.WellFormed := by
  obtain ⟨hfilter, hkeys⟩ := columns_of_resolveAll h
  constructor
  · rintro ⟨q, hq⟩ t ht
    obtain ⟨condition, order, hcondition, _, _⟩ := Resolved.assemble_eq_ok_iff.1 hq
    exact (Triple.exists_predicate_iff.1
      (Filter.exists_condition_iff.1 ⟨condition, hcondition⟩ t ht)).1
  · intro hwell
    have hcondition : ∃ p, Filter.condition r.columns options.filter = .ok p :=
      Filter.exists_condition_iff.2 fun t ht =>
        Triple.exists_predicate_iff.2 ⟨hwell t ht, hfilter t ht⟩
    obtain ⟨condition, hcondition⟩ := hcondition
    obtain ⟨order, horder⟩ := exists_orderColumns_iff.2 hkeys
    exact ⟨_, Resolved.assemble_eq_ok_iff.2 ⟨condition, order, hcondition, horder, rfl⟩⟩

end Query

/-! ## §3. Failures. -/

section

variable {ε α β : Type} {x : Except ε α} {e : ε}

/-- What is made of a result is no matter of the failures. -/
theorem map_eq_error_iff {f : α → β} : x.map f = .error e ↔ x = .error e := by
  cases x with
  | ok a => exact ⟨nofun, nofun⟩
  | error e' =>
    show Except.error e' = Except.error e ↔ Except.error e' = Except.error e
    simp only [Except.error.injEq]

/-- Two steps fail as the first one does if the second cannot fail. -/
theorem bind_eq_error_iff_of_ok {f : α → Except ε β} (hf : ∀ a, ∃ b, f a = .ok b) :
    x >>= f = .error e ↔ x = .error e := by
  cases x with
  | ok a =>
    obtain ⟨b, hb⟩ := hf a
    show f a = .error e ↔ _
    rw [hb]
    exact ⟨nofun, nofun⟩
  | error e' =>
    show Except.error e' = Except.error e ↔ Except.error e' = Except.error e
    simp only [Except.error.injEq]

end

/-! ## §4. Triples. -/

namespace Triple

/-- **What is wrong with a triple in itself**: its operator is not supported, or does not take its
operand. -/
inductive Faulty (t : Triple) : Error → Prop where
  | operator : Operator.parse? t.operator = none → Faulty t (.unsupportedOperator t.operator)
  | operand {op : Operator} : Operator.parse? t.operator = some op → ¬ op.Takes t.operand →
    Faulty t (.invalidArgument (op.symbol ++ " on '" ++ t.path ++ "' needs " ++ op.needed))

theorem Faulty.unsupported_or_invalid {t : Triple} {e : Error} (h : t.Faulty e) :
    (∃ operator, e = .unsupportedOperator operator) ∨ ∃ message, e = .invalidArgument message := by
  cases h with
  | operator _ => exact .inl ⟨_, rfl⟩
  | operand _ _ => exact .inr ⟨_, rfl⟩

variable {columns : ColumnMap} {t : Triple}

/-- A triple whose path has a column is compiled exactly if it is well formed. -/
theorem fits_iff_wellFormed (h : ∃ column, columns.get t.path = .ok column) :
    t.Fits columns ↔ t.WellFormed := by
  rw [fits_iff, exists_predicate_iff]
  exact ⟨fun hfits => hfits.1, fun hwell => ⟨hwell, h⟩⟩

/-- **A triple whose path has a column** is refused for what is wrong with it in itself. -/
theorem objects_iff_faulty (h : ∃ column, columns.get t.path = .ok column) {e : Error} :
    t.Objects columns e ↔ t.Faulty e := by
  have hcontains := (columns.contains_iff t.path).2 h
  constructor
  · intro hobjects
    cases hobjects with
    | operator hop => exact .operator hop
    | path _ hmissing =>
      rw [hcontains] at hmissing
      cases hmissing
    | operand hop _ htakes => exact .operand hop htakes
  · intro hfaulty
    cases hfaulty with
    | operator hop => exact .operator hop
    | operand hop htakes => exact .operand hop hcontains htakes

end Triple

/-! ## §5. Filters. -/

namespace Filter

variable {columns : ColumnMap}

theorem map_condition (filter : Option Filter) :
    (condition columns filter).map (fun _ => ()) = examine columns (allTriples filter) := by
  cases filter with
  | none => rfl
  | some f =>
    have hall : allTriples (some f) = f.triples := List.append_nil _
    rw [hall]
    exact map_predicate f

/-- A filter all of whose paths have columns is refused for the first of its triples that is
wrong. -/
theorem condition_eq_error_iff {filter : Option Filter} {e : Error}
    (h : ∀ t ∈ allTriples filter, ∃ column, columns.get t.path = .ok column) :
    condition columns filter = .error e ↔ ∃ front t behind,
      allTriples filter = front ++ t :: behind ∧ (∀ u ∈ front, u.WellFormed) ∧ t.Faulty e := by
  rw [← map_eq_error_iff, map_condition, examine_eq_error_iff]
  -- every triple of the filter has a column, whichever part of the list it stands in
  have hcolumn {front behind : List Triple} {t : Triple}
      (hsplit : allTriples filter = front ++ t :: behind) :
      (∀ u ∈ front, u.Fits columns ↔ u.WellFormed) ∧ (t.Objects columns e ↔ t.Faulty e) := by
    rw [hsplit, List.forall_mem_append, List.forall_mem_cons] at h
    exact ⟨fun u hu => Triple.fits_iff_wellFormed (h.1 u hu), Triple.objects_iff_faulty h.2.1⟩
  constructor
  · rintro ⟨front, t, behind, hsplit, hfront, ht⟩
    exact ⟨front, t, behind, hsplit, fun u hu => ((hcolumn hsplit).1 u hu).1 (hfront u hu),
      (hcolumn hsplit).2.1 ht⟩
  · rintro ⟨front, t, behind, hsplit, hfront, ht⟩
    exact ⟨front, t, behind, hsplit, fun u hu => ((hcolumn hsplit).1 u hu).2 (hfront u hu),
      (hcolumn hsplit).2.2 ht⟩

end Filter

/-! ## §6. What a statement is refused for. -/

namespace Query

/-- The sort keys cannot be at fault, so a composition is refused for its filter. -/
theorem Resolved.assemble_eq_error_iff {r : Resolved} {options : QueryOptions} {e : Error}
    (horder : ∃ keys, orderColumns r.columns options.order = .ok keys) :
    r.assemble options = .error e ↔ Filter.condition r.columns options.filter = .error e := by
  obtain ⟨keys, hkeys⟩ := horder
  refine bind_eq_error_iff_of_ok fun condition => ?_
  rw [hkeys]
  exact ⟨_, rfl⟩

/-- **What a composition is refused for** once all paths are resolved: the first triple from left
to right that is wrong in itself. -/
theorem assemble_eq_error_iff {card : SoundCard} {model : List String} {options : QueryOptions}
    {r : Resolved} {e : Error}
    (h : (resolveAll card model options.paths).run.Yields (.ok r)) :
    r.assemble options = .error e ↔ ∃ front t behind,
      Filter.allTriples options.filter = front ++ t :: behind ∧ (∀ u ∈ front, u.WellFormed)
        ∧ t.Faulty e := by
  obtain ⟨hfilter, horder⟩ := columns_of_resolveAll h
  rw [Resolved.assemble_eq_error_iff (exists_orderColumns_iff.2 horder),
    Filter.condition_eq_error_iff hfilter]

variable {σ : Type}

/-- **No look-up fails behind the resolved paths.** Take any backend, card, model and query whose
paths are resolved, whatever cards the store answers on the way.  Then every path that the filter
or the sort keys look up has a column.  So in each dialect the query is refused exactly if a triple
of the filter is wrong in itself, and for the first one from left to right: for an operator that is
not supported, or for an operand that its operator does not take, and for nothing else. -/
theorem finds_all_of_run_resolveAll (b : Backend σ) (c : Context σ) (card : SoundCard)
    (model : List String) (options : QueryOptions) (d : Sql.Dialect) (r : Resolved)
    (h : ((Cards.withLoads b (resolveAll card model options.paths)).run c).1 = .ok r) :
    (∀ t ∈ Filter.allTriples options.filter, ∃ column, r.columns.get t.path = .ok column)
      ∧ (∀ key ∈ options.order, ∃ column, r.columns.get key.1 = .ok column)
      ∧ (∀ e, ((Cards.withLoads b (compile card model options)).run c).1.map
            (fun q => (q.text d, q.params)) = .error e
          ↔ ∃ front t behind, Filter.allTriples options.filter = front ++ t :: behind
            ∧ (∀ u ∈ front, u.WellFormed) ∧ t.Faulty e)
      ∧ ∀ e, ((Cards.withLoads b (compile card model options)).run c).1.map
            (fun q => (q.text d, q.params)) = .error e →
          (∃ operator, e = .unsupportedOperator operator)
            ∨ ∃ message, e = .invalidArgument message := by
  have hyields := Script.yields_of_run h
  obtain ⟨hfilter, horder⟩ := columns_of_resolveAll hyields
  have hcompile : ((Cards.withLoads b (compile card model options)).run c).1
      = r.assemble options := by
    rw [run_compile, h]
    rfl
  have hrefused (e : Error) : ((Cards.withLoads b (compile card model options)).run c).1.map
        (fun q => (q.text d, q.params)) = .error e
      ↔ ∃ front t behind, Filter.allTriples options.filter = front ++ t :: behind
        ∧ (∀ u ∈ front, u.WellFormed) ∧ t.Faulty e := by
    rw [hcompile, map_eq_error_iff, assemble_eq_error_iff hyields]
  refine ⟨hfilter, horder, hrefused, fun e he => ?_⟩
  obtain ⟨_, _, _, _, _, hfaulty⟩ := (hrefused e).1 he
  exact hfaulty.unsupported_or_invalid

end Query

/-! ## §7. People of a range with one bound. -/

/-- People from one name on, one bound missing, by the department, of which the head is asked for
as well. -/
def fromOneBound : QueryOptions :=
  { QueryOptions.unrestricted with
    filter := some (.group .or [.triple ⟨"department.head.name", "=", .string "Li"⟩,
      .nested (.group .and [.triple ⟨"name", "between", .array [.string "A"]⟩])])
    order := [("department.name", .ascending), ("name", .descending)] }

/-- All paths have columns, some of them from the model, and the range is refused all the same. -/
theorem finds_all_fromOneBound :
    ∃ r, ((Cards.withLoads .unreachable (Query.resolveAll personCard
        ["name", "department.head.name"] fromOneBound.paths)).run staffContext).1 = .ok r
      ∧ r.columns.size = 4
      ∧ ((Cards.withLoads .unreachable (Query.compile personCard ["name", "department.head.name"]
          fromOneBound)).run staffContext).1.map (fun q => (q.text .mysql, q.params))
        = .error (.invalidArgument "BETWEEN on 'name' needs a two-element array operand") := by
  have hok : (((Cards.withLoads .unreachable (Query.resolveAll personCard
      ["name", "department.head.name"] fromOneBound.paths)).run staffContext).1.toOption.map
        fun r => r.columns.size) = some 4 := by decide +kernel
  obtain ⟨r, c', hrun, hsize⟩ := Action.exists_run_of_map hok
  have hanswer := congrArg Prod.fst hrun
  have hrefused := (Query.finds_all_of_run_resolveAll .unreachable staffContext personCard
    ["name", "department.head.name"] fromOneBound .mysql r hanswer).2.2.1
  refine ⟨r, hanswer, hsize, (hrefused _).2 ⟨[⟨"department.head.name", "=", .string "Li"⟩],
    ⟨"name", "between", .array [.string "A"]⟩, [], rfl, ?_, ?_⟩⟩
  · rw [List.forall_mem_singleton]
    exact ⟨.compare .eq, by decide, trivial⟩
  · have hop : Operator.parse? "between" = some (.between false) := by decide
    have htakes : ¬ (Operator.between false).Takes (.array [.string "A"]) := by
      rintro ⟨low, high, hitems⟩
      cases hitems
    exact @Triple.Faulty.operand ⟨"name", "between", .array [.string "A"]⟩ _ hop htakes

end CardStore
