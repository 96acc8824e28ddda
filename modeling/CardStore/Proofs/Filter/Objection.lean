/-
  CardStore.Proofs.Filter.Objection
  ─────────────────────────────────
  **WHICH FILTERS COMPILE, AND WHAT THE OTHERS ARE REFUSED FOR.**

  A filter compiles as far as its triples do: they are taken from left to
  right, however deep they stand in the tree, and the first one that has no
  predicate is where compiling ends.  Groups and nesting neither add a failure
  nor hide one.

  A triple is refused for its operator, for its path or for its operand, and
  for the first of these three that is wrong.  A filter is refused if one of
  its triples is, with the words for the first one from left to right.  A
  filter without triples has no predicate at all.

      age = 3, (size ~ 1, age IN 4), tall = 2     refused for ~
                    ↑          ↑        ↑         where `tall` has no column

  Main statements:
    * `Triple.exists_predicate_iff` — which triples have a predicate.
    * `Filter.map_predicate` — a filter fails as the list of its triples does.
    * `Filter.exists_condition_iff` — which filters compile.
    * `Triple.predicate_eq_error_iff` — what a triple is refused for.
    * `Filter.examine_eq_error_iff` — a list of triples is refused for the first one that is.
    * `Filter.predicate_eq_none_iff` — which filters have no predicate.
    * `Filter.compiles_or_objects` — which filters compile, and what the others are refused for.
-/
import CardStore.Proofs.Filter.Compile

namespace CardStore

open Sql (Predicate Dialect)

/-! ## §1. Triples that have a predicate. -/

/-- The operands that an operator takes: a list for membership, two bounds for a range, and anything
else for all other operators. -/
def Operator.Takes (op : Operator) (operand : Value) : Prop :=
  match op with
  | .isIn _ => ∃ items, operand.items? = some items
  | .between _ => ∃ low high, operand.items? = some [low, high]
  | _ => True

theorem Triple.exists_predicateOf_iff {t : Triple} {op : Operator} {column : String} :
    (∃ p, t.predicateOf op column = .ok p) ↔ op.Takes t.operand := by
  cases op with
  | compare c => exact ⟨fun _ => trivial, fun _ => ⟨_, rfl⟩⟩
  | is => exact ⟨fun _ => trivial, fun _ => ⟨_, rfl⟩⟩
  | like negated => exact ⟨fun _ => trivial, fun _ => ⟨_, rfl⟩⟩
  | isIn negated =>
    show (∃ p, t.predicateOf (.isIn negated) column = .ok p)
      ↔ ∃ items, t.operand.items? = some items
    constructor
    · rintro ⟨p, h⟩
      rw [predicateOf] at h
      split at h
      · rename_i items hitems
        exact ⟨items, hitems⟩
      · cases h
    · rintro ⟨items, hitems⟩
      exact ⟨.isIn column negated items, by rw [predicateOf, hitems]⟩
  | between negated =>
    show (∃ p, t.predicateOf (.between negated) column = .ok p)
      ↔ ∃ low high, t.operand.items? = some [low, high]
    constructor
    · rintro ⟨p, h⟩
      rw [predicateOf] at h
      split at h
      · rename_i low high hitems
        exact ⟨low, high, hitems⟩
      · cases h
    · rintro ⟨low, high, hitems⟩
      exact ⟨.between column negated low high, by rw [predicateOf, hitems]⟩

/-- A triple whose operator is supported and takes its operand. -/
def Triple.WellFormed (t : Triple) : Prop :=
  ∃ op, Operator.parse? t.operator = some op ∧ op.Takes t.operand

/-- **Which triples have a predicate**: the well-formed ones whose path has a column. -/
theorem Triple.exists_predicate_iff {t : Triple} {columns : ColumnMap} :
    (∃ p, t.predicate columns = .ok p)
      ↔ t.WellFormed ∧ ∃ column, columns.get t.path = .ok column := by
  constructor
  · rintro ⟨p, h⟩
    obtain ⟨op, column, hop, hcolumn, h⟩ := predicate_eq_ok_iff.1 h
    exact ⟨⟨op, hop, exists_predicateOf_iff.1 ⟨p, h⟩⟩, column, hcolumn⟩
  · rintro ⟨⟨op, hop, htakes⟩, column, hcolumn⟩
    have hpredicate : ∃ p, t.predicateOf op column.text = .ok p := exists_predicateOf_iff.2 htakes
    obtain ⟨p, h⟩ := hpredicate
    exact ⟨p, predicate_eq_ok_iff.2 ⟨op, column, hop, hcolumn, h⟩⟩

/-! ## §2. Filters that compile. -/

/-- What is left of two steps if only failures count. -/
theorem map_unit_bind {ε α β : Type} {x : Except ε α} {f : α → Except ε β}
    {u v : Except ε Unit} (hx : x.map (fun _ => ()) = u)
    (hf : ∀ a, (f a).map (fun _ => ()) = v) :
    (x >>= f).map (fun _ => ()) = u >>= fun _ => v := by
  cases x with
  | ok a =>
    rw [← hx]
    exact hf a
  | error e =>
    rw [← hx]
    rfl

/-- A step that cannot fail leaves nothing behind. -/
theorem map_unit_bind_done {ε α β : Type} {x : Except ε α} {f : α → Except ε β}
    {u : Except ε Unit} (hx : x.map (fun _ => ()) = u)
    (hf : ∀ a, (f a).map (fun _ => ()) = .ok ()) : (x >>= f).map (fun _ => ()) = u := by
  rw [map_unit_bind hx hf]
  cases u with
  | ok a => rfl
  | error e => rfl

theorem exists_eq_ok_iff_map_unit {ε α : Type} {x : Except ε α} :
    (∃ a, x = .ok a) ↔ x.map (fun _ => ()) = .ok () := by
  cases x with
  | ok a => exact ⟨fun _ => rfl, fun _ => ⟨a, rfl⟩⟩
  | error e => exact ⟨nofun, nofun⟩

namespace Filter

/-- Triples are compiled one after another, for the sake of their failures. -/
def examine (columns : ColumnMap) : List Triple → Except Error Unit
  | [] => .ok ()
  | t :: ts => do
    let _ ← t.predicate columns
    examine columns ts

variable {columns : ColumnMap}

theorem examine_append (ts us : List Triple) :
    examine columns (ts ++ us) = (do
      examine columns ts
      examine columns us) := by
  induction ts with
  | nil => rfl
  | cons t ts ih =>
    rw [List.cons_append, examine, examine, ih]
    cases t.predicate columns with
    | ok p => rfl
    | error e => rfl

theorem examine_eq_ok_iff {ts : List Triple} :
    examine columns ts = .ok () ↔ ∀ t ∈ ts, ∃ p, t.predicate columns = .ok p := by
  induction ts with
  | nil => exact ⟨fun _ => nofun, fun _ => rfl⟩
  | cons t ts ih =>
    rw [examine, bind_eq_ok_iff, List.forall_mem_cons, ← ih]
    constructor
    · rintro ⟨p, hp, h⟩
      exact ⟨⟨p, hp⟩, h⟩
    · rintro ⟨⟨p, hp⟩, h⟩
      exact ⟨p, hp, h⟩

/-- Filters, groups and members fail as the lists of their triples do.  The induction follows the
three functions that compile a filter. -/
theorem map_predicates :
    (∀ f : Filter, (f.predicate columns).map (fun _ => ()) = examine columns f.triples)
    ∧ (∀ gs, (groupPredicates columns gs).map (fun _ => ()) = examine columns (groupTriples gs))
    ∧ ∀ cs, (conditionPredicates columns cs).map (fun _ => ())
        = examine columns (conditionTriples cs) := by
  apply predicate.mutual_induct
  case case1 =>
    intro gs ih
    rw [predicate, triples]
    exact map_unit_bind_done ih fun _ => rfl
  case case2 => rfl
  case case3 =>
    intro logic cs gs ihcs ihgs
    rw [groupPredicates, groupTriples, examine_append]
    exact map_unit_bind ihcs fun _ => map_unit_bind_done ihgs fun _ => rfl
  case case4 => rfl
  case case5 =>
    intro t cs ih
    rw [conditionPredicates, conditionTriples, examine]
    cases t.predicate columns with
    | ok p =>
      show (conditionPredicates columns cs >>= fun ps => .ok (p :: ps)).map (fun _ => ()) = _
      exact map_unit_bind_done ih fun _ => rfl
    | error e => rfl
  case case6 =>
    intro f cs ihf ihcs
    rw [conditionPredicates, conditionTriples, examine_append]
    exact map_unit_bind ihf fun _ => map_unit_bind_done ihcs fun _ => rfl

/-- **A filter fails as the list of its triples does**, in the same place and in the same way. -/
theorem map_predicate (f : Filter) :
    (f.predicate columns).map (fun _ => ()) = examine columns f.triples := map_predicates.1 f

/-- **Which filters compile**: those all of whose triples have a predicate. -/
theorem exists_condition_iff {filter : Option Filter} :
    (∃ p, condition columns filter = .ok p)
      ↔ ∀ t ∈ allTriples filter, ∃ p, t.predicate columns = .ok p := by
  cases filter with
  | none => exact ⟨fun _ => nofun, fun _ => ⟨none, rfl⟩⟩
  | some f =>
    have hall : allTriples (some f) = f.triples := List.append_nil _
    rw [hall, ← examine_eq_ok_iff, ← map_predicate]
    exact exists_eq_ok_iff_map_unit

end Filter

/-! ## §3. Triples that are refused. -/

/-- The operand that an operator asks for, in words; most take any. -/
def Operator.needed : Operator → String
  | .isIn _ => "an array operand"
  | .between _ => "a two-element array operand"
  | _ => "any operand"

namespace Triple

/-- **A triple that can be compiled**: its operator is supported, its path has a column, and the
operator takes its operand. -/
def Fits (columns : ColumnMap) (t : Triple) : Prop :=
  ∃ op, Operator.parse? t.operator = some op ∧ columns.contains t.path = true
    ∧ op.Takes t.operand

/-- **What a triple is refused for**: its operator, or else its path, or else its operand. -/
inductive Objects (columns : ColumnMap) (t : Triple) : Error → Prop where
  | operator : Operator.parse? t.operator = none →
    Objects columns t (.unsupportedOperator t.operator)
  | path {op : Operator} : Operator.parse? t.operator = some op →
    columns.contains t.path = false →
    Objects columns t (.unresolvedPath t.path columns.card t.path)
  | operand {op : Operator} : Operator.parse? t.operator = some op →
    columns.contains t.path = true → ¬ op.Takes t.operand →
    Objects columns t (.invalidArgument
      (op.symbol ++ " on '" ++ t.path ++ "' needs " ++ op.needed))

variable {columns : ColumnMap} {t : Triple}

theorem fits_iff : t.Fits columns ↔ ∃ p, t.predicate columns = .ok p := by
  rw [exists_predicate_iff, ← ColumnMap.contains_iff]
  constructor
  · rintro ⟨op, hop, hcolumn, htakes⟩
    exact ⟨⟨op, hop, htakes⟩, hcolumn⟩
  · rintro ⟨⟨op, hop, htakes⟩, hcolumn⟩
    exact ⟨op, hop, hcolumn, htakes⟩

/-- An operand that an operator does not take is refused in the words for what it asks for. -/
theorem predicateOf_of_not_takes {op : Operator} (column : String) (h : ¬ op.Takes t.operand) :
    t.predicateOf op column = .error (t.operandError op op.needed) := by
  cases op with
  | compare c => exact absurd trivial h
  | is => exact absurd trivial h
  | like negated => exact absurd trivial h
  | isIn negated =>
    rw [predicateOf]
    split
    · rename_i items hitems
      exact absurd ⟨items, hitems⟩ h
    · rfl
  | between negated =>
    rw [predicateOf]
    split
    · rename_i low high hitems
      exact absurd ⟨low, high, hitems⟩ h
    · rfl

/-- **A triple that objects** is refused in these words. -/
theorem Objects.predicate_eq {e : Error} (h : t.Objects columns e) :
    t.predicate columns = .error e := by
  cases h with
  | operator hop =>
    have hparse : t.parseOperator = .error (.unsupportedOperator t.operator) := by
      simp only [parseOperator, hop]
    rw [predicate, hparse]
    rfl
  | @path op hop hpath =>
    have hparse : t.parseOperator = .ok op := by simp only [parseOperator, hop]
    have hget : columns.get t.path = .error (.unresolvedPath t.path columns.card t.path) := by
      have hnone := (OrderedMap.get?_eq_none_iff columns.columns t.path).2
        (by simpa [ColumnMap.contains, OrderedMap.contains] using hpath)
      simp only [ColumnMap.get, hnone]
    rw [predicate, hparse]
    show (columns.get t.path >>= _) = _
    rw [hget]
    rfl
  | @operand op hop hpath htakes =>
    have hparse : t.parseOperator = .ok op := by simp only [parseOperator, hop]
    obtain ⟨column, hcolumn⟩ := (columns.contains_iff t.path).1 hpath
    rw [predicate, hparse]
    show (columns.get t.path >>= _) = _
    rw [hcolumn]
    exact predicateOf_of_not_takes column.text htakes

/-- A triple can be compiled or objects to something. -/
theorem fits_or_objects (columns : ColumnMap) (t : Triple) :
    t.Fits columns ∨ ∃ e, t.Objects columns e := by
  cases hop : Operator.parse? t.operator with
  | none => exact .inr ⟨_, .operator hop⟩
  | some op =>
    by_cases hpath : columns.contains t.path = true
    · by_cases htakes : op.Takes t.operand
      · exact .inl ⟨op, hop, hpath, htakes⟩
      · exact .inr ⟨_, .operand hop hpath htakes⟩
    · exact .inr ⟨_, .path hop (by simpa using hpath)⟩

/-- **What a triple is refused for** is the first of its three parts that is wrong. -/
theorem predicate_eq_error_iff {e : Error} :
    t.predicate columns = .error e ↔ t.Objects columns e := by
  refine ⟨fun h => ?_, Objects.predicate_eq⟩
  rcases fits_or_objects columns t with hfits | ⟨e', hobjects⟩
  · obtain ⟨p, hp⟩ := fits_iff.1 hfits
    rw [hp] at h
    cases h
  · rw [hobjects.predicate_eq, Except.error.injEq] at h
    exact h ▸ hobjects

end Triple

/-! ## §4. Lists of triples. -/

namespace Filter

variable {columns : ColumnMap}

/-- **A list of triples is refused** for the first one that is, and in its words. -/
theorem examine_eq_error_iff {ts : List Triple} {e : Error} :
    examine columns ts = .error e ↔ ∃ front t behind, ts = front ++ t :: behind
      ∧ (∀ u ∈ front, u.Fits columns) ∧ t.Objects columns e := by
  induction ts with
  | nil =>
    constructor
    · intro h
      cases h
    · rintro ⟨front, t, behind, hsplit, _⟩
      simp at hsplit
  | cons t ts ih =>
    rw [examine]
    cases ht : t.predicate columns with
    -- nothing behind a triple that is refused is looked at
    | error e' =>
      have hobjects := Triple.predicate_eq_error_iff.1 ht
      show (.error e' : Except Error Unit) = .error e ↔ _
      constructor
      · intro h
        obtain rfl : e' = e := Except.error.inj h
        exact ⟨[], t, ts, rfl, List.forall_mem_nil _, hobjects⟩
      · rintro ⟨front, u, behind, hsplit, hfront, hu⟩
        cases front with
        | nil =>
          obtain ⟨rfl, rfl⟩ := List.cons.inj hsplit
          rw [hu.predicate_eq, Except.error.injEq] at ht
          rw [ht]
        | cons v front =>
          obtain ⟨rfl, rfl⟩ := List.cons.inj hsplit
          obtain ⟨p, hp⟩ := Triple.fits_iff.1 (hfront t List.mem_cons_self)
          rw [hp] at ht
          cases ht
    | ok p =>
      have hfits : t.Fits columns := Triple.fits_iff.2 ⟨p, ht⟩
      show examine columns ts = .error e ↔ _
      rw [ih]
      constructor
      · rintro ⟨front, u, behind, rfl, hfront, hu⟩
        exact ⟨t :: front, u, behind, rfl, List.forall_mem_cons.2 ⟨hfits, hfront⟩, hu⟩
      · rintro ⟨front, u, behind, hsplit, hfront, hu⟩
        cases front with
        | nil =>
          obtain ⟨rfl, rfl⟩ := List.cons.inj hsplit
          rw [hu.predicate_eq] at ht
          cases ht
        | cons v front =>
          obtain ⟨rfl, rfl⟩ := List.cons.inj hsplit
          exact ⟨front, u, behind, rfl, (List.forall_mem_cons.1 hfront).2, hu⟩

theorem examine_eq_ok_iff_fits {ts : List Triple} :
    examine columns ts = .ok () ↔ ∀ t ∈ ts, t.Fits columns := by
  simp only [examine_eq_ok_iff, Triple.fits_iff]

/-! ## §5. Filters that are refused. -/

/-- Nodes, groups and members without triples have no predicates. -/
theorem predicates_of_triples_nil :
    (∀ f : Filter, f.triples = [] → f.predicate columns = .ok none)
    ∧ (∀ gs, groupTriples gs = [] → groupPredicates columns gs = .ok [])
    ∧ ∀ cs, conditionTriples cs = [] → conditionPredicates columns cs = .ok [] := by
  apply predicate.mutual_induct
  case case1 =>
    intro gs ih h
    rw [predicate, ih h]
    rfl
  case case2 => exact fun _ => rfl
  case case3 =>
    intro logic cs gs ihcs ihgs h
    rw [groupTriples, List.append_eq_nil_iff] at h
    rw [groupPredicates, ihcs h.1, ihgs h.2]
    rfl
  case case4 => exact fun _ => rfl
  case case5 =>
    intro t cs _ h
    rw [conditionTriples] at h
    cases h
  case case6 =>
    intro f cs ihf ihcs h
    rw [conditionTriples, List.append_eq_nil_iff] at h
    rw [conditionPredicates, ihf h.1, ihcs h.2]
    rfl

/-- **Which filters have no predicate**: those without a path in them. -/
theorem predicate_eq_none_iff (columns : ColumnMap) {f : Filter} :
    f.predicate columns = .ok none ↔ f.paths = [] := by
  rw [paths, List.map_eq_nil_iff]
  constructor
  · intro h
    have hleaves := leaves_of_predicate h
    exact List.forall₂_nil_right_iff.1 hleaves
  · exact predicates_of_triples_nil.1 f

/-- A filter fails as the list of its triples does, also where its predicate is written down. -/
theorem map_predicate_eq_error_iff {α : Type} {f : Filter} {write : Option Predicate → α}
    {e : Error} :
    (f.predicate columns).map write = .error e ↔ examine columns f.triples = .error e := by
  rw [← map_predicate]
  cases f.predicate columns with
  | ok p => exact ⟨nofun, nofun⟩
  | error e' =>
    show Except.error e' = Except.error e ↔ Except.error e' = Except.error e
    simp only [Except.error.injEq]

/-- **Which filters compile**, and what the others are refused for.  In each dialect a filter is
compiled to a text and its parameters exactly if each of its triples has a supported operator, a
path with a column and an operand that its operator takes.  Otherwise it is refused for the first
triple from left to right that lacks one of these, for the operator before the path and for the
path before the operand.  It is compiled to nothing exactly if it has no paths. -/
theorem compiles_or_objects (columns : ColumnMap) (d : Dialect) (f : Filter) :
    ((∃ answer, (f.predicate columns).map (·.map fun p => (p.text d, p.params)) = .ok answer)
        ↔ ∀ t ∈ f.triples, t.Fits columns)
      ∧ (∀ e, (f.predicate columns).map (·.map fun p => (p.text d, p.params)) = .error e
        ↔ ∃ front t behind, f.triples = front ++ t :: behind
          ∧ f.paths = front.map (·.path) ++ t.path :: behind.map (·.path)
          ∧ (∀ u ∈ front, u.Fits columns) ∧ t.Objects columns e)
      ∧ ((f.predicate columns).map (·.map fun p => (p.text d, p.params)) = .ok none
        ↔ f.paths = []) := by
  refine ⟨?_, fun e => ?_, ?_⟩
  · rw [← examine_eq_ok_iff_fits, ← map_predicate]
    cases f.predicate columns with
    | ok p => exact ⟨fun _ => rfl, fun _ => ⟨_, rfl⟩⟩
    | error e => exact ⟨nofun, nofun⟩
  · rw [map_predicate_eq_error_iff, examine_eq_error_iff]
    constructor
    · rintro ⟨front, t, behind, hsplit, hfront, ht⟩
      refine ⟨front, t, behind, hsplit, ?_, hfront, ht⟩
      rw [paths, hsplit, List.map_append, List.map_cons]
    · rintro ⟨front, t, behind, hsplit, _, hfront, ht⟩
      exact ⟨front, t, behind, hsplit, hfront, ht⟩
  · rw [← predicate_eq_none_iff columns]
    cases f.predicate columns with
    | error e => exact ⟨nofun, nofun⟩
    | ok answer =>
      cases answer with
      | none => exact ⟨fun _ => rfl, fun _ => rfl⟩
      | some p => exact ⟨nofun, nofun⟩

end Filter

end CardStore
