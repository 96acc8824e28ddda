/-
  CardStore.Proofs.Tree.Roots
  ───────────────────────────
  **ROOTS OF RECORDS THAT HOLD FEWER PATHS.**

  A condition on roots looks at a record only, and a path that the record does
  not hold counts as null.  So of two lists of records, one of which holds
  fewer paths than the other, the roots of the one are those of the other that
  meet the condition with null in place of the paths that are missing.

  Main statements:
    * `map_id?_assemble` — the roots of a forest, by identifier.
    * `map_id?_filter_of_narrows` — the roots of records that hold fewer paths.
-/
import CardStore.Proofs.Query.Rows
import CardStore.Proofs.Tree.Parents
import CardStore.Proofs.Tree.Shape

namespace CardStore.Tree

open List (Forall₂)

variable {condition : Record}

/-! ## §1. The roots of a forest. -/

/-- A tree has the identifier of its record, whatever has grown below it. -/
theorem id?_grow (l : Links) (depth : Nat) (ancestors : List Nat) (i : Nat) :
    (grow l depth ancestors i).record.id? = ((l.records[i]?).getD .empty).id? := by
  cases depth with
  | zero => rfl
  | succ depth =>
    rw [grow]
    dsimp only
    rw [Links.record_foldl, Record.foldl_pushChild]
    rfl

/-- The records that are chosen for roots, those in front of them left aside. -/
theorem map_findIdxs_isChosen (condition : Record) : ∀ (es : List (Record × Option Nat))
    (front : List Record),
    (es.findIdxs (Links.isChosen (some condition)) front.length).map
        (fun i => ((front ++ es.map Prod.fst)[i]?).getD .empty)
      = (es.map Prod.fst).filter (isRoot condition) := by
  intro es
  induction es with
  | nil =>
    intro front
    rfl
  | cons e es ih =>
    intro front
    have hrest := ih (front ++ [e.1])
    rw [List.length_append, List.length_singleton, List.append_assoc, List.singleton_append]
      at hrest
    have hhere : ((front ++ e.1 :: es.map Prod.fst)[front.length]?).getD .empty = e.1 := by
      rw [List.getElem?_append_right (Nat.le_refl _), Nat.sub_self]
      rfl
    have hchosen : Links.isChosen (some condition) e = isRoot condition e.1 := rfl
    rw [List.map_cons, List.filter_cons, List.findIdxs_cons, hchosen]
    split
    · rw [List.map_cons, hhere, hrest]
    · exact hrest

/-- **The roots of a forest**, by identifier, are the records that meet the condition. -/
theorem map_id?_assemble (records : List Record) (parentPath : String) (condition : Record) :
    (assemble records parentPath (some condition)).map Record.id?
      = (records.filter (isRoot condition)).map Record.id? := by
  have hlength : records.length = (Links.of records parentPath).parents.length :=
    Links.length_parents_of.symm
  have hroots := map_findIdxs_isChosen condition
    (records.zip (Links.of records parentPath).parents) []
  rw [List.map_fst_zip hlength.le, List.nil_append] at hroots
  rw [assemble, grown, Links.roots, Links.rootsFrom_eq, List.map_map, List.map_map, ← hroots,
    List.map_map]
  exact List.map_congr_left fun i _ => id?_grow _ _ _ i

/-! ## §2. Fewer paths. -/

/-- Whether a record has the values that a condition asks for if all but some paths are taken for
missing. -/
def isRootWithin (selected : List String) (condition r : Record) : Bool :=
  condition.entries.toList.all fun (path, expected) =>
    ((if path ∈ selected then r.get? path else none).getD .null).looseEq expected

/-- If no path of the condition is missing, that is all the same. -/
theorem isRootWithin_of_subset {selected : List String}
    (h : ∀ path ∈ condition.paths, path ∈ selected) :
    isRootWithin selected condition = isRoot condition := by
  funext r
  rw [isRootWithin, isRoot, Bool.eq_iff_iff, List.all_eq_true, List.all_eq_true]
  refine forall₂_congr fun e he => ?_
  dsimp only
  rw [if_pos (h e.1 (List.mem_map_of_mem he))]

theorem isRoot_of_narrows {selected others : List String} {r r' : Record}
    (h : r.Narrows selected others r') (hpaths : ∀ path ∈ condition.paths, path ∈ others) :
    isRoot condition r = isRootWithin selected condition r' := by
  rw [isRoot, isRootWithin, Bool.eq_iff_iff, List.all_eq_true, List.all_eq_true]
  refine forall₂_congr fun e he => ?_
  dsimp only
  rw [h e.1 (hpaths e.1 (List.mem_map_of_mem he))]

/-- **The roots of records that hold fewer paths**, by identifier, are the other records that meet
the condition with null in place of the paths that are missing. -/
theorem map_id?_filter_of_narrows {selected others : List String} {rs rs' : List Record}
    (h : Forall₂ (Record.Narrows selected others) rs rs') (hselected : idPath ∈ selected)
    (hothers : idPath ∈ others) (hpaths : ∀ path ∈ condition.paths, path ∈ others) :
    (rs.filter (isRoot condition)).map Record.id?
      = (rs'.filter (isRootWithin selected condition)).map Record.id? := by
  have hfilter := List.rel_filter (R := Record.Narrows selected others) (p := isRoot condition)
    (q := isRootWithin selected condition)
    (fun r r' hr => Bool.eq_iff_iff.1 (isRoot_of_narrows hr hpaths)) h
  rw [← List.forall₂_eq_eq_eq]
  refine List.rel_map (fun r r' hr => ?_) hfilter
  rw [Record.id?, hr idPath hothers, if_pos hselected]
  rfl

end CardStore.Tree
