/-
  CardStore.Proofs.Tree.Parents
  ─────────────────────────────
  **THE PARENTS OF RECORDS.**

  Records are told apart by their positions, so that equal ones count one by
  one.  The parent of a record is the last record whose identifier has the
  text that the record has under the parent path, if it has one there.  Links
  hold the positions of parents, and list children and roots in the order of
  the records.

  Main statements:
    * `ParentAt.unique` — a record has one parent at most.
    * `Links.parents_of_iff` — links hold the parents.
    * `Links.mem_childrenOf_iff`, `Links.pairwise_childrenOf` — children, in order.
    * `Links.mem_roots_of_none_iff`, `Links.mem_roots_of_some_iff`, `Links.pairwise_roots` —
      roots, in order.
-/
import CardStore.Tree.Forest
import Mathlib.Data.List.Basic

namespace CardStore.Tree

/-! ## §1. Parents. -/

/-- **The parent of a record**: the last record whose identifier has the same text as the value
of the record under the parent path.  Null has no text. -/
def ParentAt (records : List Record) (parentPath : String) (i p : Nat) : Prop :=
  ∃ child parent key, records[i]? = some child ∧ records[p]? = some parent
    ∧ parentKeyOf parentPath child = some key ∧ keyOf parent = some key
    ∧ ∀ (later : Nat) (other : Record), p < later → records[later]? = some other →
      keyOf other ≠ some key

/-- A record that has no parent. -/
def Parentless (records : List Record) (parentPath : String) (i : Nat) : Prop :=
  i < records.length ∧ ∀ p, ¬ ParentAt records parentPath i p

/-- A record that loosely equals a condition on all its paths; a path that is not there counts as
null. -/
def Meets (condition r : Record) : Prop :=
  ∀ path expected, condition.get? path = some expected →
    ((r.get? path).getD .null).looseEq expected = true

variable {records : List Record} {parentPath : String}

theorem ParentAt.lt_length {i p : Nat} (h : ParentAt records parentPath i p) :
    i < records.length := by
  obtain ⟨child, _, _, hchild, _⟩ := h
  exact (List.getElem?_eq_some_iff.1 hchild).1

/-- **A record has one parent at most.** -/
theorem ParentAt.unique {i p q : Nat} (h : ParentAt records parentPath i p)
    (h' : ParentAt records parentPath i q) : p = q := by
  obtain ⟨child, parent, key, hchild, hparent, hkey, hid, hlast⟩ := h
  obtain ⟨child', parent', key', hchild', hparent', hkey', hid', hlast'⟩ := h'
  obtain rfl : child = child' := Option.some.inj (hchild.symm.trans hchild')
  obtain rfl : key = key' := Option.some.inj (hkey.symm.trans hkey')
  -- each of them would be the last record with the key
  rcases Nat.lt_trichotomy p q with hlt | heq | hgt
  · exact absurd hid' (hlast q parent' hlt hparent')
  · exact heq
  · exact absurd hid (hlast' p parent hgt hparent)

/-! ## §2. Keys. -/

/-- What is not found is no key. -/
theorem not_mem_of_lastFrom? {key : String} : ∀ {keys : List (Option String)} {position : Nat},
    lastFrom? key position keys = none → some key ∉ keys := by
  intro keys
  induction keys with
  | nil => simp
  | cons first keys ih =>
    intro position h
    unfold lastFrom? at h
    split at h
    · cases h
    · rename_i hrest
      split at h
      · cases h
      · rename_i hfirst
        simp [Ne.symm hfirst, ih hrest]

/-- What is found for a key is the last position that holds it. -/
theorem last_of_lastFrom? {key : String} : ∀ {keys : List (Option String)} {position i : Nat},
    lastFrom? key position keys = some i →
      ∃ k, i = position + k ∧ keys[k]? = some (some key)
        ∧ ∀ later, k < later → keys[later]? ≠ some (some key) := by
  intro keys
  induction keys with
  | nil => simp [lastFrom?]
  | cons first keys ih =>
    intro position i h
    unfold lastFrom? at h
    split at h
    -- the key stands behind the first position, and the last place of it is counted from there
    · rename_i j hrest
      obtain rfl := Option.some.inj h
      obtain ⟨k, rfl, hk, hlast⟩ := ih hrest
      refine ⟨k + 1, by omega, hk, ?_⟩
      intro later hlater
      cases later with
      | zero => omega
      | succ later => exact hlast later (by omega)
    · rename_i hrest
      split at h
      · rename_i hfirst
        obtain rfl := Option.some.inj h
        refine ⟨0, rfl, congrArg some hfirst, ?_⟩
        intro later hlater
        cases later with
        | zero => omega
        | succ later => exact fun hkey => not_mem_of_lastFrom? hrest (List.mem_of_getElem? hkey)
      · cases h

/-! ## §3. Links. -/

namespace Links

/-- **Links hold the parents.** -/
theorem parents_of_iff {i p : Nat} :
    (Links.of records parentPath).parents[i]? = some (some p)
      ↔ ParentAt records parentPath i p := by
  have hparents : (Links.of records parentPath).parents[i]?
      = records[i]?.map fun r => (parentKeyOf parentPath r).bind fun key =>
          lastFrom? key 0 (records.map keyOf) := List.getElem?_map
  have hkeys (k : Nat) (key : String) : (records.map keyOf)[k]? = some (some key)
      ↔ ∃ r, records[k]? = some r ∧ keyOf r = some key := by
    rw [List.getElem?_map, Option.map_eq_some_iff]
  rw [hparents, Option.map_eq_some_iff]
  constructor
  · rintro ⟨child, hchild, hfound⟩
    obtain ⟨key, hkey, hfound⟩ := Option.bind_eq_some_iff.1 hfound
    obtain ⟨k, hk, hid, hlast⟩ := last_of_lastFrom? hfound
    obtain rfl : p = k := by omega
    obtain ⟨parent, hparent, hid⟩ := (hkeys _ _).1 hid
    refine ⟨child, parent, key, hchild, hparent, hkey, hid, ?_⟩
    intro later other hlater hother hsame
    exact hlast later hlater ((hkeys _ _).2 ⟨other, hother, hsame⟩)
  · rintro ⟨child, parent, key, hchild, hparent, hkey, hid, hlast⟩
    refine ⟨child, hchild, Option.bind_eq_some_iff.2 ⟨key, hkey, ?_⟩⟩
    cases hfound : lastFrom? key 0 (records.map keyOf) with
    | none =>
      have hmem : some key ∈ records.map keyOf :=
        List.mem_of_getElem? ((hkeys _ _).2 ⟨parent, hparent, hid⟩)
      exact absurd hmem (not_mem_of_lastFrom? hfound)
    | some j =>
      obtain ⟨k, hk, hid', hlast'⟩ := last_of_lastFrom? hfound
      obtain rfl : j = k := by omega
      obtain ⟨other, hother, hid'⟩ := (hkeys _ _).1 hid'
      -- neither of the two positions stands behind the other
      rcases Nat.lt_trichotomy p j with hlt | heq | hgt
      · exact absurd hid' (hlast j other hlt hother)
      · rw [heq]
      · exact absurd ((hkeys _ _).2 ⟨parent, hparent, hid⟩) (hlast' p hgt)

theorem length_parents_of : (Links.of records parentPath).parents.length = records.length :=
  List.length_map _

theorem positionsOf_eq (parent : Nat) : ∀ (parents : List (Option Nat)) (position : Nat),
    positionsOf parent position parents = parents.findIdxs (· == some parent) position := by
  intro parents
  induction parents with
  | nil =>
    intro position
    rfl
  | cons p parents ih =>
    intro position
    simp only [positionsOf, List.findIdxs_cons, ih, beq_iff_eq]

/-- Whether a record with its parent is a root. -/
def isChosen (condition : Option Record) (e : Record × Option Nat) : Bool :=
  match condition with
  | none => e.2.isNone
  | some c => isRoot c e.1

theorem rootsFrom_eq (condition : Option Record) : ∀ (es : List (Record × Option Nat))
    (position : Nat),
    rootsFrom condition position es = es.findIdxs (isChosen condition) position := by
  intro es
  induction es with
  | nil =>
    intro position
    rfl
  | cons e es ih =>
    intro position
    unfold rootsFrom
    rw [List.findIdxs_cons, ih]
    cases condition with
    | none => rfl
    | some c => rfl

/-- **The children** of a record are those that have it for a parent. -/
theorem mem_childrenOf_iff {l : Links} {i j : Nat} :
    j ∈ l.childrenOf i ↔ l.parents[j]? = some (some i) := by
  rw [childrenOf, positionsOf_eq, List.mem_findIdxs_iff_exists_getElem_pos,
    List.getElem?_eq_some_iff]
  simp only [beq_iff_eq]

/-- Children stand in the order of the records. -/
theorem pairwise_childrenOf (l : Links) (i : Nat) : (l.childrenOf i).Pairwise (· < ·) := by
  rw [childrenOf, positionsOf_eq]
  exact List.pairwise_findIdxs

theorem mem_roots_of_iff {condition : Option Record} {i : Nat} :
    i ∈ (Links.of records parentPath).roots condition ↔
      ∃ e : Record × Option Nat, records[i]? = some e.1
        ∧ (Links.of records parentPath).parents[i]? = some e.2 ∧ isChosen condition e = true := by
  rw [roots, rootsFrom_eq, List.mem_findIdxs_iff_exists_getElem_pos]
  constructor
  · rintro ⟨hi, hchosen⟩
    have hzip := List.getElem?_zip_eq_some.1 (List.getElem?_eq_getElem hi)
    exact ⟨_, hzip.1, hzip.2, hchosen⟩
  · rintro ⟨e, hr, hparent, hchosen⟩
    have hzip := List.getElem?_zip_eq_some.2 ⟨hr, hparent⟩
    obtain ⟨hi, heq⟩ := List.getElem?_eq_some_iff.1 hzip
    refine ⟨hi, ?_⟩
    show isChosen condition (records.zip (Links.of records parentPath).parents)[i] = true
    rw [heq]
    exact hchosen

/-- **Without a condition**, the roots are the records without a parent. -/
theorem mem_roots_of_none_iff {i : Nat} :
    i ∈ (Links.of records parentPath).roots none ↔ Parentless records parentPath i := by
  rw [mem_roots_of_iff]
  constructor
  · rintro ⟨⟨r, parent⟩, hr, hparent, hnone⟩
    refine ⟨(List.getElem?_eq_some_iff.1 hr).1, ?_⟩
    intro p hp
    obtain rfl : some p = parent := Option.some.inj ((parents_of_iff.2 hp).symm.trans hparent)
    cases hnone
  · rintro ⟨hi, hno⟩
    have hlt : i < (Links.of records parentPath).parents.length := by
      rw [length_parents_of]
      exact hi
    refine ⟨(records[i], (Links.of records parentPath).parents[i]), List.getElem?_eq_getElem hi,
      List.getElem?_eq_getElem hlt, ?_⟩
    cases hparent : (Links.of records parentPath).parents[i] with
    | none => rfl
    | some p =>
      have hat : (Links.of records parentPath).parents[i]? = some (some p) :=
        List.getElem?_eq_some_iff.2 ⟨hlt, hparent⟩
      exact absurd (parents_of_iff.1 hat) (hno p)

/-- A condition picks the records that meet it. -/
theorem isRoot_iff {condition r : Record} : isRoot condition r = true ↔ Meets condition r := by
  rw [isRoot, List.all_eq_true]
  constructor
  · intro h path expected hget
    exact h (path, expected) (Pairs.mem_of_get? hget)
  · intro h e he
    exact h e.1 e.2 (condition.entries.get?_of_mem he)

/-- **With a condition**, the roots are the records that meet it, be they below others or not. -/
theorem mem_roots_of_some_iff {condition : Record} {i : Nat} :
    i ∈ (Links.of records parentPath).roots (some condition) ↔
      ∃ r, records[i]? = some r ∧ Meets condition r := by
  rw [mem_roots_of_iff]
  constructor
  · rintro ⟨e, hr, _, hchosen⟩
    exact ⟨e.1, hr, isRoot_iff.1 hchosen⟩
  · rintro ⟨r, hr, hmeets⟩
    have hlt : i < (Links.of records parentPath).parents.length := by
      rw [length_parents_of]
      exact (List.getElem?_eq_some_iff.1 hr).1
    exact ⟨(r, _), hr, List.getElem?_eq_getElem hlt, isRoot_iff.2 hmeets⟩

/-- Roots stand in the order of the records. -/
theorem pairwise_roots (l : Links) (condition : Option Record) :
    (l.roots condition).Pairwise (· < ·) := by
  rw [roots, rootsFrom_eq]
  exact List.pairwise_findIdxs

end Links

end CardStore.Tree
