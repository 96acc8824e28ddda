/-
  CardStore.Proofs.Tree.Grammar
  ─────────────────────────────
  **WHERE THE KEY OF THE ROOTS STANDS.**

  The roots are taken out of the object of a tree read before the rest of it
  is read as a query, and the last member is moved into their place.

      { "order": { "b": "desc" }, "root": { "a": 1 }, "rows": 5, "filter": [] }
      { "order": { "b": "desc" }, "filter": [], "rows": 5 }          what is left

  A query depends on none but the values under its keys, so that the places
  of the members, and that of the roots among them, do not matter.  Within a
  member, in the sort keys and in the conditions, nothing is moved.

  Main statements:
    * `Pairs.swapErase_perm` — what is left has the same members as without a swap.
    * `readRoot_eq_ok_iff` — what names the roots.
    * `read_iff_wherever_root` — a tree read is its roots and the query of the rest.
-/
import CardStore.Proofs.Query.Grammar
import CardStore.Tree.Options

namespace CardStore

/-! ## §1. Members without one of them. -/

namespace Pairs

variable {α : Type}

theorem erase_sublist (key : String) (es : List (String × α)) : (erase key es).Sublist es := by
  induction es with
  | nil => exact List.Sublist.refl _
  | cons e es ih =>
    obtain ⟨k, v⟩ := e
    rw [erase]
    split
    · exact List.sublist_cons_self _ _
    · exact ih.cons_cons _

/-- Moving the last pair into the place of the one that is dropped changes only the order. -/
theorem swapErase_perm (key : String) (es : List (String × α)) :
    (swapErase key es).Perm (erase key es) := by
  induction es with
  | nil => exact List.Perm.refl _
  | cons e es ih =>
    obtain ⟨k, v⟩ := e
    rw [swapErase, erase]
    split
    · rcases List.eq_nil_or_concat' es with rfl | ⟨front, last, rfl⟩
      · exact List.Perm.refl _
      · rw [List.getLast?_concat, List.dropLast_concat]
        exact (List.perm_append_singleton last front).symm
    · exact ih.cons _

/-- What is dropped does not depend on what the keys yield. -/
theorem erase_map {β : Type} (f : α → β) (key : String) (es : List (String × α)) :
    erase key (es.map fun e => (e.1, f e.2)) = (erase key es).map fun e => (e.1, f e.2) := by
  induction es with
  | nil => rfl
  | cons e es ih =>
    obtain ⟨k, v⟩ := e
    rw [List.map_cons, erase, erase]
    split
    · rfl
    · rw [List.map_cons, ih]

end Pairs

namespace Json

variable {o : Origin} {es fs : List (String × Json)}

theorem admits_membersDepth_iff :
    o.Admits (membersDepth es) ↔ ∀ e ∈ es, o.Admits e.2.depth := by
  induction es with
  | nil =>
    constructor
    · intro _ e he
      cases he
    · exact fun _ => Origin.admits_zero
  | cons e es ih =>
    obtain ⟨k, j⟩ := e
    rw [membersDepth, Origin.admits_max_iff, ih, List.forall_mem_cons]

/-- An object with some of the members of another. -/
theorem admits_object_of_subset (hsub : fs ⊆ es) (hdepth : o.Admits (Json.object es).depth) :
    o.Admits (Json.object fs).depth := by
  obtain ⟨i, hi, hes⟩ := Origin.admits_succ_iff.1 hdepth
  exact Origin.admits_succ_iff.2 ⟨i, hi, admits_membersDepth_iff.2 fun e he =>
    admits_membersDepth_iff.1 hes e (hsub he)⟩

end Json

/-! ## §2. Tree reads. -/

namespace TreeOptions

open Json (Origin)

/-- What names the roots: nothing or null, so that they are not named, or a record. -/
inductive NamesRoots : Option Json → Option Record → Prop where
  | absent : NamesRoots none none
  | null : NamesRoots (some .null) none
  | record {j : Json} {r : Record} : Json.readValue Record.read j = .ok r →
      NamesRoots (some j) (some r)

theorem readRoot_eq_ok_iff {j : Option Json} {root : Option Record} :
    readRoot j = .ok root ↔ NamesRoots j root := by
  constructor
  · intro h
    unfold readRoot at h
    split at h
    · cases h
      exact .absent
    · cases h
      exact .null
    · obtain ⟨r, hr, rfl⟩ := Json.map_eq_ok_iff.1 h
      exact .record hr
  · rintro (_ | _ | hr)
    · rfl
    · rfl
    · rename_i j r
      cases j with
      | null => cases hr
      | _ => exact Json.map_eq_ok_iff.2 ⟨r, hr, rfl⟩

theorem ofJson_object_iff {es : List (String × Json)} {t : TreeOptions} :
    ofJson (.object es) = .ok t ↔ NamesRoots (Pairs.get? rootKey es) t.root
      ∧ ReadOptions.ofJson (.object (Pairs.swapErase rootKey es)) = .ok t.given := by
  rw [← readRoot_eq_ok_iff, ofJson, takeRoot]
  constructor
  · intro h
    obtain ⟨root, hroot, h⟩ := bind_eq_ok_iff.1 h
    obtain ⟨given, hgiven, h⟩ := bind_eq_ok_iff.1 h
    cases h
    exact ⟨hroot, hgiven⟩
  · rintro ⟨hroot, hgiven⟩
    exact bind_eq_ok_iff.2 ⟨t.root, hroot, bind_eq_ok_iff.2 ⟨t.given, hgiven, rfl⟩⟩

/-- A query is denoted by an object exactly if it is by the members that are left, in whatever
order. -/
theorem denotes_iff_of_left {es left : List (String × Json)} (hkeys : (Pairs.keys es).Nodup)
    (hleft : left.Perm (Pairs.erase rootKey es)) {q : QueryOptions} :
    QueryOptions.Denotes .unrestricted left q ↔ QueryOptions.Denotes .unrestricted es q := by
  have herased : (Pairs.keys (Pairs.erase rootKey es)).Nodup :=
    (Pairs.keys_erase_sublist rootKey es).nodup hkeys
  -- none of the keys of a query is that of the roots
  have hsame : ∀ key ∈ ["filter", "order", "rows", "page"],
      Pairs.get? key (Pairs.erase rootKey es) = Pairs.get? key es := by
    intro key hkey
    rw [Pairs.get?_erase rootKey key es hkeys, if_neg]
    rintro rfl
    exact absurd hkey (by decide)
  constructor
  · intro h
    exact (h.perm ((hleft.map Prod.fst).nodup_iff.2 herased) hleft).congr hsame
  · intro h
    exact (h.congr fun key hkey => (hsame key hkey).symm).perm herased hleft.symm

/-- **Wherever the key of the roots stands**, and in whatever order the other members do, an
object is a tree read exactly if the roots are named by its member, and the others are what is
read.  They are the query that the members of the object itself denote, with sort keys and
conditions in the order in which they stand there. -/
theorem read_iff_wherever_root {o : Origin} {es others : List (String × Json)}
    (hkeys : (Pairs.keys es).Nodup) (hdepth : o.Admits (Json.object es).depth)
    (hothers : others.Perm (Pairs.erase rootKey es)) (t : TreeOptions) :
    (read o (.ofJson (.object es)) = .ok t
      ↔ NamesRoots (Pairs.get? rootKey (Json.settledMembers es)) t.root
        ∧ ReadOptions.read o (.ofJson (.object others)) = .ok t.given)
    ∧ (read o (.ofJson (.object es)) = .ok t →
      ∃ q, t.given = .query q
        ∧ QueryOptions.Denotes .unrestricted (Json.settledMembers es) q) := by
  have herased : (Pairs.keys (Pairs.erase rootKey es)).Nodup :=
    (Pairs.keys_erase_sublist rootKey es).nodup hkeys
  have hsub : others ⊆ es := fun e he =>
    (Pairs.erase_sublist rootKey es).subset (hothers.mem_iff.1 he)
  have hvalue : read o (.ofJson (.object es)) = ofJson (.object (Json.settledMembers es)) := by
    rw [read, Json.readJson_object hkeys hdepth]
    rfl
  -- from here on the members are those of a JSON value
  have hkeys' : (Pairs.keys (Json.settledMembers es)).Nodup := by rwa [Json.keys_settledMembers]
  have hothers' : (Json.settledMembers others).Perm
      (Pairs.erase rootKey (Json.settledMembers es)) := by
    rw [Json.settledMembers, Json.settledMembers, Pairs.erase_map]
    exact hothers.map _
  have hswap := Pairs.swapErase_perm rootKey (Json.settledMembers es)
  have hswapped : (Pairs.keys (Pairs.swapErase rootKey (Json.settledMembers es))).Nodup :=
    (hswap.map Prod.fst).nodup_iff.2 ((Pairs.keys_erase_sublist rootKey _).nodup hkeys')
  rw [hvalue, ofJson_object_iff, ReadOptions.ofJson_object_iff hswapped,
    ReadOptions.read_object_iff ((hothers.map Prod.fst).nodup_iff.2 herased)
      (Json.admits_object_of_subset hsub hdepth)]
  simp only [denotes_iff_of_left hkeys' hswap, denotes_iff_of_left hkeys' hothers']
  refine ⟨trivial, ?_⟩
  rintro ⟨-, q, hq, hgiven⟩
  exact ⟨q, hgiven, hq⟩

/-- An object with the roots in front of two other members; within them a key is repeated. -/
def rootedMembers : List (String × Json) :=
  [("order", .object [("b", .string "desc"), ("a", .string "asc")]),
    ("root", .object [("a", .null), ("a", .number (.ofInt64 1))]), ("rows", .number (.ofInt64 5)),
    ("filter", .array [.array [.string "a", .string "IS"]])]

/-- Its other members, in an order of their own. -/
def otherMembers : List (String × Json) :=
  [("rows", .number (.ofInt64 5)), ("filter", .array [.array [.string "a", .string "IS"]]),
    ("order", .object [("b", .string "desc"), ("a", .string "asc")])]

def rooted : TreeOptions where
  root := some (Record.empty.set "a" (.int 1))
  given := .query ⟨some (.groups [(.and, [.triple ⟨"a", "IS", .null⟩])]),
    [("b", .descending), ("a", .ascending)], 5, 1⟩

/-- It is a tree read of the query that the others are. -/
theorem read_iff_wherever_root_rooted : (Pairs.keys rootedMembers).Nodup
    ∧ Origin.start.Admits (Json.object rootedMembers).depth
    ∧ otherMembers.Perm (Pairs.erase rootKey rootedMembers)
    ∧ read .start (.ofJson (.object rootedMembers)) = .ok rooted
    ∧ NamesRoots (Pairs.get? rootKey (Json.settledMembers rootedMembers)) rooted.root
    ∧ ReadOptions.read .start (.ofJson (.object otherMembers)) = .ok rooted.given
    ∧ ∃ q, rooted.given = .query q
      ∧ QueryOptions.Denotes .unrestricted (Json.settledMembers rootedMembers) q := by
  have hkeys : (Pairs.keys rootedMembers).Nodup := by decide +kernel
  have hdepth : Origin.start.Admits (Json.object rootedMembers).depth :=
    Json.Origin.start_admits (by decide +kernel)
  have hothers : otherMembers.Perm (Pairs.erase rootKey rootedMembers) := by
    show ([_, _] ++ [_]).Perm ([_] ++ [_, _])
    exact List.perm_append_comm
  have hread : read .start (.ofJson (.object rootedMembers)) = .ok rooted := by rfl
  obtain ⟨hiff, hquery⟩ := read_iff_wherever_root hkeys hdepth hothers rooted
  exact ⟨hkeys, hdepth, hothers, hread, (hiff.1 hread).1, (hiff.1 hread).2, hquery hread⟩

end TreeOptions

end CardStore
