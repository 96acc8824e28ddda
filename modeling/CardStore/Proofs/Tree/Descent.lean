/-
  CardStore.Proofs.Tree.Descent
  ─────────────────────────────
  **WHO STANDS IN A TREE.**

  A tree holds the records from which its top is reached by steps from record
  to parent.  Growth leaves out the ancestors of a record, and it may: of a way
  up that comes to a record again and again, the part until it comes there
  first meets neither the record nor what stands above it.

  Main statements:
    * `climbs_of_mem` — what is grown below ancestors climbs up outside them.
    * `mem_of_climbs` — and all that climbs so is grown, if depth is left.
    * `mem_positions_shape_iff` — a tree holds what reaches its top.
    * `nodup_positions_shape` — and holds it once.
    * `nested_shape` — each tree stands below the parent of its top.
-/
import CardStore.Proofs.Tree.Parents
import CardStore.Proofs.Tree.Shape
import Mathlib.Data.List.Nodup
import Mathlib.Data.List.Perm.Subperm
import Mathlib.Logic.Relation

namespace CardStore.Tree.Links

open Relation

/-! ## §1. Ways up. -/

/-- A step from a record to its parent. -/
def Up (l : Links) (i p : Nat) : Prop := l.parents[i]? = some (some p)

/-- A step up from a record that is none of the ancestors. -/
def UpOutside (l : Links) (ancestors : List Nat) (i p : Nat) : Prop := l.Up i p ∧ i ∉ ancestors

/-- A way up on which no ancestor is left again. -/
def Climbs (l : Links) (ancestors : List Nat) : Nat → Nat → Prop :=
  ReflTransGen (l.UpOutside ancestors)

variable {l : Links} {ancestors : List Nat}

theorem Up.unique {i p q : Nat} (h : l.Up i p) (h' : l.Up i q) : p = q :=
  Option.some.inj (Option.some.inj (h.symm.trans h'))

theorem Up.lt_length {i p : Nat} (h : l.Up i p) : i < l.parents.length :=
  (List.getElem?_eq_some_iff.1 h).1

theorem UpOutside.of_cons {i j p : Nat} (h : l.UpOutside (i :: ancestors) j p) :
    l.UpOutside ancestors j p :=
  ⟨h.1, fun hj => h.2 (List.mem_cons_of_mem _ hj)⟩

theorem climbs_nil_iff {j i : Nat} : l.Climbs [] j i ↔ ReflTransGen l.Up j i := by
  have hstep : l.UpOutside [] = l.Up := by
    funext i p
    exact propext ⟨fun h => h.1, fun h => ⟨h, List.not_mem_nil⟩⟩
  rw [Climbs, hstep]

/-- A way up outside ancestors starts outside them, if it ends there. -/
theorem Climbs.not_mem {j i : Nat} (h : l.Climbs ancestors j i) (hi : i ∉ ancestors) :
    j ∉ ancestors := by
  cases ReflTransGen.cases_head h with
  | inl heq =>
    rw [heq]
    exact hi
  | inr hstep =>
    obtain ⟨p, hp, _⟩ := hstep
    exact hp.2

/-- **The first arrival**: a way up to `i` from another record comes through a child of `i`, and
has not met `i` before. -/
theorem Climbs.through {j i : Nat} (h : l.Climbs ancestors j i) :
    j = i ∨ ∃ c, l.UpOutside (i :: ancestors) c i ∧ l.Climbs (i :: ancestors) j c := by
  induction h using ReflTransGen.head_induction_on with
  | refl => exact .inl rfl
  | @head j k hstep _ ih =>
    by_cases hj : j = i
    · exact .inl hj
    · have hstep' : l.UpOutside (i :: ancestors) j k := by
        refine ⟨hstep.1, ?_⟩
        rw [List.mem_cons]
        exact fun hmem => hmem.elim hj hstep.2
      right
      rcases ih with rfl | ⟨c, hc, hway⟩
      · exact ⟨j, hstep', .refl⟩
      · exact ⟨c, hc, .head hstep' hway⟩

/-- Two records that are climbed to from one record stand one above the other. -/
theorem Climbs.total {j c d : Nat} (h : l.Climbs ancestors j c) (h' : l.Climbs ancestors j d) :
    l.Climbs ancestors c d ∨ l.Climbs ancestors d c :=
  ReflTransGen.total_of_right_unique (fun _ _ _ h h' => h.1.unique h'.1) h h'

/-- Children of one record do not stand one above the other: the way would pass the record. -/
theorem Climbs.eq_of_siblings {i c d : Nat} (hc : l.Up c i)
    (hd : l.UpOutside (i :: ancestors) d i) (h : l.Climbs (i :: ancestors) c d) : c = d := by
  rcases ReflTransGen.cases_head h with heq | ⟨p, hp, hway⟩
  · exact heq
  · obtain rfl : p = i := hp.1.unique hc
    exact absurd List.mem_cons_self (Climbs.not_mem hway hd.2)

/-! ## §2. What is grown climbs up, once. -/

theorem mem_open_iff {i c : Nat} :
    c ∈ ((l.childrenOf i).filter fun child => child ∉ i :: ancestors)
      ↔ l.UpOutside (i :: ancestors) c i := by
  rw [List.mem_filter, mem_childrenOf_iff, decide_eq_true_iff]
  rfl

theorem mem_shape_succ_iff {depth i j : Nat} :
    j ∈ (l.shape (depth + 1) ancestors i).positions ↔
      j = i ∨ ∃ c, l.UpOutside (i :: ancestors) c i
        ∧ j ∈ (l.shape depth (i :: ancestors) c).positions := by
  rw [shape, Shape.mem_positions_node]
  refine or_congr_right ?_
  constructor
  · rintro ⟨t, ht, hj⟩
    obtain ⟨c, hc, rfl⟩ := List.mem_map.1 ht
    exact ⟨c, mem_open_iff.1 hc, hj⟩
  · rintro ⟨c, hc, hj⟩
    exact ⟨_, List.mem_map_of_mem (mem_open_iff.2 hc), hj⟩

/-- **What is grown below ancestors** climbs up outside them. -/
theorem climbs_of_mem {j : Nat} : ∀ {depth : Nat} {ancestors : List Nat} {i : Nat},
    j ∈ (l.shape depth ancestors i).positions → l.Climbs ancestors j i := by
  intro depth
  induction depth with
  | zero =>
    intro ancestors i hj
    rcases Shape.mem_positions_node.1 hj with rfl | ⟨t, ht, _⟩
    · exact .refl
    · cases ht
  | succ depth ih =>
    intro ancestors i hj
    rcases mem_shape_succ_iff.1 hj with rfl | ⟨c, hc, hj⟩
    · exact .refl
    · have hway : l.Climbs ancestors j c := ReflTransGen.mono (fun _ _ h => h.of_cons) j c (ih hj)
      exact hway.tail hc.of_cons

/-- **No record stands twice in a tree.** -/
theorem nodup_positions_shape : ∀ (depth : Nat) {ancestors : List Nat} {i : Nat},
    (l.shape depth ancestors i).positions.Nodup := by
  intro depth
  induction depth with
  | zero =>
    intro ancestors i
    exact List.nodup_singleton i
  | succ depth ih =>
    intro ancestors i
    rw [shape, Shape.positions_node, List.nodup_cons, List.flatMap_map, List.nodup_flatMap]
    refine ⟨?_, fun c _ => ih, ?_⟩
    · intro hi
      obtain ⟨c, hc, hi⟩ := List.mem_flatMap.1 hi
      exact (climbs_of_mem hi).not_mem (mem_open_iff.1 hc).2 List.mem_cons_self
    -- what stands in the trees of two children would have one of them above the other
    · refine ((pairwise_childrenOf l i).filter _).imp_of_mem ?_
      intro c d hc hd hlt j hjc hjd
      have hc := mem_open_iff.1 hc
      have hd := mem_open_iff.1 hd
      rcases (climbs_of_mem hjc).total (climbs_of_mem hjd) with hway | hway
      · exact absurd (hway.eq_of_siblings hc.1 hd) (Nat.ne_of_lt hlt)
      · exact absurd (hway.eq_of_siblings hd.1 hc) (Nat.ne_of_gt hlt)

/-! ## §3. All that climbs up is grown. -/

/-- **Enough depth is left**: the ancestors are distinct records, and as many levels are left as
there may be others. -/
structure Room (l : Links) (depth : Nat) (ancestors : List Nat) (i : Nat) : Prop where
  nodup : (i :: ancestors).Nodup
  within : ∀ k ∈ i :: ancestors, k < l.parents.length
  enough : l.parents.length ≤ depth + ancestors.length

theorem Room.pos {depth i : Nat} (h : l.Room depth ancestors i) : 0 < depth := by
  have hsub : i :: ancestors ⊆ List.range l.parents.length :=
    fun k hk => List.mem_range.2 (h.within k hk)
  have hlen : (i :: ancestors).length ≤ (List.range l.parents.length).length :=
    (List.subperm_of_subset h.nodup hsub).length_le
  rw [List.length_range, List.length_cons] at hlen
  have := h.enough
  omega

/-- Growing one level down leaves enough depth. -/
theorem Room.down {depth i c : Nat} (h : l.Room (depth + 1) ancestors i)
    (hc : l.UpOutside (i :: ancestors) c i) : l.Room depth (i :: ancestors) c where
  nodup := List.nodup_cons.2 ⟨hc.2, h.nodup⟩
  within := by
    intro k hk
    rcases List.mem_cons.1 hk with rfl | hk
    · exact hc.1.lt_length
    · exact h.within k hk
  enough := by
    have := h.enough
    rw [List.length_cons]
    omega

/-- **All that climbs up** outside the ancestors is grown, if enough depth is left. -/
theorem mem_of_climbs {j : Nat} : ∀ {depth : Nat} {ancestors : List Nat} {i : Nat},
    l.Room depth ancestors i → l.Climbs ancestors j i →
      j ∈ (l.shape depth ancestors i).positions := by
  intro depth
  induction depth with
  | zero =>
    intro ancestors i hroom _
    exact absurd hroom.pos (Nat.lt_irrefl 0)
  | succ depth ih =>
    intro ancestors i hroom hway
    rw [mem_shape_succ_iff]
    rcases hway.through with rfl | ⟨c, hc, hway⟩
    · exact .inl rfl
    · exact .inr ⟨c, hc, ih (hroom.down hc) hway⟩

/-- As many levels as there are records are enough for a tree without ancestors. -/
theorem room_root {i : Nat} (hi : i < l.parents.length) : l.Room l.parents.length [] i where
  nodup := List.nodup_singleton i
  within := by simpa using hi
  enough := Nat.le_refl _

/-- **A tree holds what reaches its top** by steps from record to parent. -/
theorem mem_positions_shape_iff {i j : Nat} (hi : i < l.parents.length) :
    j ∈ (l.shape l.parents.length [] i).positions ↔ ReflTransGen l.Up j i := by
  rw [← climbs_nil_iff]
  exact ⟨climbs_of_mem, mem_of_climbs (room_root hi)⟩

/-! ## §4. Trees below each other. -/

/-- **Each tree stands below the parent of its top**, and the trees below a record stand in the
order of the records. -/
theorem nested_shape : ∀ (depth : Nat) {ancestors : List Nat} {i : Nat} {part : Shape},
    part ∈ (l.shape depth ancestors i).parts →
      (part.branches.map Shape.position).Pairwise (· < ·)
        ∧ ∀ t ∈ part.branches, l.Up t.position part.position := by
  intro depth
  induction depth with
  | zero =>
    intro ancestors i part hpart
    obtain rfl : part = .node i [] := List.mem_singleton.1 hpart
    exact ⟨.nil, fun t ht => absurd ht List.not_mem_nil⟩
  | succ depth ih =>
    intro ancestors i part hpart
    rw [shape, Shape.parts_node] at hpart
    rcases List.mem_cons.1 hpart with rfl | hpart
    · have hpositions : Shape.position ∘ l.shape depth (i :: ancestors) = id :=
        funext fun c => position_shape l depth (i :: ancestors) c
      constructor
      · show ((List.map (l.shape depth (i :: ancestors)) _).map Shape.position).Pairwise (· < ·)
        rw [List.map_map, hpositions, List.map_id]
        exact (pairwise_childrenOf l i).filter _
      · intro t ht
        obtain ⟨c, hc, rfl⟩ := List.mem_map.1 ht
        rw [position_shape]
        exact (mem_open_iff.1 hc).1
    · obtain ⟨t, ht, hpart⟩ := List.mem_flatMap.1 hpart
      obtain ⟨c, _, rfl⟩ := List.mem_map.1 ht
      exact ih hpart

end CardStore.Tree.Links
