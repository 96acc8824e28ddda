/-
  CardStore.Proofs.Tree.Forest
  ────────────────────────────
  **WHAT A FOREST HOLDS.**

  Without a condition on roots, records whose way up ends stand in the forest
  once each, and records that lead into a cycle stand nowhere.  With a
  condition, every record that meets it has a tree of its own, which holds all
  that leads up to it; a record on a cycle is no exception.

  Main statements:
    * `assemble_partitions` — the trees below parentless records.
    * `assemble_descendants` — the trees below chosen records.
-/
import CardStore.Proofs.Tree.Descent

namespace CardStore.Tree

open Relation

/-! ## §1. Shapes of a forest. -/

/-- The way up from a record ends at a record without a parent. -/
def Ends (records : List Record) (parentPath : String) (i : Nat) : Prop :=
  ∃ r, ReflTransGen (ParentAt records parentPath) i r ∧ Parentless records parentPath r

/-- **Trees under their parents**: whatever stands below a record has it for a parent, and stands
in the order of the records. -/
def Shape.Nested (records : List Record) (parentPath : String) (t : Shape) : Prop :=
  ∀ part ∈ t.parts, (part.branches.map Shape.position).Pairwise (· < ·)
    ∧ ∀ b ∈ part.branches, ParentAt records parentPath b.position part.position

/-- The shapes of the trees of a list of records. -/
def shapes (records : List Record) (parentPath : String) (condition : Option Record) :
    List Shape :=
  ((Links.of records parentPath).roots condition).map
    ((Links.of records parentPath).shape records.length [])

variable {records : List Record} {parentPath : String} {condition : Option Record}

theorem up_of_eq : (Links.of records parentPath).Up = ParentAt records parentPath := by
  funext i p
  exact propext Links.parents_of_iff

theorem positions_shapes : (shapes records parentPath condition).map Shape.position
    = (Links.of records parentPath).roots condition := by
  have hposition : Shape.position ∘ (Links.of records parentPath).shape records.length [] = id :=
    funext fun i => Links.position_shape _ _ _ i
  rw [shapes, List.map_map, hposition, List.map_id]

/-- A way up starts at a record of the list, if it ends at one. -/
theorem lt_length_of_up {i j : Nat} (h : ReflTransGen (ParentAt records parentPath) i j)
    (hj : j < records.length) : i < records.length := by
  rcases ReflTransGen.cases_head h with rfl | ⟨p, hp, _⟩
  · exact hj
  · exact hp.lt_length

theorem root_lt_length {i : Nat} (h : i ∈ (Links.of records parentPath).roots condition) :
    i < records.length := by
  obtain ⟨e, hr, _⟩ := Links.mem_roots_of_iff.1 h
  exact (List.getElem?_eq_some_iff.1 hr).1

/-- **Each tree of a forest** holds what leads up to its root. -/
theorem mem_positions_iff {t : Shape} (ht : t ∈ shapes records parentPath condition) {j : Nat} :
    j ∈ t.positions ↔ ReflTransGen (ParentAt records parentPath) j t.position := by
  obtain ⟨i, hi, rfl⟩ := List.mem_map.1 ht
  have hlt : i < (Links.of records parentPath).parents.length := by
    rw [Links.length_parents_of]
    exact root_lt_length hi
  have hiff := Links.mem_positions_shape_iff (j := j) hlt
  rw [Links.length_parents_of, up_of_eq] at hiff
  rw [hiff, Links.position_shape]

theorem nodup_positions {t : Shape} (ht : t ∈ shapes records parentPath condition) :
    t.positions.Nodup := by
  obtain ⟨i, _, rfl⟩ := List.mem_map.1 ht
  exact Links.nodup_positions_shape _

theorem nested_shapes {t : Shape} (ht : t ∈ shapes records parentPath condition) :
    t.Nested records parentPath := by
  obtain ⟨i, _, rfl⟩ := List.mem_map.1 ht
  intro part hpart
  have hnested := Links.nested_shape _ hpart
  rw [up_of_eq] at hnested
  exact hnested

/-! ## §2. The trees, and their listing. -/

theorem assemble_eq_shown (h : ∀ r ∈ records, r.Childless) :
    assemble records parentPath condition
      = (shapes records parentPath condition).map (Shape.shown records) := by
  rw [assemble, grown, shapes, List.map_map, List.map_map]
  exact List.map_congr_left fun i _ =>
    Links.record_grow (l := Links.of records parentPath) h records.length [] i

/-- All positions of a forest are positions of records. -/
theorem lt_length_of_mem {i : Nat}
    (h : i ∈ (shapes records parentPath condition).flatMap Shape.positions) :
    i < records.length := by
  obtain ⟨t, ht, hi⟩ := List.mem_flatMap.1 h
  have hroot : t.position ∈ (Links.of records parentPath).roots condition := by
    rw [← positions_shapes]
    exact List.mem_map_of_mem ht
  exact lt_length_of_up ((mem_positions_iff ht).1 hi) (root_lt_length hroot)

/-- **A forest lists the records** at the positions of its shapes. -/
theorem preorder_assemble (h : ∀ r ∈ records, r.Childless) :
    ((assemble records parentPath condition).flatMap Record.preorder).map some
      = ((shapes records parentPath condition).flatMap Shape.positions).map
          fun i => records[i]?.map Record.bare := by
  have hlist : (assemble records parentPath condition).flatMap Record.preorder
      = ((shapes records parentPath condition).flatMap Shape.positions).map
          fun i => (records[i]?.getD .empty).bare := by
    rw [assemble_eq_shown h, List.flatMap_map, List.map_flatMap]
    exact List.flatMap_congr fun t _ => Shape.preorder_shown h t
  rw [hlist, List.map_map]
  refine List.map_congr_left ?_
  intro i hi
  show some (records[i]?.getD .empty).bare = _
  rw [List.getElem?_eq_getElem (lt_length_of_mem hi)]
  rfl

/-! ## §3. Without a condition. -/

/-- **A partition of the records whose way up ends.** -/
structure Partitions (records : List Record) (parentPath : String) (forest : List Shape) :
    Prop where
  /-- The roots are the records without a parent. -/
  mem_roots_iff : ∀ i, i ∈ forest.map Shape.position ↔ Parentless records parentPath i
  /-- Roots stand in the order of the records. -/
  roots_sorted : (forest.map Shape.position).Pairwise (· < ·)
  /-- A record stands in the forest if its way up ends, and only then. -/
  mem_iff : ∀ i, i ∈ forest.flatMap Shape.positions ↔ Ends records parentPath i
  /-- No record stands in the forest twice. -/
  nodup : (forest.flatMap Shape.positions).Nodup
  nested : ∀ t ∈ forest, t.Nested records parentPath

theorem eq_of_parentless {i j : Nat} (hi : Parentless records parentPath i)
    (h : ReflTransGen (ParentAt records parentPath) i j) : i = j := by
  rcases ReflTransGen.cases_head h with heq | ⟨p, hp, _⟩
  · exact heq
  · exact absurd hp (hi.2 p)

/-- No record stands below two roots that have no parent. -/
theorem nodup_flatMap_positions :
    ((shapes records parentPath none).flatMap Shape.positions).Nodup := by
  rw [List.nodup_flatMap]
  refine ⟨fun t ht => nodup_positions ht, ?_⟩
  have hsorted := Links.pairwise_roots (Links.of records parentPath) none
  rw [← positions_shapes, List.pairwise_map] at hsorted
  refine hsorted.imp_of_mem ?_
  intro t u ht hu hlt j hjt hju
  have hroot {t : Shape} (ht : t ∈ shapes records parentPath none) :
      Parentless records parentPath t.position := by
    rw [← Links.mem_roots_of_none_iff, ← positions_shapes]
    exact List.mem_map_of_mem ht
  -- of two records above `j` one is above the other, so that one has a parent
  rcases ReflTransGen.total_of_right_unique (fun _ _ _ h h' => h.unique h')
      ((mem_positions_iff ht).1 hjt) ((mem_positions_iff hu).1 hju) with hway | hway
  · exact absurd (eq_of_parentless (hroot ht) hway) (Nat.ne_of_lt hlt)
  · exact absurd (eq_of_parentless (hroot hu) hway) (Nat.ne_of_gt hlt)

/-- **Without a condition on roots, the forest is a partition** of the records whose way up ends:
each of them is listed once, and no other record is listed. -/
theorem assemble_partitions (records : List Record) (parentPath : String)
    (h : ∀ r ∈ records, r.Childless) :
    ∃ forest : List Shape,
      assemble records parentPath none = forest.map (Shape.shown records)
      ∧ ((assemble records parentPath none).flatMap Record.preorder).map some
          = (forest.flatMap Shape.positions).map (fun i => records[i]?.map Record.bare)
      ∧ Partitions records parentPath forest := by
  have hroots (i : Nat) : i ∈ (shapes records parentPath none).map Shape.position
      ↔ Parentless records parentPath i := by
    rw [positions_shapes]
    exact Links.mem_roots_of_none_iff
  refine ⟨shapes records parentPath none, assemble_eq_shown h, preorder_assemble h, ?_⟩
  exact {
    mem_roots_iff := hroots
    roots_sorted := by
      rw [positions_shapes]
      exact Links.pairwise_roots _ _
    mem_iff := by
      intro i
      rw [List.mem_flatMap]
      constructor
      · rintro ⟨t, ht, hi⟩
        exact ⟨t.position, (mem_positions_iff ht).1 hi, (hroots _).1 (List.mem_map_of_mem ht)⟩
      · rintro ⟨r, hway, hr⟩
        obtain ⟨t, ht, rfl⟩ := List.mem_map.1 ((hroots r).2 hr)
        exact ⟨t, ht, (mem_positions_iff ht).2 hway⟩
    nodup := nodup_flatMap_positions
    nested := fun _ ht => nested_shapes ht
  }

/-- Records of which two have one identifier by text, two stand on a cycle, one leads into it,
one is its own parent, and two have no identifier. -/
def tangledRecords : List Record :=
  [.ofList [("ID", .int 1), ("parent", .null)],
   .ofList [("ID", .string "1"), ("parent", .string "7")],
   .ofList [("ID", .int 2), ("parent", .int 1)],
   .ofList [("ID", .int 3), ("parent", .string "4")],
   .ofList [("ID", .int 4), ("parent", .int 3)],
   .ofList [("ID", .null), ("parent", .int 2)],
   .ofList [("parent", .int 4)],
   .ofList [("ID", .int 5), ("parent", .int 5)]]

theorem assemble_partitions_tangled :
    (∀ r ∈ tangledRecords, r.Childless) ∧
    ∃ forest : List Shape,
      assemble tangledRecords "parent" none = forest.map (Shape.shown tangledRecords)
      ∧ ((assemble tangledRecords "parent" none).flatMap Record.preorder).map some
          = (forest.flatMap Shape.positions).map (fun i => tangledRecords[i]?.map Record.bare)
      ∧ Partitions tangledRecords "parent" forest := by
  have h : ∀ r ∈ tangledRecords, r.Childless := by
    simp [tangledRecords, Record.Childless, Record.ofList]
  exact ⟨h, assemble_partitions tangledRecords "parent" h⟩

/-- Nothing of the cycle is listed. -/
example : (shapes tangledRecords "parent" none).map Shape.positions = [[0], [1, 2, 5]] := by cbv

/-! ## §4. With a condition. -/

/-- **A tree of descendants for each record that meets a condition.** -/
structure Descendants (records : List Record) (parentPath : String) (condition : Record)
    (forest : List Shape) : Prop where
  /-- The roots are the records that meet the condition. -/
  mem_roots_iff : ∀ i, i ∈ forest.map Shape.position ↔
    ∃ r, records[i]? = some r ∧ Meets condition r
  /-- Roots stand in the order of the records. -/
  roots_sorted : (forest.map Shape.position).Pairwise (· < ·)
  /-- A tree holds the records that lead up to its root. -/
  mem_iff : ∀ t ∈ forest, ∀ j, j ∈ t.positions ↔
    ReflTransGen (ParentAt records parentPath) j t.position
  /-- No record stands in a tree twice. -/
  nodup : ∀ t ∈ forest, t.positions.Nodup
  nested : ∀ t ∈ forest, t.Nested records parentPath

/-- **With a condition on roots, each record that meets it has the tree of its descendants**,
wherever it stands among the others. -/
theorem assemble_descendants (records : List Record) (parentPath : String) (condition : Record)
    (h : ∀ r ∈ records, r.Childless) :
    ∃ forest : List Shape,
      assemble records parentPath (some condition) = forest.map (Shape.shown records)
      ∧ ((assemble records parentPath (some condition)).flatMap Record.preorder).map some
          = (forest.flatMap Shape.positions).map (fun i => records[i]?.map Record.bare)
      ∧ Descendants records parentPath condition forest := by
  refine ⟨shapes records parentPath (some condition), assemble_eq_shown h, preorder_assemble h, ?_⟩
  exact {
    mem_roots_iff := by
      intro i
      rw [positions_shapes]
      exact Links.mem_roots_of_some_iff
    roots_sorted := by
      rw [positions_shapes]
      exact Links.pairwise_roots _ _
    mem_iff := fun _ ht _ => mem_positions_iff ht
    nodup := fun _ ht => nodup_positions ht
    nested := fun _ ht => nested_shapes ht
  }

theorem assemble_descendants_tangled :
    (∀ r ∈ tangledRecords, r.Childless) ∧
    ∃ forest : List Shape,
      assemble tangledRecords "parent" (some (.ofList [("ID", .string "3")]))
          = forest.map (Shape.shown tangledRecords)
      ∧ ((assemble tangledRecords "parent" (some (.ofList [("ID", .string "3")]))).flatMap
            Record.preorder).map some
          = (forest.flatMap Shape.positions).map (fun i => tangledRecords[i]?.map Record.bare)
      ∧ Descendants tangledRecords "parent" (.ofList [("ID", .string "3")]) forest := by
  have h : ∀ r ∈ tangledRecords, r.Childless := by
    simp [tangledRecords, Record.Childless, Record.ofList]
  exact ⟨h, assemble_descendants tangledRecords "parent" (.ofList [("ID", .string "3")]) h⟩

/-- The cycle is cut where it would come back to the root. -/
example : (shapes tangledRecords "parent" (some (.ofList [("ID", .string "3")]))).map
    Shape.positions = [[3, 4, 6]] := by decide +kernel

end CardStore.Tree
