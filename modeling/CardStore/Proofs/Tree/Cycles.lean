/-
  CardStore.Proofs.Tree.Cycles
  ────────────────────────────
  **CYCLES ARE CUT AT THE ROOT.**

  Growth goes down from a record to its children, and skips those that are
  among its ancestors.  Nothing else ends it, so it is told here without a
  bound: by the steps that it takes, and by how deep they are nested.

  The records from the one that grows up to the root are a line of parents.
  A child that is skipped stands on this line, and its parent is the record
  that grows; everybody on the line but the root has the next one for a
  parent, so it is the root that is skipped.

      a ← b ← c ← a      the tree of a:  a ─ b ─ c, and a is skipped below c

  Main statements:
    * `Nests.unique` — the steps of growth have one outcome.
    * `Links.exists_builds_grow` — growth ends, and is no deeper than there are records.
    * `Links.Lineage.eq_top_of_mem` — a child on the line of its parents is the root.
    * `Links.cuts_eq_or` — the root is skipped once if it is its own ancestor.
    * `grown_cut_at_roots` — every tree of a forest is cut at its root.
-/
import CardStore.Proofs.Tree.Forest

namespace CardStore.Tree

open Relation

/-! ## §1. The steps of growth. -/

/-- The record at a position. -/
def Links.recordAt (l : Links) (i : Nat) : Record := (l.records[i]?).getD .empty

/-- **The children of a record, one after another**: what has grown before them and behind them,
the children that are skipped on the way, and how deep growth is nested.  The record stands first
in `line`, and its ancestors behind it. -/
inductive Nests (l : Links) : (line children : List Nat) → Grown → Grown → (cut : List Nat) →
    (depth : Nat) → Prop where
  | done {line : List Nat} (g : Grown) : Nests l line [] g g [] 0
  /-- A child that is an ancestor is skipped. -/
  | skip {line cs cut : List Nat} {c depth : Nat} {g g' : Grown} : c ∈ line →
    Nests l line cs ⟨g.record, g.skipped ++ [(l.recordAt c).id?]⟩ g' cut depth →
    Nests l line (c :: cs) g g' (c :: cut) depth
  /-- Any other child is appended with what has grown below it. -/
  | nest {line cs cut cut' : List Nat} {c depth depth' : Nat} {g g' below : Grown} : c ∉ line →
    Nests l (c :: line) (l.childrenOf c) ⟨l.recordAt c, []⟩ below cut' depth' →
    Nests l line cs ⟨g.record.pushChild below.record, g.skipped ++ below.skipped⟩ g' cut depth →
    Nests l line (c :: cs) g g' (cut' ++ cut) (max (depth' + 1) depth)

/-- **The tree of a record below its ancestors** grows through its children; `depth` counts the
record itself. -/
def Builds (l : Links) (ancestors : List Nat) (i : Nat) (g : Grown) (cut : List Nat)
    (depth : Nat) : Prop :=
  ∃ d, Nests l (i :: ancestors) (l.childrenOf i) ⟨l.recordAt i, []⟩ g cut d ∧ depth = d + 1

variable {l : Links}

/-- **The steps of growth have one outcome.** -/
theorem Nests.unique {line children cut cut' : List Nat} {g g' g'' : Grown} {depth depth' : Nat}
    (h : Nests l line children g g' cut depth) (h' : Nests l line children g g'' cut' depth') :
    g' = g'' ∧ cut = cut' ∧ depth = depth' := by
  induction h generalizing g'' cut' depth' with
  | done g =>
    cases h'
    exact ⟨rfl, rfl, rfl⟩
  -- whether a child is on the line decides which step is taken
  | skip hc _ ih =>
    cases h' with
    | skip _ h' =>
      obtain ⟨rfl, rfl, rfl⟩ := ih h'
      exact ⟨rfl, rfl, rfl⟩
    | nest hc' _ _ => exact absurd hc hc'
  | nest hc _ _ ihbelow ih =>
    cases h' with
    | skip hc' _ => exact absurd hc' hc
    | nest _ hbelow h' =>
      obtain ⟨rfl, rfl, rfl⟩ := ihbelow hbelow
      obtain ⟨rfl, rfl, rfl⟩ := ih h'
      exact ⟨rfl, rfl, rfl⟩

theorem Builds.unique {ancestors cut cut' : List Nat} {i depth depth' : Nat} {g g' : Grown}
    (h : Builds l ancestors i g cut depth) (h' : Builds l ancestors i g' cut' depth') :
    g = g' ∧ cut = cut' ∧ depth = depth' := by
  obtain ⟨d, h, rfl⟩ := h
  obtain ⟨d', h', rfl⟩ := h'
  obtain ⟨rfl, rfl, rfl⟩ := h.unique h'
  exact ⟨rfl, rfl, rfl⟩

/-- Identifiers are kept of the children that are skipped, in order. -/
theorem Nests.skipped_eq {line children cut : List Nat} {g g' : Grown} {depth : Nat}
    (h : Nests l line children g g' cut depth) :
    g'.skipped = g.skipped ++ cut.map fun c => (l.recordAt c).id? := by
  induction h with
  | done g => exact (List.append_nil _).symm
  | skip _ _ ih => rw [ih, List.append_assoc, List.map_cons, List.singleton_append]
  | nest _ _ _ ihbelow ih =>
    rw [ih, ihbelow, List.nil_append, List.append_assoc, List.map_append]

/-- What has been skipped when a tree has grown. -/
theorem Builds.skipped_eq {ancestors cut : List Nat} {i depth : Nat} {g : Grown}
    (h : Builds l ancestors i g cut depth) :
    g.skipped = cut.map fun c => (l.recordAt c).id? := by
  obtain ⟨d, hnests, _⟩ := h
  exact hnests.skipped_eq

/-! ## §2. Growth ends. -/

namespace Links

/-- The children that are skipped when a tree grows below its ancestors. -/
def cuts (l : Links) : Nat → List Nat → Nat → List Nat
  | 0, _, _ => []
  | depth + 1, ancestors, i => (l.childrenOf i).flatMap fun child =>
      if child ∈ i :: ancestors then [child] else l.cuts depth (i :: ancestors) child

/-- The children of a record grow one after another if each of them does that is not skipped. -/
theorem exists_nests_foldl {ancestors : List Nat} {i depth : Nat} :
    ∀ {children : List Nat}, (∀ c ∈ children, c ∉ i :: ancestors → ∃ d ≤ depth,
        Builds l (i :: ancestors) c (grow l depth (i :: ancestors) c)
          (l.cuts depth (i :: ancestors) c) d) →
      ∀ g : Grown, ∃ d ≤ depth, Nests l (i :: ancestors) children g
        (children.foldl (fun grown child =>
          if child = i ∨ child ∈ ancestors then
            { grown with skipped := grown.skipped ++ [((l.records[child]?).getD .empty).id?] }
          else
            let below := grow l depth (i :: ancestors) child
            ⟨grown.record.pushChild below.record, grown.skipped ++ below.skipped⟩) g)
        (children.flatMap fun child =>
          if child ∈ i :: ancestors then [child] else l.cuts depth (i :: ancestors) child) d := by
  intro children
  induction children with
  | nil => exact fun _ g => ⟨0, Nat.zero_le _, .done g⟩
  | cons c cs ih =>
    intro hchildren g
    have hrest := ih fun c hc => hchildren c (List.mem_cons_of_mem _ hc)
    rw [List.foldl_cons, List.flatMap_cons]
    by_cases hc : c ∈ i :: ancestors
    · rw [if_pos (List.mem_cons.1 hc), if_pos hc]
      obtain ⟨d, hd, h⟩ := hrest _
      exact ⟨d, hd, .skip hc h⟩
    · rw [if_neg (fun h => hc (List.mem_cons.2 h)), if_neg hc]
      obtain ⟨_, hbelow, d', hnests, rfl⟩ := hchildren c List.mem_cons_self hc
      obtain ⟨d, hd, h⟩ := hrest _
      exact ⟨_, Nat.max_le.2 ⟨hbelow, hd⟩, .nest hc hnests h⟩

/-- **Growth ends where enough depth is left**, and is nested no deeper than that. -/
theorem exists_builds_grow : ∀ {depth : Nat} {ancestors : List Nat} {i : Nat},
    l.Room depth ancestors i → ∃ d ≤ depth,
      Builds l ancestors i (grow l depth ancestors i) (l.cuts depth ancestors i) d := by
  intro depth
  induction depth with
  | zero =>
    intro ancestors i hroom
    exact absurd hroom.pos (Nat.lt_irrefl 0)
  | succ depth ih =>
    intro ancestors i hroom
    have hchildren : ∀ c ∈ l.childrenOf i, c ∉ i :: ancestors → ∃ d ≤ depth,
        Builds l (i :: ancestors) c (grow l depth (i :: ancestors) c)
          (l.cuts depth (i :: ancestors) c) d :=
      fun c hc hout => ih (hroom.down ⟨mem_childrenOf_iff.1 hc, hout⟩)
    obtain ⟨d, hd, hnests⟩ := exists_nests_foldl hchildren ⟨l.recordAt i, []⟩
    exact ⟨d + 1, Nat.succ_le_succ hd, d, hnests, rfl⟩

/-! ## §3. The line of parents. -/

instance (l : Links) : DecidableRel l.Up :=
  fun i p => inferInstanceAs (Decidable (l.parents[i]? = some (some p)))

/-- **A line of parents** up to the top. -/
inductive Lineage (l : Links) (top : Nat) : List Nat → Prop where
  | top : Lineage l top [top]
  | up {c i : Nat} {line : List Nat} : l.Up c i → Lineage l top (i :: line) →
    Lineage l top (c :: i :: line)

variable {top : Nat} {line : List Nat}

theorem Lineage.top_mem (h : l.Lineage top line) : top ∈ line := by
  induction h with
  | top => exact List.mem_singleton_self top
  | up _ _ ih => exact List.mem_cons_of_mem _ ih

/-- Everybody on the line but the top has a parent that stands behind on it. -/
theorem Lineage.eq_top_or_up (h : l.Lineage top line) {c : Nat} (hc : c ∈ line) :
    c = top ∨ ∃ p ∈ line.tail, l.Up c p := by
  induction h with
  | top => exact .inl (List.mem_singleton.1 hc)
  | @up c' i line hup _ ih =>
    rcases List.mem_cons.1 hc with rfl | hc
    · exact .inr ⟨i, List.mem_cons_self, hup⟩
    · rcases ih hc with htop | ⟨p, hp, hup⟩
      · exact .inl htop
      · exact .inr ⟨p, List.mem_cons_of_mem _ hp, hup⟩

/-- **A child on the line of its parents is the top**: anybody else there has a parent further
behind, and no other one. -/
theorem Lineage.eq_top_of_mem {i c : Nat} {ancestors : List Nat}
    (h : l.Lineage top (i :: ancestors)) (hnodup : (i :: ancestors).Nodup) (hup : l.Up c i)
    (hc : c ∈ i :: ancestors) : c = top := by
  rcases h.eq_top_or_up hc with htop | ⟨p, hp, hup'⟩
  · exact htop
  · rw [hup'.unique hup] at hp
    exact absurd hp (List.nodup_cons.1 hnodup).1

/-- Of the children of a record at most one is skipped: the top, if it is one of them. -/
theorem Lineage.countP_childrenOf {i : Nat} {ancestors : List Nat}
    (h : l.Lineage top (i :: ancestors)) (hnodup : (i :: ancestors).Nodup) :
    (l.childrenOf i).countP (· ∈ i :: ancestors) = if l.Up top i then 1 else 0 := by
  have honly : (l.childrenOf i).countP (· ∈ i :: ancestors) = (l.childrenOf i).count top := by
    refine List.countP_congr fun c hc => ?_
    rw [decide_eq_true_iff, beq_iff_eq]
    refine ⟨h.eq_top_of_mem hnodup (mem_childrenOf_iff.1 hc), ?_⟩
    rintro rfl
    exact h.top_mem
  have hchildren : (l.childrenOf i).Nodup := (pairwise_childrenOf l i).imp Nat.ne_of_lt
  rw [honly, hchildren.count]
  exact if_congr mem_childrenOf_iff rfl rfl

/-! ## §4. What is skipped. -/

/-- Some elements of a list stand for themselves, and the others for lists. -/
theorem length_flatMap_ite (line : List Nat) (f : Nat → List Nat) : ∀ cs : List Nat,
    (cs.flatMap fun c => if c ∈ line then [c] else f c).length
      = cs.countP (· ∈ line) + ((cs.filter (· ∉ line)).flatMap f).length := by
  intro cs
  induction cs with
  | nil => rfl
  | cons c cs ih =>
    rw [List.flatMap_cons, List.length_append, ih, List.countP_cons, List.filter_cons]
    by_cases hc : c ∈ line
    · simp only [hc, if_true, decide_true, not_true_eq_false, decide_false, Bool.false_eq_true,
        if_false, List.length_singleton]
      omega
    · simp only [hc, if_false, decide_false, not_false_eq_true, decide_true, if_true,
        Bool.false_eq_true, List.flatMap_cons, List.length_append]
      omega

/-- **Only the top is skipped.** -/
theorem eq_top_of_mem_cuts {c : Nat} : ∀ {depth : Nat} {ancestors : List Nat} {i : Nat},
    l.Room depth ancestors i → l.Lineage top (i :: ancestors) → c ∈ l.cuts depth ancestors i →
      c = top := by
  intro depth
  induction depth with
  | zero =>
    intro ancestors i _ _ hc
    cases hc
  | succ depth ih =>
    intro ancestors i hroom hline hc
    obtain ⟨child, hchild, hc⟩ := List.mem_flatMap.1 hc
    have hup := mem_childrenOf_iff.1 hchild
    split at hc
    · rename_i hmem
      rw [List.mem_singleton.1 hc]
      exact hline.eq_top_of_mem hroom.nodup hup hmem
    · rename_i hout
      exact ih (hroom.down ⟨hup, hout⟩) (.up hup hline) hc

/-- **The top is skipped below its parent**, as often as that is grown. -/
theorem length_cuts : ∀ {depth : Nat} {ancestors : List Nat} {i : Nat},
    l.Room depth ancestors i → l.Lineage top (i :: ancestors) →
      (l.cuts depth ancestors i).length
        = (l.shape depth ancestors i).positions.countP (l.Up top ·) := by
  intro depth
  induction depth with
  | zero =>
    intro ancestors i hroom _
    exact absurd hroom.pos (Nat.lt_irrefl 0)
  | succ depth ih =>
    intro ancestors i hroom hline
    have hbelow : ∀ c ∈ (l.childrenOf i).filter (· ∉ i :: ancestors),
        (l.cuts depth (i :: ancestors) c).length
          = (l.shape depth (i :: ancestors) c).positions.countP (l.Up top ·) := by
      intro c hc
      have hopen := mem_open_iff.1 hc
      exact ih (hroom.down hopen) (.up hopen.1 hline)
    -- the top is skipped here if this is its parent, and below children that grow otherwise
    rw [cuts, length_flatMap_ite, hline.countP_childrenOf hroom.nodup, List.length_flatMap,
      List.map_congr_left hbelow, shape, Shape.positions_node, List.countP_cons,
      List.flatMap_map, List.countP_flatMap, Nat.add_comm]
    simp only [decide_eq_true_eq]
    rfl

/-- **The root is skipped once if it is its own ancestor**, and otherwise nothing is. -/
theorem cuts_eq_or {i : Nat} (hi : i < l.parents.length) :
    TransGen l.Up i i ∧ l.cuts l.parents.length [] i = [i]
      ∨ ¬ TransGen l.Up i i ∧ l.cuts l.parents.length [] i = [] := by
  have hlength := length_cuts (room_root hi) (.top : l.Lineage i [i])
  have honly {c : Nat} (hc : c ∈ l.cuts l.parents.length [] i) : c = i :=
    eq_top_of_mem_cuts (room_root hi) .top hc
  by_cases hcycle : TransGen l.Up i i
  · left
    refine ⟨hcycle, ?_⟩
    obtain ⟨p, hup, hway⟩ := TransGen.head'_iff.1 hcycle
    have hparent : (fun j => decide (l.Up i j)) = (· == p) := by
      funext j
      rw [Bool.eq_iff_iff, decide_eq_true_iff, beq_iff_eq]
      exact ⟨fun h => h.unique hup, fun h => h ▸ hup⟩
    -- the one parent of the root stands below the root, and once
    have hcount : (l.shape l.parents.length [] i).positions.count p = 1 := by
      rw [(nodup_positions_shape _).count, if_pos ((mem_positions_shape_iff hi).2 hway)]
    rw [hparent, ← List.count, hcount] at hlength
    obtain ⟨c, hc⟩ := List.length_eq_one_iff.1 hlength
    have htop : c = i := honly (by rw [hc]; exact List.mem_singleton_self c)
    rw [hc, htop]
  · right
    refine ⟨hcycle, List.eq_nil_of_length_eq_zero ?_⟩
    rw [hlength, List.countP_eq_zero]
    intro j hj hup
    exact hcycle (TransGen.head'_iff.2
      ⟨j, of_decide_eq_true hup, (mem_positions_shape_iff hi).1 hj⟩)

/-! ## §5. Trees and their parts. -/

/-- Every tree in a tree has grown below some ancestors. -/
theorem exists_shape_of_mem_parts {part : Shape} : ∀ {depth : Nat} {ancestors : List Nat}
    {i : Nat}, part ∈ (l.shape depth ancestors i).parts →
      ∃ depth' ancestors' j, part = l.shape depth' ancestors' j := by
  intro depth
  induction depth with
  | zero =>
    intro ancestors i hpart
    obtain rfl : part = .node i [] := List.mem_singleton.1 hpart
    exact ⟨0, [], i, rfl⟩
  | succ depth ih =>
    intro ancestors i hpart
    rw [shape, Shape.parts_node] at hpart
    rcases List.mem_cons.1 hpart with rfl | hpart
    · exact ⟨depth + 1, ancestors, i, rfl⟩
    · obtain ⟨t, ht, hpart⟩ := List.mem_flatMap.1 hpart
      obtain ⟨c, _, rfl⟩ := List.mem_map.1 ht
      exact ih hpart

/-- **No record stands below itself.** -/
theorem position_not_mem_below {depth : Nat} {ancestors : List Nat} {i : Nat} {part : Shape}
    (h : part ∈ (l.shape depth ancestors i).parts) :
    part.position ∉ part.branches.flatMap Shape.positions := by
  obtain ⟨depth', ancestors', j, rfl⟩ := exists_shape_of_mem_parts h
  have hnodup : (l.shape depth' ancestors' j).positions.Nodup := nodup_positions_shape _
  generalize l.shape depth' ancestors' j = part at hnodup
  cases part with
  | node k ts =>
    rw [Shape.positions_node] at hnodup
    exact (List.nodup_cons.1 hnodup).1

end Links

/-! ## §6. Forests. -/

variable {records : List Record} {parentPath : String} {condition : Option Record}

/-- **A tree that is cut at its root.** -/
structure CutAtRoot (records : List Record) (parentPath : String) (t : Shape) (g : Grown) :
    Prop where
  shown : g.record = t.shown records
  /-- No record stands below itself. -/
  proper : ∀ part ∈ t.parts, part.position ∉ part.branches.flatMap Shape.positions
  /-- Growth ends in one way, and is nested no deeper than there are records.  If the root is its
  own ancestor, it is skipped once and nothing else is; otherwise nothing is. -/
  ends : ∃ cut depth, Builds (Links.of records parentPath) [] t.position g cut depth
    ∧ depth ≤ records.length
    ∧ (∀ g' cut' depth', Builds (Links.of records parentPath) [] t.position g' cut' depth' →
      g' = g ∧ cut' = cut ∧ depth' = depth)
    ∧ g.skipped = cut.map (fun c => ((records[c]?).getD .empty).id?)
    ∧ (TransGen (ParentAt records parentPath) t.position t.position ∧ cut = [t.position]
      ∨ ¬ TransGen (ParentAt records parentPath) t.position t.position ∧ cut = [])

theorem cutAtRoot_grow (h : ∀ r ∈ records, r.Childless) {i : Nat} (hi : i < records.length) :
    CutAtRoot records parentPath ((Links.of records parentPath).shape records.length [] i)
      (grow (Links.of records parentPath) records.length [] i) := by
  have hlength : records.length = (Links.of records parentPath).parents.length :=
    Links.length_parents_of.symm
  have hi' : i < (Links.of records parentPath).parents.length := hlength ▸ hi
  have hroom := Links.room_root hi'
  rw [← hlength] at hroom
  obtain ⟨depth, hdepth, hbuilds⟩ := Links.exists_builds_grow hroom
  have hcut := Links.cuts_eq_or hi'
  rw [up_of_eq, ← hlength] at hcut
  constructor
  · exact Links.record_grow (l := Links.of records parentPath) h records.length [] i
  · exact fun part hpart => Links.position_not_mem_below hpart
  · rw [Links.position_shape]
    exact ⟨_, depth, hbuilds, hdepth, fun g' cut' depth' h' => h'.unique hbuilds,
      hbuilds.skipped_eq, hcut⟩

/-- **Every tree of a forest is cut at its root**: the recursion ends, no deeper than there are
records; no record stands below itself; and a child is skipped only if it is the root, once if
that is its own ancestor and otherwise not at all. -/
theorem grown_cut_at_roots (records : List Record) (parentPath : String)
    (condition : Option Record) (h : ∀ r ∈ records, r.Childless) :
    ∃ forest : List Shape,
      forest.map Shape.position = (Links.of records parentPath).roots condition
      ∧ assemble records parentPath condition = forest.map (Shape.shown records)
      ∧ List.Forall₂ (CutAtRoot records parentPath) forest
        (grown records parentPath condition) := by
  refine ⟨shapes records parentPath condition, positions_shapes, assemble_eq_shown h, ?_⟩
  rw [shapes, grown, List.forall₂_map_left_iff, List.forall₂_map_right_iff, List.forall₂_same]
  exact fun i hi => cutAtRoot_grow h (root_lt_length hi)

/-- Of two records that are parents of each other, the one that is a root is skipped below the other
one. -/
theorem grown_cut_at_roots_tangled :
    (∀ r ∈ tangledRecords, r.Childless) ∧ ∃ t g, CutAtRoot tangledRecords "parent" t g
      ∧ t.position = 3 ∧ g.skipped = [some (.int 3)]
      ∧ g ∈ grown tangledRecords "parent" (some (.ofList [("ID", .string "3")])) := by
  have h : ∀ r ∈ tangledRecords, r.Childless := by
    simp [tangledRecords, Record.Childless, Record.ofList]
  have hroots : (Links.of tangledRecords "parent").roots (some (.ofList [("ID", .string "3")]))
      = [3] := by decide +kernel
  have hskipped : (grown tangledRecords "parent" (some (.ofList [("ID", .string "3")]))).map
      (fun g => g.skipped.length) = [1] := by decide +kernel
  obtain ⟨forest, hpositions, -, hforest⟩ :=
    grown_cut_at_roots tangledRecords "parent" (some (.ofList [("ID", .string "3")])) h
  rw [hroots] at hpositions
  obtain ⟨t, rest, rfl, hposition, hrest⟩ := List.map_eq_cons_iff.1 hpositions
  obtain rfl := List.map_eq_nil_iff.1 hrest
  obtain ⟨g, gs, hcut, hnone, hgrown⟩ := List.forall₂_cons_left_iff.1 hforest
  obtain rfl := List.forall₂_nil_left_iff.1 hnone
  rw [hgrown] at hskipped ⊢
  obtain ⟨cut, _, _, _, _, hids, ⟨_, rfl⟩ | ⟨_, rfl⟩⟩ := hcut.ends
  · refine ⟨h, t, g, hcut, hposition, ?_, List.mem_singleton_self g⟩
    rw [hids, hposition]
    rfl
  · rw [List.map_singleton, hids] at hskipped
    cases hskipped

end CardStore.Tree
