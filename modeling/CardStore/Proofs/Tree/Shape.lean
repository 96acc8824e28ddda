/-
  CardStore.Proofs.Tree.Shape
  ───────────────────────────
  **TREES OF POSITIONS.**

  A tree that is grown from records has a shape, which holds the positions of
  the records in place of the records.  Equal records have different
  positions, so a shape says which record stands where, and how often.

  Main statements:
    * `Shape.preorder_shown` — a tree lists the records of its shape.
    * `Links.record_grow` — the tree that is grown shows the shape of its growth.
-/
import CardStore.Tree.Forest
import Mathlib.Data.List.Basic

namespace CardStore

/-! ## §1. Records in preorder. -/

namespace Record

/-- A record by itself. -/
def bare (r : Record) : Record := r.withChildren none

/-- No record stands below it; the list of children may be missing or empty. -/
def Childless (r : Record) : Prop := r.children.getD [] = []

mutual

/-- A record and all records below it, each by itself: first the record, then what is below its
children, one child after another. -/
def preorder : Record → List Record
  | ⟨es, none⟩ => [⟨es, none⟩]
  | ⟨es, some rs⟩ => ⟨es, none⟩ :: preorderAll rs

def preorderAll : List Record → List Record
  | [] => []
  | r :: rs => preorder r ++ preorderAll rs

end

theorem withChildren_children (r : Record) : r.withChildren r.children = r := by
  cases r
  rfl

theorem Childless.preorder {r : Record} (h : r.Childless) : r.preorder = [r.bare] := by
  obtain ⟨es, children⟩ := r
  cases children with
  | none => rfl
  | some rs =>
    obtain rfl : rs = [] := h
    rfl

/-- Children that are appended one after another. -/
theorem foldl_pushChild : ∀ (rs : List Record) (r : Record),
    rs.foldl pushChild r
      = r.withChildren (if rs = [] then r.children else some (r.children.getD [] ++ rs)) := by
  intro rs
  induction rs with
  | nil =>
    intro r
    rw [if_pos rfl, withChildren_children]
    rfl
  | cons first rs ih =>
    intro r
    rw [List.foldl_cons, ih, if_neg (List.cons_ne_nil _ _)]
    split
    · rename_i hrs
      rw [hrs]
      rfl
    · show r.withChildren (some (r.children.getD [] ++ [first] ++ rs)) = _
      rw [List.append_assoc]
      rfl

end Record

namespace Tree

/-! ## §2. Shapes. -/

/-- **The shape of a tree**: positions of records in place of the records. -/
inductive Shape where
  | node (position : Nat) (branches : List Shape)

namespace Shape

/-- The position of the record at the top. -/
def position : Shape → Nat
  | .node i _ => i

/-- The shapes of the trees below it. -/
def branches : Shape → List Shape
  | .node _ ts => ts

mutual

/-- A shape and all shapes in it, in preorder. -/
def parts : Shape → List Shape
  | .node i ts => .node i ts :: partsAll ts

def partsAll : List Shape → List Shape
  | [] => []
  | t :: ts => parts t ++ partsAll ts

end

/-- The positions in a shape, in preorder. -/
def positions (t : Shape) : List Nat := t.parts.map position

mutual

/-- The tree of a shape: its record, with the trees below it for children if there are any. -/
def shown (records : List Record) : Shape → Record
  | .node i ts => (records[i]?.getD .empty).withChildren
      (if ts.isEmpty then (records[i]?.getD .empty).children else some (shownAll records ts))

def shownAll (records : List Record) : List Shape → List Record
  | [] => []
  | t :: ts => shown records t :: shownAll records ts

end

theorem partsAll_eq : ∀ ts : List Shape, partsAll ts = ts.flatMap parts := by
  intro ts
  induction ts with
  | nil => rfl
  | cons t ts ih => rw [partsAll, ih, List.flatMap_cons]

theorem shownAll_eq (records : List Record) : ∀ ts : List Shape,
    shownAll records ts = ts.map (shown records) := by
  intro ts
  induction ts with
  | nil => rfl
  | cons t ts ih => rw [shownAll, ih, List.map_cons]

theorem parts_node (i : Nat) (ts : List Shape) :
    (node i ts).parts = .node i ts :: ts.flatMap parts := by
  rw [parts, partsAll_eq]

theorem positions_node (i : Nat) (ts : List Shape) :
    (node i ts).positions = i :: ts.flatMap positions := by
  rw [positions, parts_node, List.map_cons, List.map_flatMap]
  rfl

theorem mem_positions_node {i j : Nat} {ts : List Shape} :
    j ∈ (node i ts).positions ↔ j = i ∨ ∃ t ∈ ts, j ∈ t.positions := by
  rw [positions_node, List.mem_cons, List.mem_flatMap]

variable {records : List Record}

/-- No record that stands at a position has children, if none has. -/
theorem childless_getD (h : ∀ r ∈ records, r.Childless) (i : Nat) :
    (records[i]?.getD .empty).Childless := by
  cases hi : records[i]? with
  | none => rfl
  | some r => exact h r (List.mem_of_getElem? hi)

mutual

/-- **A tree lists the records of its shape**, if these come without children. -/
theorem preorder_shown (h : ∀ r ∈ records, r.Childless) : ∀ t : Shape,
    (t.shown records).preorder = t.positions.map fun i => (records[i]?.getD .empty).bare
  | .node i ts => by
    rw [positions_node, List.map_cons, List.map_flatMap, ← preorder_shownAll h ts, shown]
    cases ts with
    | nil =>
      rw [List.isEmpty_nil, if_pos rfl, Record.withChildren_children]
      exact (childless_getD h i).preorder
    | cons t ts => rfl

theorem preorder_shownAll (h : ∀ r ∈ records, r.Childless) : ∀ ts : List Shape,
    Record.preorderAll (shownAll records ts)
      = ts.flatMap fun t => t.positions.map fun i => (records[i]?.getD .empty).bare
  | [] => rfl
  | t :: ts => by
    rw [shownAll, Record.preorderAll, preorder_shown h t, preorder_shownAll h ts,
      List.flatMap_cons]

end

end Shape

/-! ## §3. Growth. -/

namespace Links

/-- The shape that growth gives to a tree below its ancestors. -/
def shape (l : Links) : Nat → List Nat → Nat → Shape
  | 0, _, i => .node i []
  | depth + 1, ancestors, i => .node i
      (((l.childrenOf i).filter fun child => child ∉ i :: ancestors).map
        (l.shape depth (i :: ancestors)))

theorem position_shape (l : Links) (depth : Nat) (ancestors : List Nat) (i : Nat) :
    (l.shape depth ancestors i).position = i := by
  cases depth with
  | zero => rfl
  | succ depth => rfl

/-- A child that is not skipped is appended with what has grown below it. -/
theorem record_foldl (l : Links) (ancestors : List Nat) (i : Nat) (build : Nat → Grown) :
    ∀ (children : List Nat) (g : Grown),
      (children.foldl (fun grown child =>
        if child = i ∨ child ∈ ancestors then
          { grown with skipped := grown.skipped ++ [((l.records[child]?).getD .empty).id?] }
        else
          ⟨grown.record.pushChild (build child).record, grown.skipped ++ (build child).skipped⟩)
        g).record
      = ((children.filter fun child => child ∉ i :: ancestors).map fun child =>
          (build child).record).foldl Record.pushChild g.record := by
  intro children
  induction children with
  | nil =>
    intro g
    rfl
  | cons child children ih =>
    intro g
    rw [List.foldl_cons, ih]
    by_cases hskip : child ∈ i :: ancestors
    · have hout : ¬ decide (child ∉ i :: ancestors) = true := by simp [hskip]
      rw [if_pos (List.mem_cons.1 hskip), List.filter_cons, if_neg hout]
    · have hin : decide (child ∉ i :: ancestors) = true := decide_eq_true hskip
      rw [if_neg (fun h => hskip (List.mem_cons.2 h)), List.filter_cons, if_pos hin]
      rfl

/-- **The tree that is grown** shows the shape of its growth, if records come without children. -/
theorem record_grow {l : Links} (h : ∀ r ∈ l.records, r.Childless) :
    ∀ (depth : Nat) (ancestors : List Nat) (i : Nat),
      (grow l depth ancestors i).record = (l.shape depth ancestors i).shown l.records := by
  intro depth
  induction depth with
  | zero =>
    intro ancestors i
    rw [grow, shape, Shape.shown, List.isEmpty_nil, if_pos rfl, Record.withChildren_children]
  | succ depth ih =>
    intro ancestors i
    have hnone : (l.records[i]?.getD .empty).children.getD [] = [] := Shape.childless_getD h i
    have hgrown : (fun child => (grow l depth (i :: ancestors) child).record)
        = fun child => (l.shape depth (i :: ancestors) child).shown l.records :=
      funext fun child => ih (i :: ancestors) child
    rw [grow]
    dsimp only
    rw [record_foldl, hgrown, Record.foldl_pushChild, hnone, shape, Shape.shown, Shape.shownAll_eq,
      List.map_map]
    cases (l.childrenOf i).filter fun child => child ∉ i :: ancestors with
    | nil => rfl
    | cons child children => rfl

end Links

end Tree

end CardStore
