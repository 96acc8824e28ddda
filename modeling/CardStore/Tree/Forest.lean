/-
  CardStore.Tree.Forest
  ─────────────────────
  **FROM RECORDS TO TREES.**

  Records are nested under their parents.  The parent of a record is the last
  record whose identifier has the same text as the record's value under the
  parent path.  Without a condition on roots, the roots are the records
  without a parent; with one, those that meet it, wherever else they stand.

  A record is never nested inside itself: a child that is an ancestor of its
  parent is skipped.
-/
import CardStore.Event
import CardStore.Record.Basic
import CardStore.Value.Inspect

namespace CardStore.Tree

/-- The text by which identifiers are compared; null names nothing. -/
def nodeKey : Value → Option String
  | .null => none
  | v => some v.display

/-- The key of a record. -/
def keyOf (r : Record) : Option String := r.id?.bind nodeKey

/-- The key of a record's parent. -/
def parentKeyOf (parentPath : String) (r : Record) : Option String :=
  (r.get? parentPath).bind nodeKey

/-- The last position of a key, the first key standing at a position. -/
def lastFrom? (key : String) (position : Nat) : List (Option String) → Option Nat
  | [] => none
  | k :: ks =>
    match lastFrom? key (position + 1) ks with
    | some i => some i
    | none => if k = some key then some position else none

/-- Whether a record has the values that a condition asks for; a missing path counts as null. -/
def isRoot (condition r : Record) : Bool :=
  condition.entries.toList.all fun (path, expected) => ((r.get? path).getD .null).looseEq expected

/-- Records with the positions of their parents. -/
structure Links where
  records : List Record
  parents : List (Option Nat)

namespace Links

/-- Link records by a parent path. -/
def of (records : List Record) (parentPath : String) : Links :=
  let keys := records.map keyOf
  ⟨records, records.map fun r => (parentKeyOf parentPath r).bind fun key => lastFrom? key 0 keys⟩

/-- The positions with a parent, the first parent standing at a position. -/
def positionsOf (parent : Nat) (position : Nat) : List (Option Nat) → List Nat
  | [] => []
  | p :: ps =>
    let rest := positionsOf parent (position + 1) ps
    if p = some parent then position :: rest else rest

/-- The children of the record at a position. -/
def childrenOf (l : Links) (i : Nat) : List Nat := positionsOf i 0 l.parents

/-- The positions of the roots, the first record standing at a position. -/
def rootsFrom (condition : Option Record) (position : Nat) :
    List (Record × Option Nat) → List Nat
  | [] => []
  | (r, parent) :: rest =>
    let roots := rootsFrom condition (position + 1) rest
    let chosen := match condition with
      | none => parent.isNone
      | some c => isRoot c r
    if chosen then position :: roots else roots

/-- The positions of the roots. -/
def roots (l : Links) (condition : Option Record) : List Nat :=
  rootsFrom condition 0 (l.records.zip l.parents)

end Links

/-- A tree, and the identifiers of children that were skipped on the way. -/
structure Grown where
  record : Record
  skipped : List (Option Value)

/-- Grow the tree of the record at a position below its ancestors.  A chain of distinct records
is no longer than the list of them, which bounds the depth. -/
def grow (l : Links) : Nat → List Nat → Nat → Grown
  | 0, _, i => ⟨(l.records[i]?).getD .empty, []⟩
  | depth + 1, ancestors, i =>
    let node := (l.records[i]?).getD .empty
    (l.childrenOf i).foldl (fun grown child =>
      -- A child that is its own ancestor closes a cycle.
      if child = i ∨ child ∈ ancestors then
        { grown with skipped := grown.skipped ++ [((l.records[child]?).getD .empty).id?] }
      else
        let below := grow l depth (i :: ancestors) child
        ⟨grown.record.pushChild below.record, grown.skipped ++ below.skipped⟩) ⟨node, []⟩

/-- Nest records under their parents. -/
def grown (records : List Record) (parentPath : String) (condition : Option Record) : List Grown :=
  let l := Links.of records parentPath
  (l.roots condition).map (grow l records.length [])

/-- The event of a child that was skipped. -/
def skippedEvent (id : Option Value) : Event :=
  ⟨.warn, "ancestry cycle, child skipped", [("id", Value.inspectOption id)]⟩

/-- The trees of a list of records. -/
def assemble (records : List Record) (parentPath : String) (condition : Option Record) :
    List Record :=
  (grown records parentPath condition).map (·.record)

/-- The events of nesting a list of records. -/
def events (records : List Record) (parentPath : String) (condition : Option Record) :
    List Event :=
  (grown records parentPath condition).flatMap fun g => g.skipped.map skippedEvent

end CardStore.Tree
