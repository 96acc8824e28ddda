/-
  CardStore.Filter.Basic
  ──────────────────────
  **FILTERS.**

  A filter is a tree.  Each node has groups, each group joins its members by
  one connective, and all groups of a node have to hold.  A member is a triple
  of path, operator and operand, or a nested filter.

  The operator of a triple is kept as the caller wrote it.  It is written in
  any letter case and with any blanks between its words.  A letter counts as
  its capital; besides a to z, the dotless i and the long s have their
  capitals among A to Z.

  Main statement:
    * `Operator.parse?_symbol` — every operator is read back from its symbol.
-/
import CardStore.Record.Basic
import CardStore.Text.Blank
import CardStore.Text.Join

namespace CardStore

/-! ## §1. Operators. -/

/-- How a column is compared with a single value. -/
inductive Comparison where
  | eq
  | gt
  | lt
  | ge
  | le
  | ne
  deriving DecidableEq, Repr

def Comparison.symbol : Comparison → String
  | .eq => "="
  | .gt => ">"
  | .lt => "<"
  | .ge => ">="
  | .le => "<="
  | .ne => "<>"

/-- An operator of a condition. -/
inductive Operator where
  | compare (c : Comparison)
  /-- Whether a column has a value, as the truth of the operand says. -/
  | is
  | isIn (negated : Bool)
  | like (negated : Bool)
  | between (negated : Bool)
  deriving DecidableEq, Repr

namespace Operator

/-- The operator as it stands in a statement. -/
def symbol : Operator → String
  | .compare c => c.symbol
  | .is => "IS"
  | .isIn false => "IN"
  | .isIn true => "NOT IN"
  | .like false => "LIKE"
  | .like true => "NOT LIKE"
  | .between false => "BETWEEN"
  | .between true => "NOT BETWEEN"

/-- All operators. -/
def all : List Operator :=
  [.compare .eq, .compare .gt, .compare .lt, .compare .ge, .compare .le, .compare .ne, .is,
    .isIn false, .isIn true, .like false, .like true, .between false, .between true]

/-- The capital of a letter, as far as it is one of A to Z. -/
def capital (c : Char) : Char :=
  if c.toNat = 0x131 then 'I' else if c.toNat = 0x17F then 'S' else c.toUpper

/-- The words of an operator in capitals, one blank between them. -/
def normalized (raw : String) : String :=
  String.ofList ((Text.joined " " (Text.words raw)).toList.map capital)

/-- The operator that a text names. -/
def parse? (raw : String) : Option Operator :=
  let s := normalized raw
  all.find? fun op => op.symbol == s

theorem parse?_symbol (op : Operator) : parse? op.symbol = some op := by
  cases op with
  | compare c => cases c <;> decide
  | is => decide
  | isIn negated => cases negated <;> decide
  | like negated => cases negated <;> decide
  | between negated => cases negated <;> decide

end Operator

/-! ## §2. Trees. -/

/-- A connective. -/
inductive Logic where
  | and
  | or
  deriving DecidableEq, Repr

/-- A path, an operator as it was written, and an operand. -/
structure Triple where
  path : String
  operator : String
  operand : Value

mutual

/-- A tree of conditions. -/
inductive Filter where
  | groups (gs : List (Logic × List Condition))

/-- A member of a group. -/
inductive Condition where
  | triple (t : Triple)
  | nested (f : Filter)

end

namespace Filter

instance : Inhabited Filter := ⟨.groups []⟩

def empty : Filter := .groups []

/-- The groups of the root. -/
def toGroups : Filter → List (Logic × List Condition)
  | .groups gs => gs

def isEmpty (f : Filter) : Bool := f.toGroups.isEmpty

/-- A filter with one group. -/
def group (logic : Logic) (conditions : List Condition) : Filter := .groups [(logic, conditions)]

/-- Add a group at the root. -/
def withGroup (f : Filter) (logic : Logic) (conditions : List Condition) : Filter :=
  .groups (f.toGroups ++ [(logic, conditions)])

/-- The filter that an identifier passes. -/
def byId (id : Value) : Filter := group .and [.triple ⟨idPath, "=", id⟩]

mutual

/-- The triples of a filter from left to right. -/
def triples : Filter → List Triple
  | .groups gs => groupTriples gs

def groupTriples : List (Logic × List Condition) → List Triple
  | [] => []
  | (_, cs) :: gs => conditionTriples cs ++ groupTriples gs

def conditionTriples : List Condition → List Triple
  | [] => []
  | .triple t :: cs => t :: conditionTriples cs
  | .nested f :: cs => triples f ++ conditionTriples cs

end

/-- The paths of a filter from left to right. -/
def paths (f : Filter) : List String := f.triples.map (·.path)

end Filter

end CardStore
