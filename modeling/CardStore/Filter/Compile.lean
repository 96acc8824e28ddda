/-
  CardStore.Filter.Compile
  ────────────────────────
  **FROM FILTERS TO PREDICATES.**

  A triple becomes a predicate on the column of its path.  The members of a
  group are joined by its connective, a nested filter stands in parentheses,
  and several groups of one node are conjoined, each in parentheses.  Nodes
  and groups without a predicate are left out.

  A triple can fail in three ways, looked for in this order: the operator is
  not supported, the path has no column, the operand has the wrong form.
-/
import CardStore.Filter.Columns
import CardStore.Sql.Predicate

namespace CardStore

open Sql (Predicate)

/-- The operator that a triple names. -/
def Triple.parseOperator (t : Triple) : Except Error Operator :=
  match Operator.parse? t.operator with
  | some op => .ok op
  | none => .error (.unsupportedOperator t.operator)

/-- The objection to an operand of the wrong form. -/
def Triple.operandError (t : Triple) (op : Operator) (needed : String) : Error :=
  .invalidArgument (op.symbol ++ " on '" ++ t.path ++ "' needs " ++ needed)

/-- The predicate of an operator on a column. -/
def Triple.predicateOf (t : Triple) (op : Operator) (column : String) : Except Error Predicate :=
  match op with
  | .compare c => .ok (.compare column c t.operand)
  | .is => .ok (.isNull column t.operand.isTruthy)
  | .isIn negated => match t.operand.items? with
    | some items => .ok (.isIn column negated items)
    | none => .error (t.operandError op "an array operand")
  | .like negated => .ok (.like column negated t.operand.display)
  | .between negated => match t.operand.items? with
    | some [low, high] => .ok (.between column negated low high)
    | _ => .error (t.operandError op "a two-element array operand")

/-- The predicate of a triple. -/
def Triple.predicate (t : Triple) (columns : ColumnMap) : Except Error Predicate := do
  let op ← t.parseOperator
  let column ← columns.get t.path
  t.predicateOf op column.text

namespace Filter

/-- All of a list of parts have to hold; one part stands for itself. -/
def conjoined : List Predicate → Option Predicate
  | [] => none
  | [p] => some p
  | p :: q :: ps => some (.joined .and ((p :: q :: ps).map .parens))

mutual

/-- The predicate of a filter, if it has any condition. -/
def predicate (columns : ColumnMap) : Filter → Except Error (Option Predicate)
  | .groups gs => do
    let parts ← groupPredicates columns gs
    return conjoined parts

/-- The predicates of the groups that have any condition. -/
def groupPredicates (columns : ColumnMap) :
    List (Logic × List Condition) → Except Error (List Predicate)
  | [] => .ok []
  | (logic, cs) :: gs => do
    let members ← conditionPredicates columns cs
    let parts ← groupPredicates columns gs
    return if members.isEmpty then parts else .joined logic members :: parts

/-- The predicates of the members of a group. -/
def conditionPredicates (columns : ColumnMap) : List Condition → Except Error (List Predicate)
  | [] => .ok []
  | .triple t :: cs => do
    let p ← t.predicate columns
    let ps ← conditionPredicates columns cs
    return p :: ps
  | .nested f :: cs => do
    let p ← predicate columns f
    let ps ← conditionPredicates columns cs
    return (p.map Predicate.parens).toList ++ ps

end

/-- The predicate of a filter, where there is one. -/
def condition (columns : ColumnMap) : Option Filter → Except Error (Option Predicate)
  | some f => f.predicate columns
  | none => .ok none

end Filter

end CardStore
