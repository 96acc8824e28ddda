/-
  CardStore.Sql.Predicate
  ───────────────────────
  **PREDICATES OF STATEMENTS.**

  The condition of a statement as a tree.  Its text and its parameters are
  two folds over the same tree, so that every mark for a parameter stands
  where the tree holds the parameter.

      T0.MC IN (?,?)        two parameters
      T0.MC LIKE '%a''b%'   none: the pattern is a literal
      (p) AND (q)           those of p, then those of q
-/
import CardStore.Filter.Basic
import CardStore.Sql.Dialect

namespace CardStore.Sql

/-- A condition on columns. -/
inductive Predicate where
  | compare (column : String) (c : Comparison) (value : Value)
  | isNull (column : String) (negated : Bool)
  | isIn (column : String) (negated : Bool) (items : List Value)
  | like (column : String) (negated : Bool) (pattern : String)
  | between (column : String) (negated : Bool) (low high : Value)
  | parens (p : Predicate)
  | joined (logic : Logic) (ps : List Predicate)

/-- The connective between two conditions. -/
def connective : Logic → String
  | .and => " AND "
  | .or => " OR "

namespace Predicate

/-- Marks for so many parameters. -/
def slots (n : Nat) : String := Text.joined "," (List.replicate n "?")

mutual

/-- The canonical text. -/
def text (d : Dialect) : Predicate → String
  | .compare column c _ => column ++ c.symbol ++ "?"
  | .isNull column negated => column ++ (if negated then " IS NOT NULL" else " IS NULL")
  | .isIn _ negated [] => if negated then "1=1" else "1=0"
  | .isIn column negated (v :: vs) =>
    column ++ " " ++ (Operator.isIn negated).symbol ++ " (" ++ slots (v :: vs).length ++ ")"
  | .like column negated pattern =>
    column ++ " " ++ (Operator.like negated).symbol ++ " '%" ++ d.escape pattern ++ "%'"
  | .between column negated _ _ =>
    column ++ " " ++ (Operator.between negated).symbol ++ " ? AND ?"
  | .parens p => "(" ++ text d p ++ ")"
  | .joined logic ps => Text.joined (connective logic) (texts d ps)

def texts (d : Dialect) : List Predicate → List String
  | [] => []
  | p :: ps => text d p :: texts d ps

end

mutual

/-- The parameters in the order of their marks. -/
def params : Predicate → List Value
  | .compare _ _ value => [value]
  | .isNull _ _ => []
  | .isIn _ _ items => items
  | .like _ _ _ => []
  | .between _ _ low high => [low, high]
  | .parens p => params p
  | .joined _ ps => paramsAll ps

def paramsAll : List Predicate → List Value
  | [] => []
  | p :: ps => params p ++ paramsAll ps

end

end Predicate

end CardStore.Sql
