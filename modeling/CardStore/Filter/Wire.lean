/-
  CardStore.Filter.Wire
  ─────────────────────
  **READING FILTERS.**

      { "and": [ ["age", ">", 18], { "or": [ ... ] } ] }

  An object gives one group for each key `and` and `or`, in the order of the
  text and once for every repetition; other keys are skipped.  A list alone
  is one group that has to hold as a whole.  A condition is a list of path,
  operator and operand, the operand being null when it is left out, or an
  object that is read as a filter.
-/
import CardStore.Filter.Basic
import CardStore.Value.Wire

namespace CardStore.Filter

open Json (Origin Node Reading Fault)

/-- The name under which readers ask for a filter. -/
def wireName : String :=
  "a filter object with 'and'/'or' keys, or an array of conditions"

/-- The name under which readers ask for a condition. -/
def conditionName : String := "a [path, operator, value] triple or a nested filter object"

/-- The connective of a key. -/
def logicOfKey? (key : String) : Option Logic :=
  if key = "and" then some .and else if key = "or" then some .or else none

/-- Read the items of a triple. -/
def readTriple (o : Origin) (stop : Option Json.Stop) (items : List Node) : Reading Triple := do
  let missing (n : Nat) : Reading Triple := .error (.shape (.invalidLength n conditionName))
  match items with
  | [] =>
    Json.checkStop stop
    missing 0
  | path :: items =>
    let path ← Json.readString path
    match items with
    | [] =>
      Json.checkStop stop
      missing 1
    | operator :: items =>
      let operator ← Json.readString operator
      match items with
      | [] =>
        Json.checkStop stop
        return ⟨path, operator, .null⟩
      | [operand] =>
        let operand ← Value.read o operand
        Json.checkStop stop
        return ⟨path, operator, operand⟩
      | operand :: extra :: _ =>
        let _ ← Value.read o operand
        Reading.ofText (Json.skip extra)
        missing 4

mutual

/-- Read a filter. -/
def read (o : Origin) : Node → Reading Filter
  | .object members stop => do
    let o ← o.enter
    let gs ← readGroups o members
    Json.checkStop stop
    return .groups gs
  | .array items stop => do
    let o ← o.enter
    let cs ← readConditions o items
    Json.checkStop stop
    return group .and cs
  | n => Json.unexpected wireName n

/-- Read the groups of an object. -/
def readGroups (o : Origin) :
    List (Except Fault String × Node) → Reading (List (Logic × List Condition))
  | [] => .ok []
  | (key, n) :: ms => do
    let k ← Reading.ofText key
    match logicOfKey? k with
    | none =>
      Reading.ofText (Json.skip n)
      readGroups o ms
    | some logic =>
      let cs ← readMembers o n
      let gs ← readGroups o ms
      return (logic, cs) :: gs

/-- Read the members of a group. -/
def readMembers (o : Origin) : Node → Reading (List Condition)
  | .array items stop => do
    let o ← o.enter
    let cs ← readConditions o items
    Json.checkStop stop
    return cs
  | n => Json.unexpected "a sequence" n

def readConditions (o : Origin) : List Node → Reading (List Condition)
  | [] => .ok []
  | n :: ns => do
    let c ← readCondition o n
    let cs ← readConditions o ns
    return c :: cs

/-- Read a condition. -/
def readCondition (o : Origin) : Node → Reading Condition
  | .array items stop => do
    let o ← o.enter
    let t ← readTriple o stop items
    return .triple t
  | .object members stop => do
    let o ← o.enter
    let gs ← readGroups o members
    Json.checkStop stop
    return .nested (.groups gs)
  | n => Json.unexpected conditionName n

end

/-- Read a text that holds a filter. -/
def ofText (text : String) : Reading Filter := Json.readText read text

end CardStore.Filter
