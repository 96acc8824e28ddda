/-
  CardStore.Scripted.Rule
  ───────────────────────
  **ANSWERING BY RULES.**

  A rule says to what it applies, what it answers, and how often it may be
  used.  A request is answered by the first rule that applies and has uses
  left, and that rule then has one use less.
-/

namespace CardStore.Scripted

/-- A rule for requests `ρ` with answers `α`. -/
structure Rule (ρ α : Type) where
  applies : ρ → Bool
  /-- Uses left; none for a rule that is never used up. -/
  uses : Option Nat
  answer : α

namespace Rule

variable {ρ α : Type}

/-- Whether the rule answers a request. -/
def answers (rule : Rule ρ α) (request : ρ) : Bool := rule.uses != some 0 && rule.applies request

/-- The rule after it has been used. -/
def used (rule : Rule ρ α) : Rule ρ α := { rule with uses := rule.uses.map (· - 1) }

/-- The answer of the first rule that answers, and the rules after that. -/
def first? (request : ρ) : List (Rule ρ α) → Option α × List (Rule ρ α)
  | [] => (none, [])
  | rule :: rules =>
    if rule.answers request then (some rule.answer, rule.used :: rules)
    else
      let (answer, rest) := first? request rules
      (answer, rule :: rest)

end Rule

/-! ## Conditions on statements. -/

/-- Whether a condition that may be left out holds. -/
def holds {α : Type} (test : α → Bool) : Option α → Bool
  | none => true
  | some a => test a

/-- Whether the characters of a text contain others. -/
def contains (cs part : List Char) : Bool :=
  part.isPrefixOf cs || match cs with
    | [] => false
    | _ :: cs => contains cs part

/-- Whether a statement begins with one text and contains another. -/
def sqlMatches (start part : Option String) (sql : String) : Bool :=
  holds (fun s => s.toList.isPrefixOf sql.toList) start
    && holds (fun s => contains sql.toList s.toList) part

end CardStore.Scripted
