/-
  CardStore.Work
  ──────────────
  **UNITS OF WORK.**

  What is to be done inside one transaction is a script: statements in
  canonical form, each of which may depend on the outcomes of those before,
  new identifiers, and notes for the log.
-/
import CardStore.Event
import CardStore.Row
import CardStore.Error
import CardStore.Script

namespace CardStore

namespace Work

/-- What a unit of work may ask for. -/
inductive Request where
  | query (sql : String) (params : List Value)
  | execute (sql : String) (params : List Value)
  | freshId
  | note (e : Event)

/-- What the answers are. -/
def Answer : Request → Type
  | .query _ _ => Except Error RowSet
  | .execute _ _ => Except Error Outcome
  | .freshId => String
  | .note _ => Unit

end Work

/-- A unit of work. -/
abbrev Work (α : Type) := ExceptT Error (Script Work.Request Work.Answer) α

namespace Work

/-- Make one request. -/
def ask (r : Request) : Script Request Answer (Answer r) := .request r

/-- Run a query. -/
def query (sql : String) (params : List Value) : Work RowSet :=
  ExceptT.mk (ask (.query sql params))

/-- Run a statement that changes data. -/
def execute (sql : String) (params : List Value) : Work Outcome :=
  ExceptT.mk (ask (.execute sql params))

/-- Run a statement, and go on also when it fails. -/
def tryExecute (sql : String) (params : List Value) : Work (Except Error Outcome) :=
  ExceptT.lift (ask (.execute sql params))

/-- Ask for a new identifier. -/
def freshId : Work String := ExceptT.lift (ask .freshId)

/-- Write a note into the log. -/
def note (e : Event) : Work Unit := ExceptT.lift (ask (.note e))

end Work

end CardStore
