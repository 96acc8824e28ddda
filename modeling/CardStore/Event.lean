/-
  CardStore.Event
  ───────────────
  **LOG EVENTS.**

  Operations report what they do as events: a level, a message, and named
  texts.
-/

namespace CardStore

/-- The levels of events. -/
inductive Level where
  | error
  | warn
  | info
  | debug
  deriving DecidableEq, Repr

def Level.name : Level → String
  | .error => "ERROR"
  | .warn => "WARN"
  | .info => "INFO"
  | .debug => "DEBUG"

/-- A log event. -/
structure Event where
  level : Level
  message : String
  fields : List (String × String)
  deriving DecidableEq, Repr

end CardStore
