/-
  CardStore.Error
  ───────────────
  **WHAT CAN GO WRONG.**

  Errors are told apart by who can act on them: the caller (an unknown card,
  a path that leads nowhere), the backend (a statement, a transaction, a
  connection), or whoever set the program up (configuration).  An error may
  name the one that caused it, which is an error of its own or what the
  client of a database server reported.
-/
import CardStore.Text.Digits

namespace CardStore

/-- An error that a database server reported to its client. -/
structure ServerError where
  code : Nat
  /-- The five-character state of the SQL standard. -/
  state : String
  message : String
  deriving DecidableEq, Repr, Inhabited

namespace ServerError

/-- The wording of the server's report. -/
def report (e : ServerError) : String :=
  "ERROR " ++ e.state ++ " (" ++ Text.ofNat e.code ++ "): " ++ e.message

/-- The wording of the client that passes the report on. -/
def clientReport (e : ServerError) : String := "Server error: `" ++ e.report ++ "'"

end ServerError

mutual

/-- An error of a card operation. -/
inductive Error where
  /-- No card of this name is described. -/
  | cardNotFound (name : String)
  /-- A path leads nowhere: the segment is unknown on the card. -/
  | unresolvedPath (path card segment : String)
  | unsupportedOperator (operator : String)
  /-- No database is registered under the name. -/
  | unregisteredDatabase (name : String)
  | statement (message : String) (sql : Option String) (source : Option ErrorSource)
  | transaction (message : String) (source : Option ErrorSource)
  | connection (message : String) (source : Option ErrorSource)
  | poolExhausted (message : String)
  | timeout (message : String)
  | configuration (message : String)
  | typeConversion (message : String)
  | invalidArgument (message : String)
  | unsupported (message : String)
  | internal (message : String)

/-- What caused an error. -/
inductive ErrorSource where
  | error (e : Error)
  | server (e : ServerError)

end

/-- The classes that errors fall into. -/
inductive Error.Category where
  | notFound
  | path
  | operator
  | backend
  | statement
  | transaction
  | connection
  | poolExhausted
  | timeout
  | configuration
  | input
  | other
  deriving DecidableEq, Repr

namespace Error

instance : Inhabited Error := ⟨.internal ""⟩

/-- The name of a class. -/
def Category.name : Category → String
  | .notFound => "not_found"
  | .path => "path"
  | .operator => "operator"
  | .backend => "backend"
  | .statement => "statement"
  | .transaction => "transaction"
  | .connection => "connection"
  | .poolExhausted => "pool_exhausted"
  | .timeout => "timeout"
  | .configuration => "configuration"
  | .input => "input"
  | .other => "other"

/-- Whether the caller asked for something that cannot be. -/
def Category.isCallerError : Category → Bool
  | .notFound | .path | .operator | .input => true
  | _ => false

/-- The class of an error. -/
def category : Error → Category
  | .cardNotFound _ => .notFound
  | .unresolvedPath _ _ _ => .path
  | .unsupportedOperator _ => .operator
  | .unregisteredDatabase _ => .backend
  | .statement _ _ _ => .statement
  | .transaction _ _ => .transaction
  | .connection _ _ => .connection
  | .poolExhausted _ => .poolExhausted
  | .timeout _ => .timeout
  | .configuration _ => .configuration
  | .typeConversion _ => .input
  | .invalidArgument _ => .input
  | .unsupported _ => .other
  | .internal _ => .other

/-- The wording of an error, its cause left out. -/
def message : Error → String
  | .cardNotFound name => "card not found: " ++ name
  | .unresolvedPath path card segment =>
    "path '" ++ path ++ "' cannot be resolved on card '" ++ card ++ "': unknown segment '"
      ++ segment ++ "'"
  | .unsupportedOperator operator => "operator is not supported: " ++ operator
  | .unregisteredDatabase name => "no database named '" ++ name ++ "'"
  | .statement message _ _ => "statement error: " ++ message
  | .transaction message _ => "transaction error: " ++ message
  | .connection message _ => "connection error: " ++ message
  | .poolExhausted message => "pool exhausted: " ++ message
  | .timeout message => "timeout: " ++ message
  | .configuration message => "configuration error: " ++ message
  | .typeConversion message => "type conversion error: " ++ message
  | .invalidArgument message => "invalid argument: " ++ message
  | .unsupported message => "unsupported: " ++ message
  | .internal message => "internal error: " ++ message

/-- The statement that failed, if the error names it. -/
def sql? : Error → Option String
  | .statement _ sql _ => sql
  | _ => none

/-- Whether a statement failed. -/
def isStatement : Error → Bool
  | .statement _ _ _ => true
  | _ => false

mutual

/-- The wording of every cause behind an error, the nearest first. -/
def sources : Error → List String
  | .statement _ _ (some s) => sourceChain s
  | .transaction _ (some s) => sourceChain s
  | .connection _ (some s) => sourceChain s
  | _ => []

/-- The wording of a cause and of those behind it. -/
def sourceChain : ErrorSource → List String
  | .error e => message e :: sources e
  | .server e => [e.clientReport, e.report]

end

end Error

end CardStore
