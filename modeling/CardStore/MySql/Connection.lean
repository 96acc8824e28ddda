/-
  CardStore.MySql.Connection
  ──────────────────────────
  **CONNECTIONS TO A MYSQL SERVER.**

  The client library opens connections to a server and runs statements on
  them; what it does to the server is left open.  A `Connection` keeps its
  client connection in a slot.  Every statement takes it out and puts it back,
  also when it fails.  A transaction keeps it from the statement that opens
  the transaction to the one that ends it, and gives it back also when the
  last statement fails.
-/
import CardStore.Error
import CardStore.MySql.Datum
import CardStore.Row

namespace CardStore.MySql

/-! ## §1. The client library. -/

/-- The result of a prepared statement. -/
inductive Reply where
  | rows (columns : List String) (lines : List (List Datum))
  | done (affected insertId : Nat)

namespace Reply

/-- The rows of a result. -/
def toRows : Reply → RowSet
  | .rows columns lines => .ofRows (lines.map fun line => ⟨columns, line.map Datum.toValue⟩)
  | .done _ _ => .empty

/-- What a statement did; an identifier of 0 is none. -/
def toOutcome : Reply → Outcome
  | .rows _ _ => ⟨0, none⟩
  | .done affected insertId =>
    ⟨affected, if insertId = 0 then none else some (Text.ofNat insertId)⟩

end Reply

/-- A client library for servers with states `ρ`; client connections are known by numbers. -/
structure Client (ρ : Type) where
  connect : ρ → Except ServerError Nat × ρ
  /-- Run a prepared statement. -/
  run : Nat → String → List Datum → ρ → Except ServerError Reply × ρ
  /-- Run a plain statement without parameters and rows. -/
  command : Nat → String → ρ → Except ServerError Unit × ρ
  ping : Nat → ρ → Bool × ρ
  disconnect : Nat → ρ → Except ServerError Unit × ρ

/-! ## §2. Connections. -/

/-- A connection. -/
structure Connection where
  database : String
  /-- The client connection, unless a transaction has it or the connection is closed. -/
  slot : Option Nat
  /-- The client connection that the open transaction has. -/
  held : Option Nat
  inTransaction : Bool
  deriving DecidableEq, Repr, Inhabited

namespace Connection

/-- A connection around a client connection. -/
def ofClient (database : String) (client : Nat) : Connection := ⟨database, some client, none, false⟩

/-- The error of a connection whose slot is empty. -/
def unavailable (c : Connection) : Error :=
  .connection
    (if c.inTransaction then "Connection is held by an open transaction"
      else "Connection not available") none

/-- The error of a statement that failed. -/
def statementError (sql : String) (e : ServerError) : Error :=
  .statement e.clientReport (some sql) (some (.server e))

variable {ρ α : Type}

/-- Open a connection to a database. -/
def open? (k : Client ρ) (database : String) (r : ρ) : Except Error Connection × ρ :=
  match k.connect r with
  | (.ok client, r) => (.ok (ofClient database client), r)
  | (.error e, r) => (.error (.connection "Failed to connect to MySQL" (some (.server e))), r)

/-- Run a statement by itself. -/
def run (k : Client ρ) (sql : String) (params : List Value) (read : Reply → α) (c : Connection)
    (r : ρ) : Except Error α × Connection × ρ :=
  match c.slot with
  | none => (.error c.unavailable, c, r)
  | some client =>
    -- the client connection goes back into the slot whatever the answer is
    let (answer, r) := k.run client sql (params.map Datum.ofValue) r
    ((answer.map read).mapError (statementError sql), { c with slot := some client }, r)

/-- Open a transaction. -/
def begin (k : Client ρ) (c : Connection) (r : ρ) : Except Error Unit × Connection × ρ :=
  match c.slot with
  | none => (.error c.unavailable, c, r)
  | some client =>
    match k.command client "BEGIN" r with
    | (.error e, r) =>
      (.error (.transaction "Failed to begin transaction" (some (.server e))),
        { c with slot := some client }, r)
    | (.ok (), r) =>
      (.ok (), { c with slot := none, held := some client, inTransaction := true }, r)

/-- Run a statement in the open transaction. -/
def runInside (k : Client ρ) (sql : String) (params : List Value) (read : Reply → α)
    (c : Connection) (r : ρ) : Except Error α × Connection × ρ :=
  match c.held with
  | none => (.error (.transaction "Transaction not available" none), c, r)
  | some client =>
    let (answer, r) := k.run client sql (params.map Datum.ofValue) r
    ((answer.map read).mapError (statementError sql), c, r)

/-- End the open transaction with a statement. -/
def finish (k : Client ρ) (statement : String) (c : Connection) (r : ρ) :
    Except Error Unit × Connection × ρ :=
  match c.held with
  | none => (.error (.transaction "Transaction already completed" none), c, r)
  | some client =>
    let (answer, r) := k.command client statement r
    (answer.mapError fun e => .transaction (statement ++ " failed") (some (.server e)),
      { c with slot := some client, held := none, inTransaction := false }, r)

def commit (k : Client ρ) (c : Connection) (r : ρ) : Except Error Unit × Connection × ρ :=
  c.finish k "COMMIT" r

def rollback (k : Client ρ) (c : Connection) (r : ρ) : Except Error Unit × Connection × ρ :=
  c.finish k "ROLLBACK" r

/-- Drop the open transaction with its client connection. -/
def abandon (c : Connection) : Connection := { c with held := none }

/-- Whether the connection is there and answers. -/
def isValid (k : Client ρ) (c : Connection) (r : ρ) : Bool × ρ :=
  match c.slot with
  | none => (false, r)
  | some client => k.ping client r

/-- Close the connection, if it is there. -/
def close (k : Client ρ) (c : Connection) (r : ρ) : Except Error Unit × Connection × ρ :=
  match c.slot with
  | none => (.ok (), c, r)
  | some client =>
    let (answer, r) := k.disconnect client r
    (answer.mapError fun e => .connection "Failed to close connection" (some (.server e)),
      { c with slot := none }, r)

end Connection

end CardStore.MySql
