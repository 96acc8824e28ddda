/-
  CardStore.Database.Transaction
  ──────────────────────────────
  **UNITS OF WORK IN A TRANSACTION.**

  A unit of work runs on one connection between the beginning of a
  transaction and its end, which is a commit if the work succeeds and a
  rollback if it fails.  The work sees the transaction through an executor,
  which knows it by number.  Copies of the executor may outlive the work, but
  the connection is taken away from the transaction before it is ended, and
  they are of no use from then on.

  The error of a statement that made the work fail is wrapped into one of the
  transaction; any other error of the work is passed on as it is, also when
  the rollback fails.
-/
import CardStore.Database.Statement
import CardStore.Work

namespace CardStore

/-- What a unit of work runs statements with. -/
structure Executor where
  database : String
  dialect : Sql.Dialect
  /-- The number of the transaction. -/
  transaction : Nat
  deriving DecidableEq, Repr

namespace Executor

variable {σ : Type}

/-- The error of an executor whose transaction has ended. -/
def detachedError : Error := .transaction "executor used after its transaction finished" none

/-- Do something on the connection of the transaction, as long as it lasts. -/
def onConnection {α : Type} (x : Executor) (act : Nat → Action σ α) : Action σ α :=
  ExceptT.mk fun c => match c.connectionOf? x.transaction with
    | none => (.error detachedError, c)
    | some connection => (act connection).run c

/-- Run a query. -/
def query (b : Backend σ) (x : Executor) (sql : String) (params : List Value) :
    Action σ RowSet :=
  let native := x.dialect.render sql
  x.onConnection fun connection =>
    Database.send x.database native (·.rows.length)
      (b.query connection .transaction native params)

/-- Run a statement that changes data. -/
def execute (b : Backend σ) (x : Executor) (sql : String) (params : List Value) :
    Action σ Outcome :=
  let native := x.dialect.render sql
  x.onConnection fun connection =>
    Database.send x.database native (·.affected)
      (b.execute connection .transaction native params)

/-- Answer a request of a unit of work. -/
def answer (b : Backend σ) (x : Executor) :
    (r : Work.Request) → Context σ → Work.Answer r × Context σ
  | .query sql params, c => (x.query b sql params).run c
  | .execute sql params, c => (x.execute b sql params).run c
  | .freshId, c =>
    let (id, ids) := c.ids.next
    (id, { c with ids })
  | .note e, c => ((), c.note e)

/-- Do a unit of work. -/
def perform {α : Type} (b : Backend σ) (x : Executor) (work : Work α) : Action σ α :=
  ExceptT.mk fun c => work.run.run (x.answer b) c

end Executor

namespace Database

variable {σ : Type}

/-- The event of a beginning transaction. -/
def beginEvent (db : Database) : Event :=
  ⟨.debug, "start transaction",
    [("database", db.name), ("begin", db.dialect.beginStatement?.getD "<implicit>")]⟩

/-- The error that a failed unit of work is answered with. -/
def workError (e : Error) : Error :=
  if e.isStatement then .transaction "rolled back after statement failure" (some (.error e)) else e

/-- End a transaction as its work demands. -/
def finish {α : Type} (b : Backend σ) (db : Database) (connection : Nat) :
    Except Error α → Action σ α
  -- the error of a commit that fails is the answer, in place of the result
  | .ok a => do
    Action.onBackend (b.commit connection)
    Action.note ⟨.debug, "commit transaction", [("database", db.name)]⟩
    return a
  | .error e => do
    match ← (Action.onBackend (b.rollback connection)).tried with
    | .ok () => pure ()
    | .error failure =>
      Action.note ⟨.warn, "rollback failed",
        [("database", db.name), ("error", failure.message)]⟩
    Action.note ⟨.debug, "rollback transaction", [("database", db.name)]⟩
    throw (workError e)

/-- Do a unit of work in a transaction on a connection. -/
def transact {α : Type} (b : Backend σ) (db : Database) (work : Executor → Work α)
    (connection : Nat) : Action σ α := do
  Action.note db.beginEvent
  Action.onBackend (b.begin connection)
  let transaction ← Action.change (Context.enterTransaction connection)
  let x : Executor := ⟨db.name, db.dialect, transaction⟩
  let outcome ← (x.perform b (work x)).tried
  -- the connection is taken away before the end is sent, so that no copy can use it in between
  match ← Action.change (Context.leaveTransaction transaction) with
  | some connection => finish b db connection outcome
  | none => throw (.internal "transaction detached before completion")

/-- Do a unit of work in a transaction. -/
def trans {α : Type} (b : Backend σ) (db : Database) (work : Executor → Work α) : Action σ α :=
  withConnection b db.name fun lent => transact b db work lent.connection

end Database

end CardStore
