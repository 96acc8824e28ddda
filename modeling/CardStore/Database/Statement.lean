/-
  CardStore.Database.Statement
  ────────────────────────────
  **RUNNING STATEMENTS.**

  A statement in canonical form is rendered in the dialect of its database
  and runs on one connection of the pool, by itself.  Every statement that
  reaches the backend is logged, with the number of rows read or changed, or
  with its error.
-/
import CardStore.Database.Registry

namespace CardStore.Database

variable {σ : Type}

/-- The event of a statement. -/
def statementEvent (database native : String) : Except Error Nat → Event
  | .ok count =>
    ⟨.debug, "statement", [("database", database), ("sql", native), ("count", Text.ofNat count)]⟩
  | .error e =>
    ⟨.error, "statement failed", [("database", database), ("sql", native), ("error", e.message)]⟩

/-- What a borrower that came so far is answered; one that still has to wait gives up. -/
def conclude (name : String) : Option Pool.Borrowing → Context σ → Except Error Lent × Context σ
  | some (.served lent), c => (.ok lent, c)
  | some (.refused e), c => (.error e, c)
  | some _, c =>
    let (e, c) := c.onPool name fun run => run.giveUp
    (.error (e.getD (.unregisteredDatabase name)), c)
  | none, c => (.error (.unregisteredDatabase name), c)

/-- Borrow a connection; connections on their way back land when there is no permit. -/
def borrow (b : Backend σ) (name : String) : Action σ Lent := ExceptT.mk fun c =>
  match c.onPool name fun run => run.goOn b name .arriving with
  | (some .queued, c) =>
    let (phase, c) := (c.settle b).onPool name fun run => run.goOn b name .queued
    conclude name phase c
  | (phase, c) => conclude name phase c

/-- Let a connection go. -/
def letGo (name : String) (lent : Lent) : Action σ Unit := Action.change fun c =>
  ((), { c with returning := c.returning ++ [(name, lent)] })

/-- Run a statement on the backend and log it. -/
def send {α : Type} (name native : String) (count : α → Nat) (run : σ → Except Error α × σ) :
    Action σ α := do
  let answer ← (Action.onBackend run).tried
  Action.note (statementEvent name native (answer.map count))
  ExceptT.mk (pure answer)

/-- Run a statement on a borrowed connection. -/
def withConnection {α : Type} (b : Backend σ) (name : String) (act : Lent → Action σ α) :
    Action σ α := do
  let lent ← borrow b name
  let answer ← (act lent).tried
  letGo name lent
  ExceptT.mk (pure answer)

/-- Run a query. -/
def query (b : Backend σ) (db : Database) (sql : String) (params : List Value) :
    Action σ RowSet :=
  let native := db.dialect.render sql
  withConnection b db.name fun lent =>
    send db.name native (·.rows.length) (b.query lent.connection .alone native params)

/-- Run a statement that changes data. -/
def execute (b : Backend σ) (db : Database) (sql : String) (params : List Value) :
    Action σ Outcome :=
  let native := db.dialect.render sql
  withConnection b db.name fun lent =>
    send db.name native (·.affected) (b.execute lent.connection .alone native params)

end CardStore.Database
