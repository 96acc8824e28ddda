/-
  CardStore.Database.Registry
  ───────────────────────────
  **NAMED DATABASES.**

  Databases are registered by name, and a name that is registered again
  stands for the new database.  A card that names no database, or an empty
  name, lives in the default one.
-/
import CardStore.Context

namespace CardStore

/-- The name that a database is registered under when a card asks for it. -/
def registryName : Option String → String
  | none => defaultDatabase
  | some name => if name.isEmpty then defaultDatabase else name

namespace Context

variable {σ : Type}

/-- The database that a card asks for. -/
def database (c : Context σ) (name : Option String) : Except Error Database :=
  match c.databases.get? (registryName name) with
  | some db => .ok db
  | none => .error (.unregisteredDatabase (registryName name))

/-- The names of all databases. -/
def databaseNames (c : Context σ) : List String := c.databases.keys

end Context

namespace Registry

variable {σ : Type}

/-- Register a database; its pool opens its first connections. -/
def register (b : Backend σ) (name : String) (dialect : Sql.Dialect) (config : PoolConfig) :
    Action σ Unit := ExceptT.mk fun c =>
  match Pool.Run.start b name config c.backend c.clock with
  | .error e => (.error e, c)
  | .ok (events, run) =>
    (.ok (),
      { c with
        backend := run.backend
        clock := run.clock
        databases := c.databases.set name ⟨name, dialect, run.pool⟩
        log := events.reverse ++ c.log })

/-- The database that a card asks for. -/
def find (name : Option String) : Action σ Database := ExceptT.mk fun c => (c.database name, c)

/-- Looking for a database changes nothing. -/
theorem run_find {name : Option String} {c : Context σ} {answer : Except Error Database}
    (h : c.database name = answer) : (find name).run c = (answer, c) := by
  rw [← h]
  rfl

/-- Shut down the pools of databases. -/
def closeAll (b : Backend σ) : List String → Context σ → Context σ
  | [], c => c
  | name :: names, c => closeAll b names (c.onPool name fun run => ((), run.shutDown b)).2

/-- Shut down all pools. -/
def close (b : Backend σ) : Action σ Unit :=
  Action.change fun c => ((), closeAll b c.databases.keys c)

end Registry

end CardStore
