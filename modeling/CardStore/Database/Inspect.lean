/-
  CardStore.Database.Inspect
  ──────────────────────────
  **DATABASES IN DIAGNOSTIC TEXTS.**

  A diagnostic text of a database or a part of it leaves out what is of no use
  to a reader.
-/
import CardStore.Database.Transaction
import CardStore.Text.Quoted

namespace CardStore

/-- A database in a diagnostic text. -/
def Database.inspect (db : Database) : String :=
  Text.inspected "Database"
    [("name", Text.quoted db.name), ("dialect", Text.quoted db.dialect.name),
      ("pool_size", Text.ofNat db.pool.size)]

/-- An executor in a diagnostic text. -/
def Executor.inspect (x : Executor) : String :=
  Text.inspected "Executor"
    [("database", Text.quoted x.database), ("dialect", Text.quoted x.dialect.name)]

/-- A store of cards in a diagnostic text. -/
def Card.Store.inspect (_ : Card.Store) : String := "MetadataStore \x7b .. \x7d"

/-- What opens connections of the scripted backend, in a diagnostic text. -/
def Sql.Dialect.inspectScripted (d : Sql.Dialect) : String :=
  Text.inspected "MockConnectionFactory" [("database_type", d.name)]

end CardStore
