/-
  CardStore.Cards.Open
  ────────────────────
  **OPENING WHAT IS CONFIGURED.**

  All databases of a configuration are registered, in its order, and cards are
  described by the tables of the one that it names for that.
-/
import CardStore.Config.Basic
import CardStore.Database.Registry
import CardStore.MySql.Sessions

namespace CardStore

/-- Sessions with a server at the addresses of a configuration. -/
def MySql.Sessions.ofConfig {ρ : Type} (server : ρ) (config : Config) : MySql.Sessions ρ :=
  config.databases.toList.foldl (fun s (name, e) => match e.address with
    | .mysql url => s.locate name url
    | .oracle _ _ _ => s) (.ofServer server)

variable {σ : Type}

/-- The event of a registered database. -/
def DatabaseEntry.registeredEvent (name : String) (e : DatabaseEntry) : Event :=
  ⟨.info, "database registered", [("database", name), ("kind", e.dialect.name)]⟩

/-- Register configured databases. -/
def Registry.registerEntries (b : Backend σ) : List (String × DatabaseEntry) → Action σ Unit
  | [] => return ()
  | (name, e) :: rest => do
    ExceptT.mk (pure e.checkClient)
    Registry.register b name e.dialect e.pool
    Action.note (e.registeredEvent name)
    Registry.registerEntries b rest

/-- Open what is configured. -/
def Cards.openConfigured (b : Backend σ) (config : Config) : Action σ Unit := do
  ExceptT.mk (pure config.check)
  Registry.registerEntries b config.databases.toList
  let db ← Registry.find (some config.metadata)
  Action.change fun c =>
    ((), { c with cards := .ofSource (.database db.name), settings := config.settings })
  let count ← Action.change fun c => (c.databaseNames.length, c)
  Action.note ⟨.info, "cardql ready",
    [("databases", Text.ofNat count), ("metadata", config.metadata)]⟩

end CardStore
