/-
  CardStore.Context
  ─────────────────
  **WHAT OPERATIONS SHARE.**

  Operations run one at a time on a context: the registered databases with
  their pools, the backend behind them, the cards loaded so far, and the log.
  An operation that fails leaves what it did to the context.

  A connection that an operation lets go of is on its way back: it lands when
  somebody has to wait for a permit, and at the latest when all is quiet.
-/
import CardStore.Card.Store
import CardStore.Pool.Run
import CardStore.Sql.Dialect
import CardStore.Write.FreshId
import CardStore.Write.Settings

namespace CardStore

/-- A registered database. -/
structure Database where
  name : String
  dialect : Sql.Dialect
  pool : Pool
  deriving Inhabited

/-- What operations share. -/
structure Context (σ : Type) where
  backend : σ
  clock : Nat
  databases : OrderedMap Database
  /-- Connections on their way back, and to which database. -/
  returning : List (String × Lent)
  /-- The connections of all transactions begun so far, none for one that has ended. -/
  transactions : List (Option Nat)
  cards : Card.Store
  settings : WriteSettings
  ids : IdGenerator
  /-- The log, the latest event first. -/
  log : List Event

/-- An operation on a context. -/
abbrev Action (σ α : Type) := ExceptT Error (StateM (Context σ)) α

namespace Context

variable {σ : Type}

/-- A context without databases and cards. -/
def ofBackend (backend : σ) (ids : IdGenerator) : Context σ :=
  ⟨backend, 0, .empty, [], [], default, .standard, ids, []⟩

/-- The events in the order in which they happened. -/
def events (c : Context σ) : List Event := c.log.reverse

def note (e : Event) (c : Context σ) : Context σ := { c with log := e :: c.log }

/-- Give a connection to a new transaction, which is known by its number from then on. -/
def enterTransaction (connection : Nat) (c : Context σ) : Nat × Context σ :=
  (c.transactions.length, { c with transactions := c.transactions ++ [some connection] })

/-- The connection of a transaction, as long as it lasts. -/
def connectionOf? (c : Context σ) (transaction : Nat) : Option Nat :=
  c.transactions[transaction]?.join

/-- Take the connection away from a transaction. -/
def leaveTransaction (transaction : Nat) (c : Context σ) : Option Nat × Context σ :=
  (c.connectionOf? transaction, { c with transactions := c.transactions.set transaction none })

/-- Run the pool of a database. -/
def onPool {α : Type} (name : String) (f : Pool.Run σ → α × Pool.Run σ) (c : Context σ) :
    Option α × Context σ :=
  match c.databases.get? name with
  | none => (none, c)
  | some db =>
    let (a, run) := f ⟨db.pool, c.backend, c.clock⟩
    (some a,
      { c with
        backend := run.backend
        clock := run.clock
        databases := c.databases.set name { db with pool := run.pool } })

/-- Bring back connections, the first one first. -/
def landAll (b : Backend σ) : List (String × Lent) → Context σ → Context σ
  | [], c => c
  | (name, lent) :: rest, c =>
    landAll b rest (c.onPool name fun run => ((), run.giveBack b lent)).2

/-- Bring back all connections that are on their way. -/
def settle (b : Backend σ) (c : Context σ) : Context σ :=
  landAll b c.returning { c with returning := [] }

end Context

namespace Action

variable {σ α : Type}

/-- Change the context, with an answer. -/
def change (f : Context σ → α × Context σ) : Action σ α := ExceptT.mk fun c =>
  let (a, c) := f c
  (.ok a, c)

/-- Write an event into the log. -/
def note (e : Event) : Action σ Unit := change fun c => ((), c.note e)

/-- Write events into the log. -/
def noteAll (es : List Event) : Action σ Unit := change fun c =>
  ((), { c with log := es.reverse ++ c.log })

/-- Change the backend, with an answer. -/
def onBackend (f : σ → Except Error α × σ) : Action σ α := ExceptT.mk fun c =>
  let (a, backend) := f c.backend
  (a, { c with backend })

/-- Run an operation and go on also when it fails. -/
def tried (act : Action σ α) : Action σ (Except Error α) := ExceptT.mk fun c =>
  let (a, c) := act.run c
  (.ok a, c)

end Action

end CardStore
