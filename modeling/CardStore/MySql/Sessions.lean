/-
  CardStore.MySql.Sessions
  ────────────────────────
  **MYSQL AS A BACKEND.**

  All connections to MySQL servers that are open, under the numbers by which
  the rest knows them, and the addresses at which the databases are found.
-/
import CardStore.Backend
import CardStore.MySql.Address
import CardStore.MySql.Connection
import CardStore.OrderedMap

namespace CardStore.MySql

/-- Connections to servers with states `ρ`. -/
structure Sessions (ρ : Type) where
  server : ρ
  /-- The connections in the order in which they were opened. -/
  connections : List Connection
  /-- The address of each database. -/
  addresses : OrderedMap String

namespace Sessions

variable {ρ α : Type}

def ofServer (server : ρ) : Sessions ρ := ⟨server, [], .empty⟩

/-- Say where a database is found. -/
def locate (s : Sessions ρ) (name address : String) : Sessions ρ :=
  { s with addresses := s.addresses.set name address }

/-- Keep a connection that has been opened, under the next number. -/
def keep (s : Sessions ρ) : Except Error Connection × ρ → Except Error Nat × Sessions ρ
  | (.ok c, server) =>
    (.ok s.connections.length, { s with server, connections := s.connections ++ [c] })
  | (.error e, server) => (.error e, { s with server })

/-- Open a connection to a database of a server. -/
def openDatabase (k : Client ρ) (database : String) (s : Sessions ρ) :
    Except Error Nat × Sessions ρ := s.keep (Connection.open? k database s.server)

/-- Open a connection to an address. -/
def openAddress (k : Client ρ) (address : String) (s : Sessions ρ) :
    Except Error Nat × Sessions ρ :=
  match readAddress address with
  | .error e => (.error e, s)
  | .ok database => s.openDatabase k database

/-- Open a connection to a database that has an address. -/
def connect (k : Client ρ) (name : String) (s : Sessions ρ) : Except Error Nat × Sessions ρ :=
  s.openAddress k ((s.addresses.get? name).getD "")

/-- Do something on a connection. -/
def on (i : Nat) (f : Connection → ρ → Except Error α × Connection × ρ) (s : Sessions ρ) :
    Except Error α × Sessions ρ :=
  let (answer, c, server) := f (s.connections[i]?.getD default) s.server
  (answer, { s with server, connections := s.connections.set i c })

/-- Run a statement, by itself or in the transaction of its connection. -/
def run (k : Client ρ) (read : Reply → α) (i : Nat) (scope : Scope) (sql : String)
    (params : List Value) : Sessions ρ → Except Error α × Sessions ρ :=
  match scope with
  | .alone => on i (Connection.run k sql params read)
  | .transaction => on i (Connection.runInside k sql params read)

end Sessions

/-- The backend that a client library of MySQL makes. -/
def backend {ρ : Type} (k : Client ρ) : Backend (Sessions ρ) where
  connect name s := s.connect k name
  query i scope sql params s := s.run k Reply.toRows i scope sql params
  execute i scope sql params s := s.run k Reply.toOutcome i scope sql params
  begin i s := s.on i (Connection.begin k)
  commit i s := s.on i (Connection.commit k)
  rollback i s := s.on i (Connection.rollback k)
  isValid i s :=
    let (answer, server) := (s.connections[i]?.getD default).isValid k s.server
    (answer, { s with server })
  close i s := s.on i (Connection.close k)

end CardStore.MySql
