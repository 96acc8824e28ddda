/-
  CardStore.MySql.Scripted
  ────────────────────────
  **A MYSQL SERVER THAT ANSWERS BY RULES.**

  For trying things out without a server: what arrives is recorded and
  answered by the first rule that matches and has uses left.  Without a rule a
  statement affects one row.  A server may refuse new clients, and may hang up
  when it is pinged; a client that was hung up on reaches nobody any more.
-/
import CardStore.MySql.Connection
import CardStore.Scripted.Rule

namespace CardStore.MySql.Scripted

/-- What a rule answers. -/
inductive Answer where
  | fail (e : ServerError)
  | reply (r : Reply)
  | hangUp

/-- What arrived at the server. -/
inductive Arrival where
  | plain (sql : String)
  | prepared (sql : String) (params : List Datum)
  deriving DecidableEq

/-- A server. -/
structure Server where
  rules : List (Scripted.Rule String Answer)
  /-- What arrived, the latest first. -/
  arrivals : List Arrival
  /-- Clients that were let in. -/
  opened : Nat
  /-- Why no new client is let in. -/
  refusal : Option ServerError
  /-- Clients that were hung up on. -/
  gone : List Nat

def Server.ofRules (rules : List (Scripted.Rule String Answer)) : Server := ⟨rules, [], 0, none, []⟩

namespace Server

/-- Record what arrives and find its answer. -/
def answer (arrival : Arrival) (sql : String) (s : Server) : Answer × Server :=
  let (found, rules) := Scripted.Rule.first? sql s.rules
  (found.getD (.reply (.done 1 0)), { s with rules, arrivals := arrival :: s.arrivals })

/-- The text of a ping. -/
def pingText : String := "PING"

def connect (s : Server) : Except ServerError Nat × Server :=
  match s.refusal with
  | some e => (.error e, s)
  | none => (.ok s.opened, { s with opened := s.opened + 1 })

/-- Run a prepared statement. -/
def run (sql : String) (params : List Datum) (s : Server) : Except ServerError Reply × Server :=
  match s.answer (.prepared sql params) sql with
  | (.fail e, s) => (.error e, s)
  | (.reply r, s) => (.ok r, s)
  | (.hangUp, s) => (.ok (.done 1 0), s)

/-- Run a plain statement. -/
def command (sql : String) (s : Server) : Except ServerError Unit × Server :=
  match s.answer (.plain sql) sql with
  | (.fail e, s) => (.error e, s)
  | (_, s) => (.ok (), s)

def ping (client : Nat) (s : Server) : Bool × Server :=
  if s.gone.contains client then (false, s)
  else match s.answer (.plain pingText) pingText with
    | (.fail _, s) => (false, s)
    | (.reply _, s) => (true, s)
    | (.hangUp, s) => (false, { s with gone := client :: s.gone })

end Server

/-- The client library of scripted servers. -/
def client : Client Server where
  connect := Server.connect
  run _ sql params s := s.run sql params
  command _ sql s := s.command sql
  ping := Server.ping
  disconnect _ s := (.ok (), s)

end CardStore.MySql.Scripted
