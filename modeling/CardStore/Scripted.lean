/-
  CardStore.Scripted
  ──────────────────
  **A BACKEND THAT ANSWERS BY RULES.**

  For trying things out without a database: every statement is recorded and
  answered by the first rule that matches it and has uses left.  Without a
  rule a statement affects one row.  Each named database has its own record,
  counters and faults.
-/
import CardStore.Backend
import CardStore.OrderedMap
import CardStore.Scripted.Rule
import CardStore.Value.Basic

namespace CardStore.Scripted

/-- What a rule answers. -/
inductive Answer where
  | fail (e : Error)
  | rows (rs : List Row)
  | affected (n : Nat)

/-- A statement that asks for an answer. -/
structure Request where
  database : String
  sql : String
  params : List Value

/-- Whether a statement goes to a database and has a first parameter, both of which may be left
open. -/
def Request.matches (r : Request) (database : Option String) (param : Option Value) : Bool :=
  holds (· == r.database) database
    && holds (fun v => match r.params with
      | [] => false
      | w :: _ => v.strictEq w) param

/-- A statement that reached a database. -/
structure Executed where
  sql : String
  params : List Value
  scope : Scope

/-- What goes wrong on purpose. -/
structure Faults where
  begin : Option Error
  commit : Option Error
  rollback : Option Error
  invalid : Bool
  deriving Inhabited

def Faults.none : Faults := ⟨.none, .none, .none, false⟩

/-- One database. -/
structure Site where
  /-- Recorded statements, the latest first. -/
  executed : List Executed
  begins : Nat
  commits : Nat
  rollbacks : Nat
  opened : Nat
  closed : Nat
  faults : Faults
  /-- Why no new connection can be opened. -/
  refusal : Option String

def Site.fresh : Site := ⟨[], 0, 0, 0, 0, 0, .none, .none⟩

instance : Inhabited Site := ⟨Site.fresh⟩

/-- All databases, and who opened which connection. -/
structure State where
  rules : List (Rule Request Answer)
  sites : OrderedMap Site
  /-- The databases of the connections, the latest first. -/
  owners : List String

def State.empty : State := ⟨[], .empty, []⟩

/-! ## The backend. -/

namespace State

def site (s : State) (database : String) : Site := (s.sites.get? database).getD default

def setSite (s : State) (database : String) (site : Site) : State :=
  { s with sites := s.sites.set database site }

/-- The database of a connection. -/
def ownerOf (s : State) (connection : Nat) : String :=
  (s.owners.reverse[connection]?).getD ""

/-- Record a statement and answer it. -/
def execute (connection : Nat) (scope : Scope) (sql : String) (params : List Value) (s : State) :
    Answer × State :=
  let database := s.ownerOf connection
  let site := s.site database
  -- a statement is recorded before it is answered, so also when it fails
  let s := s.setSite database { site with executed := ⟨sql, params, scope⟩ :: site.executed }
  let (answer, rules) := Rule.first? ⟨database, sql, params⟩ s.rules
  (answer.getD (.affected 1), { s with rules })

/-- Do something to the database of a connection unless it fails on purpose. -/
def attempt (connection : Nat) (fault : Faults → Option Error) (done : Site → Site) (s : State) :
    Except Error Unit × State :=
  let database := s.ownerOf connection
  let site := s.site database
  match fault site.faults with
  | some e => (.error e, s)
  | none => (.ok (), s.setSite database (done site))

/-- Open a connection. -/
def connect (database : String) (s : State) : Except Error Nat × State :=
  let site := s.site database
  match site.refusal with
  | some message => (.error (.connection message none), s)
  | none =>
    (.ok s.owners.length,
      { s.setSite database { site with opened := site.opened + 1 } with
        owners := database :: s.owners })

/-- Put faults on purpose in place of those before; a refusal of connections stays. -/
def setFaults (database : String) (faults : Faults) (refusal : Option String) (s : State) : State :=
  let site := s.site database
  s.setSite database { site with faults, refusal := refusal <|> site.refusal }

/-- Forget statements and counters of transactions. -/
def forget (s : State) : State :=
  s.sites.keys.foldl (fun s database =>
    s.setSite database { s.site database with executed := [], begins := 0, commits := 0, rollbacks := 0 }) s

end State

/-- The rows that a query is answered with. -/
def Answer.toRows : Answer → Except Error RowSet
  | .fail e => .error e
  | .rows rs => .ok (.ofRows rs)
  | .affected _ => .ok .empty

/-- The outcome that a statement is answered with. -/
def Answer.toOutcome : Answer → Except Error Outcome
  | .fail e => .error e
  | .rows rs => .ok (.ofAffected rs.length)
  | .affected n => .ok (.ofAffected n)

/-- The backend. -/
def backend : Backend State where
  connect := State.connect
  query connection scope sql params s :=
    let (answer, s) := s.execute connection scope sql params
    (answer.toRows, s)
  execute connection scope sql params s :=
    let (answer, s) := s.execute connection scope sql params
    (answer.toOutcome, s)
  begin connection s := s.attempt connection (·.begin) fun site => { site with begins := site.begins + 1 }
  commit connection s :=
    s.attempt connection (·.commit) fun site => { site with commits := site.commits + 1 }
  rollback connection s :=
    s.attempt connection (·.rollback) fun site => { site with rollbacks := site.rollbacks + 1 }
  isValid connection s := (!(s.site (s.ownerOf connection)).faults.invalid, s)
  close connection s :=
    let database := s.ownerOf connection
    let site := s.site database
    (.ok (), s.setSite database { site with closed := site.closed + 1 })

end CardStore.Scripted
