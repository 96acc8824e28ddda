/-
  CardStore.Proofs.MySql.Connection
  ─────────────────────────────────
  **WHO HOLDS A CLIENT CONNECTION.**

  Calls come one after another, and what the server does to each is left open.
  Calls and their answers alone tell how a connection stands: it is ready, or
  a transaction was begun on it and has not been ended, or it is closed.  The
  connection keeps a slot, a place for the transaction and a flag, and these
  always agree with how it stands: the client connection is in exactly one of
  the two places until it is closed, whatever fails.

  Main statements:
    * `Stands.perform` — one call.
    * `one_holder` — every sequence of calls.
-/
import CardStore.MySql.Connection
import CardStore.Proofs.Lists

namespace CardStore.MySql.Connection

/-! ## §1. Calls. -/

/-- What is asked of a connection, or of the transaction that is open on it. -/
inductive Call where
  | query (sql : String) (params : List Value)
  | execute (sql : String) (params : List Value)
  | begin
  | queryInside (sql : String) (params : List Value)
  | executeInside (sql : String) (params : List Value)
  | commit
  | rollback
  | close

/-- How a connection stands, going by what was asked and answered. -/
inductive Standing where
  | ready
  /-- A transaction was begun and has not been ended. -/
  | inside
  | closed
  deriving DecidableEq

variable {ρ α : Type}

/-- Whether a call went well. -/
def outcome : Except Error α × Connection × ρ → Except Error Unit × Connection × ρ
  | (answer, c, r) => (answer.map fun _ => (), c, r)

namespace Call

def perform (k : Client ρ) (call : Call) (c : Connection) (r : ρ) :
    Except Error Unit × Connection × ρ :=
  match call with
  | .query sql params => outcome (c.run k sql params Reply.toRows r)
  | .execute sql params => outcome (c.run k sql params Reply.toOutcome r)
  | .begin => c.begin k r
  | .queryInside sql params => outcome (c.runInside k sql params Reply.toRows r)
  | .executeInside sql params => outcome (c.runInside k sql params Reply.toOutcome r)
  | .commit => c.commit k r
  | .rollback => c.rollback k r
  | .close => c.close k r

/-- Whether a call can be made: a transaction that was ended is gone, and one that was begun is
ended before the connection is closed. -/
def allowed : Call → Standing → Bool
  | .queryInside _ _, st | .executeInside _ _, st | .commit, st | .rollback, st => st = .inside
  | .close, st => st ≠ .inside
  | .query _ _, _ | .execute _ _, _ | .begin, _ => true

/-- How a connection stands after a call that was answered. -/
def after : Call → Except Error Unit → Standing → Standing
  | .begin, answer, .ready => match answer with
    | .ok _ => .inside
    | .error _ => .ready
  | .commit, _, .inside | .rollback, _, .inside => .ready
  | .close, _, .ready => .closed
  | _, _, st => st

end Call

/-- A connection in use. -/
structure Use (ρ : Type) where
  standing : Standing
  connection : Connection
  server : ρ

/-- A connection around a client connection that was just opened. -/
def Use.opened (database : String) (client : Nat) (r : ρ) : Use ρ :=
  ⟨.ready, ofClient database client, r⟩

/-- A call that is allowed, and what is after it. -/
def Call.play (k : Client ρ) (call : Call) (s : Use ρ) : Option (Use ρ) :=
  if call.allowed s.standing then
    let (answer, c, r) := call.perform k s.connection s.server
    some ⟨call.after answer s.standing, c, r⟩
  else none

/-- Calls, one after another. -/
def playAll (k : Client ρ) (calls : List Call) (s : Use ρ) : Option (Use ρ) :=
  calls.foldlM (fun s call => call.play k s) s

/-! ## §2. How a connection stands. -/

/-- **How a connection stands** around a client connection: where the client connection is, and the
flag with it. -/
inductive Stands (client : Nat) : Standing → Connection → Prop where
  | ready (database : String) : Stands client .ready ⟨database, some client, none, false⟩
  | inside (database : String) : Stands client .inside ⟨database, none, some client, true⟩
  | closed (database : String) : Stands client .closed ⟨database, none, none, false⟩

variable {k : Client ρ} {client : Nat} {st : Standing} {c : Connection} {call : Call}

/-- **One call** leads from how a connection stands to how it stands then. -/
theorem Stands.perform (h : Stands client st c) (hallowed : call.allowed st = true) (r : ρ) :
    Stands client (call.after (call.perform k c r).1 st) (call.perform k c r).2.1 := by
  cases h with
  | ready database =>
    cases call with
    | query sql params => exact .ready database
    | execute sql params => exact .ready database
    | begin =>
      rw [Call.perform, Connection.begin]
      dsimp only
      split
      -- a statement that opens no transaction leaves the client connection in the slot
      · exact .ready database
      · exact .inside database
    | close => exact .closed database
    | queryInside _ _ | executeInside _ _ | commit | rollback => cases hallowed
  | inside database =>
    cases call with
    | query sql params => exact .inside database
    | execute sql params => exact .inside database
    | begin => exact .inside database
    | queryInside sql params => exact .inside database
    | executeInside sql params => exact .inside database
    -- whatever the last statement is answered
    | commit => exact .ready database
    | rollback => exact .ready database
    | close => cases hallowed
  | closed database =>
    cases call with
    | query sql params => exact .closed database
    | execute sql params => exact .closed database
    | begin => exact .closed database
    | close => exact .closed database
    | queryInside _ _ | executeInside _ _ | commit | rollback => cases hallowed

theorem Call.play_eq_some_iff {s s' : Use ρ} : call.play k s = some s' ↔
    call.allowed s.standing = true
      ∧ s' = ⟨call.after (call.perform k s.connection s.server).1 s.standing,
        (call.perform k s.connection s.server).2.1, (call.perform k s.connection s.server).2.2⟩ := by
  rw [Call.play]
  split
  · rename_i hallowed
    exact ⟨fun h => ⟨hallowed, (Option.some.inj h).symm⟩, fun h => congrArg some h.2.symm⟩
  · rename_i hforbidden
    exact ⟨nofun, fun h => absurd h.1 hforbidden⟩

theorem Stands.play {s s' : Use ρ} (hs : Stands client s.standing s.connection)
    (h : call.play k s = some s') : Stands client s'.standing s'.connection := by
  obtain ⟨hallowed, rfl⟩ := Call.play_eq_some_iff.1 h
  exact hs.perform hallowed s.server

theorem Stands.playAll {calls : List Call} {s s' : Use ρ}
    (hs : Stands client s.standing s.connection) (h : playAll k calls s = some s') :
    Stands client s'.standing s'.connection :=
  keeps_of_foldlM (fun s => Stands client s.standing s.connection) calls
    (fun _ _ _ _ hcall hs => hs.play hcall) h hs

/-! ## §3. Who can use it. -/

/-- An answer that the connection was not there. -/
def Unavailable (answer : Except Error α) : Prop :=
  ∃ message source, answer = .error (.connection message source)

/-- A statement reaches the server on the client connection and is answered as it answers, and so
is one that opens a transaction. -/
structure Usable (k : Client ρ) (client : Nat) (c : Connection) (r : ρ) : Prop where
  run : ∀ {α : Type} (sql : String) (params : List Value) (read : Reply → α),
    c.run k sql params read r
      = (((k.run client sql (params.map Datum.ofValue) r).1.map read).mapError (statementError sql),
        c, (k.run client sql (params.map Datum.ofValue) r).2)
  begin : (c.begin k r).1 = (k.command client "BEGIN" r).1.mapError fun e =>
    .transaction "Failed to begin transaction" (some (.server e))

/-- A statement of the transaction reaches the server on the client connection and is answered as
it answers. -/
def UsableInside (k : Client ρ) (client : Nat) (c : Connection) (r : ρ) : Prop :=
  ∀ {α : Type} (sql : String) (params : List Value) (read : Reply → α),
    c.runInside k sql params read r
      = (((k.run client sql (params.map Datum.ofValue) r).1.map read).mapError (statementError sql),
        c, (k.run client sql (params.map Datum.ofValue) r).2)

theorem Stands.usable (h : Stands client .ready c) (r : ρ) : Usable k client c r := by
  cases h with
  | ready database =>
    refine ⟨fun sql params read => rfl, ?_⟩
    rw [Connection.begin]
    dsimp only
    cases k.command client "BEGIN" r with
    | mk answer r' => cases answer <;> rfl

theorem Stands.usableInside (h : Stands client .inside c) (r : ρ) : UsableInside k client c r := by
  cases h with
  | inside database => exact fun sql params read => rfl

/-- What the server reports about a statement is never that the connection was not there. -/
theorem not_unavailable_of_mapError {ε : Type} {f : ε → Error} (answer : Except ε α)
    (h : ∀ e message source, f e ≠ .connection message source) :
    ¬ Unavailable (answer.mapError f) := by
  rintro ⟨message, source, hanswer⟩
  cases answer with
  | ok a => cases hanswer
  | error e => exact h e message source (Except.error.inj hanswer)

theorem Stands.unavailable_run_iff (h : Stands client st c) (sql : String) (params : List Value)
    (read : Reply → α) (r : ρ) :
    Unavailable (c.run k sql params read r).1 ↔ st = .inside ∨ st = .closed := by
  cases hst : st with
  | ready =>
    rw [hst] at h
    rw [(h.usable r).run]
    exact iff_of_false (not_unavailable_of_mapError _ nofun) nofun
  | inside | closed =>
    rw [hst] at h
    cases h
    exact iff_of_true ⟨_, _, rfl⟩ (by simp)

theorem Stands.unavailable_begin_iff (h : Stands client st c) (r : ρ) :
    Unavailable (c.begin k r).1 ↔ st = .inside ∨ st = .closed := by
  cases hst : st with
  | ready =>
    rw [hst] at h
    rw [(h.usable r).begin]
    exact iff_of_false (not_unavailable_of_mapError _ nofun) nofun
  | inside | closed =>
    rw [hst] at h
    cases h
    exact iff_of_true ⟨_, _, rfl⟩ (by simp)

theorem Stands.place (h : Stands client st c) :
    (st = .ready ∧ c.slot = some client ∧ c.held = none)
      ∨ (st = .inside ∧ c.slot = none ∧ c.held = some client)
      ∨ (st = .closed ∧ c.slot = none ∧ c.held = none) := by
  cases h with
  | ready => exact .inl ⟨rfl, rfl, rfl⟩
  | inside => exact .inr (.inl ⟨rfl, rfl, rfl⟩)
  | closed => exact .inr (.inr ⟨rfl, rfl, rfl⟩)

theorem Stands.inTransaction_iff (h : Stands client st c) :
    c.inTransaction = true ↔ st = .inside := by
  cases h with
  | ready | closed => exact iff_of_false nofun nofun
  | inside => exact iff_of_true rfl rfl

/-- How a connection stands after a transaction has ended, or after a call outside that failed. -/
theorem Call.after_eq_ready {answer : Except Error Unit} (hallowed : call.allowed st = true)
    (h : call = .commit ∨ call = .rollback
      ∨ (st = .ready ∧ call ≠ .close ∧ ∃ e, answer = .error e)) :
    call.after answer st = .ready := by
  rcases h with rfl | rfl | ⟨rfl, hclose, e, rfl⟩
  · rw [of_decide_eq_true hallowed]
    rfl
  · rw [of_decide_eq_true hallowed]
    rfl
  · cases call with
    | close => exact absurd rfl hclose
    | _ => rfl

/-! ## §4. Every sequence of calls. -/

/-- **One holder.** Take any calls on a new connection, one after another, and any server.  The
client connection is in the slot, or the transaction that was begun and has not been ended has it,
or the connection is closed; and the flag says whether there is such a transaction.  Statements
outside the transaction are answered that the connection is not there exactly as long as it is open
or after the connection was closed.  Whenever it is ready statements reach the server, and whenever
a transaction is open so do its statements; in particular it can be used after a transaction has
ended, and after a call outside that failed, whatever the server answered. -/
theorem one_holder (k : Client ρ) (database : String) (client : Nat) (r : ρ) (calls : List Call)
    (s : Use ρ) (h : playAll k calls (.opened database client r) = some s) :
    ((s.standing = .ready ∧ s.connection.slot = some client ∧ s.connection.held = none)
        ∨ (s.standing = .inside ∧ s.connection.slot = none ∧ s.connection.held = some client)
        ∨ (s.standing = .closed ∧ s.connection.slot = none ∧ s.connection.held = none))
      ∧ (s.connection.inTransaction = true ↔ s.standing = .inside)
      ∧ (∀ {α : Type} (sql : String) (params : List Value) (read : Reply → α),
        Unavailable (s.connection.run k sql params read s.server).1
          ↔ s.standing = .inside ∨ s.standing = .closed)
      ∧ (Unavailable (s.connection.begin k s.server).1
        ↔ s.standing = .inside ∨ s.standing = .closed)
      ∧ (s.standing = .ready → Usable k client s.connection s.server)
      ∧ (s.standing = .inside → UsableInside k client s.connection s.server)
      ∧ ∀ (call : Call) (s' : Use ρ), call.play k s = some s' →
        (call = .commit ∨ call = .rollback ∨ (s.standing = .ready ∧ call ≠ .close
          ∧ ∃ e, (call.perform k s.connection s.server).1 = .error e)) →
        Usable k client s'.connection s'.server := by
  have hs : Stands client s.standing s.connection := Stands.playAll (.ready database) h
  refine ⟨hs.place, hs.inTransaction_iff,
    fun sql params read => hs.unavailable_run_iff sql params read s.server,
    hs.unavailable_begin_iff s.server, fun hready => ?_, fun hinside => ?_,
    fun call s' hcall hend => ?_⟩
  · rw [hready] at hs
    exact hs.usable s.server
  · rw [hinside] at hs
    exact hs.usableInside s.server
  · have hs' := hs.play hcall
    obtain ⟨hallowed, rfl⟩ := Call.play_eq_some_iff.1 hcall
    rw [Call.after_eq_ready hallowed hend] at hs'
    exact hs'.usable _

/-- A server that answers every statement, but never commits. -/
def stubborn : Client Unit where
  connect _ := (.ok 0, ())
  run _ _ _ _ := (.ok (.done 1 0), ())
  command _ sql _ :=
    (if sql = "COMMIT" then .error ⟨1213, "40001", "Deadlock found"⟩ else .ok (), ())
  ping _ _ := (true, ())
  disconnect _ _ := (.ok (), ())

/-- A transaction whose last statement fails leaves its connection to the next statement. -/
theorem one_holder_stubborn : ∃ s s' : Use Unit,
    playAll stubborn [.begin, .executeInside "DELETE FROM STAFF" []]
        (.opened "cards" 0 ()) = some s
      ∧ s.connection.slot = none ∧ s.connection.held = some 0
      ∧ s.connection.inTransaction = true
      ∧ Call.commit.play stubborn s = some s'
      ∧ (∃ e, (Call.commit.perform stubborn s.connection s.server).1 = .error e)
      ∧ Usable stubborn 0 s'.connection s'.server := by
  have hplay : playAll stubborn [.begin, .executeInside "DELETE FROM STAFF" []]
      (.opened "cards" 0 ()) = some ⟨.inside, ⟨"cards", none, some 0, true⟩, ()⟩ := rfl
  obtain ⟨_, hflag, _, _, _, _, hend⟩ := one_holder stubborn "cards" 0 () _ _ hplay
  exact ⟨_, _, hplay, rfl, rfl, hflag.2 rfl, rfl, ⟨_, rfl⟩, hend .commit _ rfl (.inl rfl)⟩

end CardStore.MySql.Connection
