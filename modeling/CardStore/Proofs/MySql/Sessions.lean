/-
  CardStore.Proofs.MySql.Sessions
  ───────────────────────────────
  **SESSIONS OF A SERVER, WATCHED.**

  A client library can be watched: next to its state it keeps, for every
  session that was opened, whether a transaction is open on it and whether the
  last attempt to end it failed, going by what was sent and answered.  `BEGIN`
  opens a transaction, `COMMIT` and `ROLLBACK` end it if they succeed and leave
  it open if they fail.  Sessions are known by numbers in the order in which
  they were opened.  What the server answers is left open.

  A connection that is at rest has its own session in its slot.  No call of the
  backend on one connection changes another connection or its session.

  Main statements:
    * `Spares` — what a call of the backend leaves alone.
    * `staged_begin`, `staged_runInside`, `staged_finish` — a transaction on a connection at rest.
-/
import CardStore.MySql.Sessions
import CardStore.Proofs.MySql.Connection

namespace CardStore.MySql

/-! ## §1. A client library that is watched. -/

/-- What is known of a session. -/
structure Session where
  /-- The number by which the client library knows it. -/
  client : Nat
  /-- Whether a transaction is open. -/
  isOpen : Bool
  /-- Whether the last statement that was to end it, if any, was answered with an error. -/
  endFailed : Bool

/-- A session after a plain statement that was answered. -/
def Session.after (sql : String) (answer : Except ServerError Unit) (session : Session) : Session :=
  match answer with
  | .ok () =>
    if sql = "BEGIN" then { session with isOpen := true, endFailed := false }
    else if sql = "COMMIT" ∨ sql = "ROLLBACK" then
      { session with isOpen := false, endFailed := false }
    else session
  | .error _ =>
    if sql = "COMMIT" ∨ sql = "ROLLBACK" then { session with endFailed := true } else session

/-- A server, and the sessions in the order in which they were opened. -/
structure Watched (ρ : Type) where
  server : ρ
  sessions : List Session

variable {ρ α : Type}

/-- The number by which the client library knows a session. -/
def Watched.client (w : Watched ρ) (n : Nat) : Nat := ((w.sessions[n]?).map (·.client)).getD 0

/-- A client library that is watched. -/
def Client.watched (k : Client ρ) : Client (Watched ρ) where
  connect w := match k.connect w.server with
    | (.ok client, server) =>
      (.ok w.sessions.length, ⟨server, w.sessions ++ [⟨client, false, false⟩]⟩)
    | (.error e, server) => (.error e, ⟨server, w.sessions⟩)
  run n sql params w :=
    let (answer, server) := k.run (w.client n) sql params w.server
    (answer, { w with server })
  command n sql w :=
    let (answer, server) := k.command (w.client n) sql w.server
    (answer, ⟨server, w.sessions.modify n (Session.after sql answer)⟩)
  ping n w :=
    let (answer, server) := k.ping (w.client n) w.server
    (answer, { w with server })
  disconnect n w :=
    let (answer, server) := k.disconnect (w.client n) w.server
    (answer, { w with server })

theorem watched_connect_ok {k : Client ρ} {w : Watched ρ} {client : Nat} {server : ρ}
    (h : k.connect w.server = (.ok client, server)) : k.watched.connect w
      = (.ok w.sessions.length, ⟨server, w.sessions ++ [⟨client, false, false⟩]⟩) := by
  show (match k.connect w.server with
    | (.ok client, server) => _
    | (.error e, server) => _) = _
  rw [h]

theorem watched_connect_error {k : Client ρ} {w : Watched ρ} {e : ServerError} {server : ρ}
    (h : k.connect w.server = (.error e, server)) :
    k.watched.connect w = (.error e, ⟨server, w.sessions⟩) := by
  show (match k.connect w.server with
    | (.ok client, server) => _
    | (.error e, server) => _) = _
  rw [h]

/-- Between two states no session but one has changed. -/
def Watched.Changes (n : Nat) (w w' : Watched ρ) : Prop :=
  w'.sessions.length = w.sessions.length ∧ ∀ m, m ≠ n → w'.sessions[m]? = w.sessions[m]?

theorem Watched.changes_of_eq {n : Nat} {w w' : Watched ρ} (h : w'.sessions = w.sessions) :
    w.Changes n w' := by
  rw [Changes, h]
  exact ⟨rfl, fun _ _ => rfl⟩

theorem changes_command (k : Client ρ) (n : Nat) (sql : String) (w : Watched ρ) :
    w.Changes n (k.watched.command n sql w).2 := by
  refine ⟨List.length_modify .., fun m hm => ?_⟩
  exact List.getElem?_modify_ne _ _ hm.symm

theorem getElem?_command (k : Client ρ) (sql : String) {n : Nat} {w : Watched ρ}
    {session : Session} (h : w.sessions[n]? = some session) :
    (k.watched.command n sql w).2.sessions[n]?
      = some (session.after sql (k.watched.command n sql w).1) := by
  show (w.sessions.modify n _)[n]? = _
  rw [List.getElem?_modify_eq, h]
  rfl

/-! ## §2. Connections at rest and in a transaction. -/

namespace Sessions

/-- Every connection has a session, and every session a connection. -/
def Aligned (s : Sessions (Watched ρ)) : Prop := s.server.sessions.length = s.connections.length

/-- How a connection and its session fit together.  In a transaction it is open and nobody has
tried to end it; at rest it is open only if the attempt to end it failed. -/
def Fits (n : Nat) : Bool → Connection → Session → Prop
  | true, c, session => Connection.Stands n .inside c ∧ session.isOpen = true
    ∧ session.endFailed = false
  | false, c, session => Connection.Stands n .ready c ∧ session.isOpen = session.endFailed

/-- The connection of a number and its session, in a transaction or at rest. -/
def Staged (inside : Bool) (n : Nat) (s : Sessions (Watched ρ)) : Prop :=
  ∃ c session, s.connections[n]? = some c ∧ s.server.sessions[n]? = some session
    ∧ Fits n inside c session

/-- **What a call of the backend on one connection leaves alone**: all others. -/
structure Spares (n : Nat) (s s' : Sessions (Watched ρ)) : Prop where
  connections : ∀ m, m ≠ n → s'.connections[m]? = s.connections[m]?
  sessions : ∀ m, m ≠ n → s'.server.sessions[m]? = s.server.sessions[m]?
  aligned : s.Aligned → s'.Aligned

variable {k : Client ρ} {n m : Nat} {inside : Bool} {s s' : Sessions (Watched ρ)}

theorem Staged.lt (h : s.Staged inside n) : n < s.connections.length := by
  obtain ⟨c, _, hc, _⟩ := h
  exact (List.getElem?_eq_some_iff.1 hc).1

theorem Spares.staged (h : Spares n s s') (hne : m ≠ n) (hs : s.Staged inside m) :
    s'.Staged inside m := by
  obtain ⟨c, session, hc, hsession, hfits⟩ := hs
  exact ⟨c, session, (h.connections m hne).trans hc, (h.sessions m hne).trans hsession, hfits⟩

theorem Staged.of_eq (hconnections : s'.connections = s.connections)
    (hsessions : s'.server.sessions = s.server.sessions) (hs : s.Staged inside n) :
    s'.Staged inside n := by
  obtain ⟨c, session, hc, hsession, hfits⟩ := hs
  refine ⟨c, session, ?_, ?_, hfits⟩
  · rw [hconnections, hc]
  · rw [hsessions, hsession]

theorem spares_on {f : Connection → Watched ρ → Except Error α × Connection × Watched ρ}
    (h : s.server.Changes n (f (s.connections[n]?.getD default) s.server).2.2) :
    Spares n s (s.on n f).2 where
  connections m hm := List.getElem?_set_ne hm.symm
  sessions := h.2
  aligned hs := by
    show (f _ s.server).2.2.sessions.length = (s.connections.set n _).length
    rw [h.1, List.length_set, hs]

/-- **A call on a connection** that is staged, where the call itself is known. -/
theorem staged_on {inside : Bool} (inside' : Except Error α → Bool)
    {f : Connection → Watched ρ → Except Error α × Connection × Watched ρ}
    (hs : s.Staged inside n)
    (hf : ∀ c session, Fits n inside c session → s.server.sessions[n]? = some session →
      s.server.Changes n (f c s.server).2.2 ∧ ∃ session',
        (f c s.server).2.2.sessions[n]? = some session'
          ∧ Fits n (inside' (f c s.server).1) (f c s.server).2.1 session') :
    Spares n s (s.on n f).2 ∧ (s.on n f).2.Staged (inside' (s.on n f).1) n := by
  have hlt := hs.lt
  obtain ⟨c, session, hc, hsession, hfits⟩ := hs
  obtain ⟨hchanges, session', hsession', hfits'⟩ := hf c session hfits hsession
  have hgetD : s.connections[n]?.getD default = c := by rw [hc, Option.getD_some]
  refine ⟨spares_on (hgetD ▸ hchanges), ?_⟩
  have hon : s.on n f = ((f c s.server).1, { s with
      server := (f c s.server).2.2, connections := s.connections.set n (f c s.server).2.1 }) := by
    rw [on, hgetD]
  rw [hon]
  exact ⟨_, session', List.getElem?_set_self hlt, hsession', hfits'⟩

/-! ## §3. Calls of the backend. -/

/-- A statement by itself. -/
theorem staged_run (read : Reply → α) (sql : String) (params : List Value)
    (hs : s.Staged false n) :
    Spares n s (s.run k.watched read n .alone sql params).2
      ∧ (s.run k.watched read n .alone sql params).2.Staged false n := by
  refine staged_on (fun _ => false) hs fun c session hfits hsession => ?_
  obtain ⟨hstands, hopen⟩ := hfits
  cases hstands with
  | ready database =>
    exact ⟨Watched.changes_of_eq rfl, session, hsession, .ready database, hopen⟩

/-- A statement of a transaction. -/
theorem staged_runInside (read : Reply → α) (sql : String) (params : List Value)
    (hs : s.Staged true n) :
    Spares n s (s.run k.watched read n .transaction sql params).2
      ∧ (s.run k.watched read n .transaction sql params).2.Staged true n := by
  refine staged_on (fun _ => true) hs fun c session hfits hsession => ?_
  obtain ⟨hstands, hopen⟩ := hfits
  cases hstands with
  | inside database =>
    exact ⟨Watched.changes_of_eq rfl, session, hsession, .inside database, hopen⟩

/-- **The beginning of a transaction**, which may fail. -/
theorem staged_begin (hs : s.Staged false n) :
    Spares n s ((backend k.watched).begin n s).2
      ∧ ((backend k.watched).begin n s).2.Staged ((backend k.watched).begin n s).1.toOption.isSome
        n := by
  refine staged_on (fun answer => answer.toOption.isSome) hs
    fun c session hfits hsession => ?_
  obtain ⟨hstands, hopen⟩ := hfits
  have hchanges := changes_command k n "BEGIN" s.server
  have hsession' := getElem?_command k "BEGIN" hsession
  cases hstands with
  | ready database =>
    rw [Connection.begin]
    dsimp only
    generalize k.watched.command n "BEGIN" s.server = answered at hchanges hsession' ⊢
    obtain ⟨answer, w⟩ := answered
    cases answer with
    | error e => exact ⟨hchanges, _, hsession', .ready database, hopen⟩
    | ok u => exact ⟨hchanges, _, hsession', .inside database, rfl, rfl⟩

/-- **The end of a transaction**, whatever its last statement is answered. -/
theorem staged_finish {statement : String} (hend : statement = "COMMIT" ∨ statement = "ROLLBACK")
    (hs : s.Staged true n) :
    Spares n s (s.on n (Connection.finish k.watched statement)).2
      ∧ (s.on n (Connection.finish k.watched statement)).2.Staged false n := by
  refine staged_on (fun _ => false) hs fun c session hfits hsession => ?_
  obtain ⟨hstands, hopen, hfailed⟩ := hfits
  have hchanges := changes_command k n statement s.server
  have hsession' := getElem?_command k statement hsession
  have hbegin : statement ≠ "BEGIN" := by
    rcases hend with rfl | rfl <;> decide
  cases hstands with
  | inside database =>
    refine ⟨hchanges, _, hsession', .ready database, ?_⟩
    cases (k.watched.command n statement s.server).1 with
    | ok u => simp [Session.after, hbegin, hend]
    | error e => simp [Session.after, hend, hopen]

/-- A test. -/
theorem staged_isValid (hs : s.Staged false n) :
    Spares n s ((backend k.watched).isValid n s).2
      ∧ ((backend k.watched).isValid n s).2.Staged false n := by
  obtain ⟨c, session, hc, hsession, hstands, hopen⟩ := hs
  have hgetD : s.connections[n]?.getD default = c := by rw [hc, Option.getD_some]
  have hsessions : ((backend k.watched).isValid n s).2.server.sessions = s.server.sessions := by
    show (Connection.isValid k.watched (s.connections[n]?.getD default) s.server).2.sessions = _
    rw [hgetD]
    cases hstands
    rfl
  refine ⟨⟨fun _ _ => rfl, fun m _ => by rw [hsessions], fun hs => ?_⟩, c, session, hc, ?_,
    hstands, hopen⟩
  · rw [Aligned, hsessions]
    exact hs
  · rw [hsessions]
    exact hsession

/-- The closing of a connection. -/
theorem spares_close (hs : s.Staged false n) : Spares n s ((backend k.watched).close n s).2 := by
  obtain ⟨c, session, hc, hsession, hstands, hopen⟩ := hs
  have hgetD : s.connections[n]?.getD default = c := by rw [hc, Option.getD_some]
  refine spares_on (Watched.changes_of_eq ?_)
  rw [hgetD]
  cases hstands
  rfl

/-- **What the opening of a connection can do**: fail, or open a connection and a session. -/
inductive Opening (s : Sessions (Watched ρ)) : Except Error Nat × Sessions (Watched ρ) → Prop where
  | failed {e : Error} {s' : Sessions (Watched ρ)} : s'.connections = s.connections →
      s'.server.sessions = s.server.sessions → Opening s (.error e, s')
  | opened {name : String} {client : Nat} {s' : Sessions (Watched ρ)} :
      s'.connections = s.connections ++ [Connection.ofClient name s.server.sessions.length] →
      s'.server.sessions = s.server.sessions ++ [⟨client, false, false⟩] →
      Opening s (.ok s.connections.length, s')

theorem opening_openAddress (k : Client ρ) (address : String) (s : Sessions (Watched ρ)) :
    Opening s (s.openAddress k.watched address) := by
  rw [openAddress]
  split
  · exact .failed rfl rfl
  · rename_i name _
    rw [openDatabase, Connection.open?]
    cases hconnect : k.connect s.server.server with
    | mk answer server =>
      cases answer with
      | error e =>
        rw [watched_connect_error hconnect]
        exact .failed rfl rfl
      | ok client =>
        rw [watched_connect_ok hconnect]
        exact .opened rfl rfl

theorem opening_connect (k : Client ρ) (database : String) (s : Sessions (Watched ρ)) :
    Opening s ((backend k.watched).connect database s) := opening_openAddress k _ s

/-- What is added at the end of a list stands nowhere else. -/
theorem getElem?_concat_of_ne {β : Type} {l : List β} {i : Nat} (a : β) (h : i ≠ l.length) :
    (l ++ [a])[i]? = l[i]? := by
  rcases Nat.lt_or_gt_of_ne h with hlt | hgt
  · exact List.getElem?_append_left hlt
  · rw [List.getElem?_eq_none (Nat.le_of_lt hgt)]
    apply List.getElem?_eq_none
    rw [List.length_append, List.length_singleton]
    exact hgt

/-- **A new connection** has the next number, and is at rest. -/
theorem staged_connect {database : String} (hs : s.Aligned)
    (h : ((backend k.watched).connect database s).1 = .ok n) :
    n = s.connections.length ∧ Spares n s ((backend k.watched).connect database s).2
      ∧ ((backend k.watched).connect database s).2.Staged false n := by
  have hopening := opening_connect k database s
  generalize (backend k.watched).connect database s = opened at hopening h ⊢
  cases hopening with
  | failed _ _ => cases h
  | @opened name client s' hconnections hsessions =>
    obtain rfl : s.connections.length = n := Except.ok.inj h
    -- the session has the same number as the connection
    have hlength : s.server.sessions.length = s.connections.length := hs
    rw [hlength] at hconnections
    refine ⟨rfl, ⟨fun m hm => ?_, fun m hm => ?_, fun _ => ?_⟩, ?_⟩
    · rw [hconnections, getElem?_concat_of_ne _ hm]
    · rw [hsessions, getElem?_concat_of_ne _ (hlength ▸ hm)]
    · rw [Aligned, hconnections, hsessions, List.length_append, List.length_append, hlength]
      rfl
    · refine ⟨_, ⟨client, false, false⟩, ?_, ?_, .ready name, rfl⟩
      · rw [hconnections]
        exact List.getElem?_concat_length
      · rw [hsessions, ← hlength]
        exact List.getElem?_concat_length

/-- A connection that cannot be opened changes none. -/
theorem same_of_connect {database : String} {e : Error}
    (h : ((backend k.watched).connect database s).1 = .error e) :
    ((backend k.watched).connect database s).2.connections = s.connections
      ∧ ((backend k.watched).connect database s).2.server.sessions = s.server.sessions := by
  have hopening := opening_connect k database s
  generalize (backend k.watched).connect database s = opened at hopening h ⊢
  cases hopening with
  | failed hconnections hsessions => exact ⟨hconnections, hsessions⟩
  | opened _ _ => cases h

end Sessions

end CardStore.MySql
