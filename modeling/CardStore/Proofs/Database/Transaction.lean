/-
  CardStore.Proofs.Database.Transaction
  ─────────────────────────────────────
  **ALL OR NOTHING.**

  A transaction goes one of three ways.  There is no connection for it, and
  nothing is sent.  It cannot be begun, and nothing more is sent.  Or it is
  begun, the statements of its work follow, in the order and with the
  parameters that the work has for the answers so far, and one commit or one
  rollback comes last, whichever the work demands.

  What the executor of a begun transaction was good for is over with that:
  in no later context does it send anything.

  Main statements:
    * `dialogue_perform` — what a backend sees of a unit of work.
    * `transacted_trans` — what a backend sees of a transaction.
    * `seen_trans` — what a transaction comes to.
    * `advances_trans` — transactions lead to later contexts.
    * `concluded_trans` — what comes of a transaction, and of its executor.
-/
import CardStore.Database.Transaction
import CardStore.Proofs.Database.Statement
import CardStore.Proofs.Work

namespace CardStore

variable {σ α ρ : Type}

/-! ## §1. Executors. -/

namespace Executor

/-- Statements of the executor are refused, and nothing is sent. -/
def Detached (b : Backend σ) (x : Executor) (c : Context σ) : Prop :=
  ∀ sql params, (x.query b sql params).run c = (.error detachedError, c)
    ∧ (x.execute b sql params).run c = (.error detachedError, c)

theorem run_onConnection_of_live {x : Executor} {connection : Nat} {c : Context σ}
    (h : c.connectionOf? x.transaction = some connection) (act : Nat → Action σ α) :
    (x.onConnection act).run c = (act connection).run c := by
  unfold onConnection
  rw [ExceptT.run_mk, h]

theorem run_onConnection_of_ended {x : Executor} {c : Context σ} (h : c.Ended x.transaction)
    (act : Nat → Action σ α) : (x.onConnection act).run c = (.error detachedError, c) := by
  unfold onConnection
  rw [ExceptT.run_mk, h.connectionOf?]

theorem detached_of_ended (b : Backend σ) {x : Executor} {c : Context σ}
    (h : c.Ended x.transaction) : x.Detached b c := by
  intro sql params
  exact ⟨run_onConnection_of_ended h _, run_onConnection_of_ended h _⟩

end Executor

/-! ## §2. Units of work. -/

/-- What a backend sees of a unit of work on a connection, and what comes of the work: its
statements in their order, each of which may depend on the answers so far. -/
inductive Work.Conversation (d : Sql.Dialect) (connection : Nat) :
    Script Work.Request Work.Answer (Except Error α) → List Exchange → Except Error α → Prop where
  | done (r : Except Error α) : Conversation d connection (.done r) [] r
  | query {sql : String} {params : List Value}
    {k : Work.Answer (.query sql params) → Script Work.Request Work.Answer (Except Error α)}
    {es : List Exchange} {r : Except Error α} (answer : Except Error RowSet) :
    Conversation d connection (k answer) es r →
    Conversation d connection (.ask (.query sql params) k)
      (.queried connection .transaction (d.render sql) params answer :: es) r
  | execute {sql : String} {params : List Value}
    {k : Work.Answer (.execute sql params) → Script Work.Request Work.Answer (Except Error α)}
    {es : List Exchange} {r : Except Error α} (answer : Except Error Outcome) :
    Conversation d connection (k answer) es r →
    Conversation d connection (.ask (.execute sql params) k)
      (.executed connection .transaction (d.render sql) params answer :: es) r
  | freshId {k : Work.Answer .freshId → Script Work.Request Work.Answer (Except Error α)}
    {es : List Exchange} {r : Except Error α} (id : String) :
    Conversation d connection (k id) es r → Conversation d connection (.ask .freshId k) es r
  | note {e : Event}
    {k : Work.Answer (.note e) → Script Work.Request Work.Answer (Except Error α)}
    {es : List Exchange} {r : Except Error α} :
    Conversation d connection (k ()) es r → Conversation d connection (.ask (.note e) k) es r

/-- A dialogue is a conversation, whatever the new identifiers are. -/
theorem Work.Dialogue.conversation {d : Sql.Dialect} {connection : Nat}
    {s : Script Work.Request Work.Answer (Except Error α)} {ids ids' : IdGenerator}
    {es : List Exchange} {r : Except Error α}
    (h : Work.Dialogue d connection s ids es r ids') : Work.Conversation d connection s es r := by
  induction h with
  | done r ids => exact .done r
  | query answer _ ih => exact .query answer ih
  | execute answer _ ih => exact .execute answer ih
  | freshId _ ih => exact .freshId _ ih
  | note _ ih => exact .note ih

namespace Executor

/-- A query of a live executor is one exchange, on the connection of its transaction. -/
theorem traced_query (b : Backend σ) {x : Executor} {connection : Nat}
    {c : Context (σ × List Exchange)} (h : c.connectionOf? x.transaction = some connection)
    (sql : String) (params : List Value) :
    ((x.query b.recorded sql params).run c).2.backend.2 = c.backend.2
        ++ [.queried connection .transaction (x.dialect.render sql) params
          ((x.query b.recorded sql params).run c).1]
      ∧ ((x.query b.recorded sql params).run c).2.transactions = c.transactions
      ∧ ((x.query b.recorded sql params).run c).2.ids = c.ids := by
  rw [query, run_onConnection_of_live h, Database.run_send]
  exact ⟨rfl, rfl, rfl⟩

/-- A change of a live executor is one exchange, on the connection of its transaction. -/
theorem traced_execute (b : Backend σ) {x : Executor} {connection : Nat}
    {c : Context (σ × List Exchange)} (h : c.connectionOf? x.transaction = some connection)
    (sql : String) (params : List Value) :
    ((x.execute b.recorded sql params).run c).2.backend.2 = c.backend.2
        ++ [.executed connection .transaction (x.dialect.render sql) params
          ((x.execute b.recorded sql params).run c).1]
      ∧ ((x.execute b.recorded sql params).run c).2.transactions = c.transactions
      ∧ ((x.execute b.recorded sql params).run c).2.ids = c.ids := by
  rw [execute, run_onConnection_of_live h, Database.run_send]
  exact ⟨rfl, rfl, rfl⟩

theorem dialogue_run (b : Backend σ) (x : Executor) {connection : Nat} :
    ∀ (s : Script Work.Request Work.Answer ρ) (c : Context (σ × List Exchange)),
      c.connectionOf? x.transaction = some connection →
      ∃ es, Work.Dialogue x.dialect connection s c.ids es (s.run (x.answer b.recorded) c).1
          (s.run (x.answer b.recorded) c).2.ids
        ∧ (s.run (x.answer b.recorded) c).2.backend.2 = c.backend.2 ++ es
        ∧ (s.run (x.answer b.recorded) c).2.transactions = c.transactions := by
  intro s
  induction s with
  | done r =>
    intro c _
    exact ⟨[], .done r c.ids, (List.append_nil _).symm, rfl⟩
  | ask r k ih =>
    intro c h
    cases r with
    | query sql params =>
      -- the work goes on with the answer, in a context in which the transaction still lasts
      obtain ⟨hsent, hkept, hids⟩ := traced_query b h sql params
      obtain ⟨es, hes, htrace, htransactions⟩ := ih ((x.query b.recorded sql params).run c).1
        ((x.query b.recorded sql params).run c).2 (by rw [Context.connectionOf?, hkept]; exact h)
      rw [hids] at hes
      refine ⟨_ :: es, .query _ hes, ?_, htransactions.trans hkept⟩
      rw [List.append_cons, ← hsent]
      exact htrace
    | execute sql params =>
      obtain ⟨hsent, hkept, hids⟩ := traced_execute b h sql params
      obtain ⟨es, hes, htrace, htransactions⟩ := ih ((x.execute b.recorded sql params).run c).1
        ((x.execute b.recorded sql params).run c).2 (by rw [Context.connectionOf?, hkept]; exact h)
      rw [hids] at hes
      refine ⟨_ :: es, .execute _ hes, ?_, htransactions.trans hkept⟩
      rw [List.append_cons, ← hsent]
      exact htrace
    | freshId =>
      obtain ⟨es, hes, htrace, htransactions⟩ := ih c.ids.next.1 { c with ids := c.ids.next.2 } h
      exact ⟨es, .freshId hes, htrace, htransactions⟩
    | note e =>
      obtain ⟨es, hes, htrace, htransactions⟩ := ih () (c.note e) h
      exact ⟨es, .note hes, htrace, htransactions⟩

/-- **A unit of work** sends its statements on the connection of its transaction, and touches no
transaction. -/
theorem dialogue_perform (b : Backend σ) (x : Executor) {connection : Nat} (work : Work α)
    (c : Context (σ × List Exchange)) (h : c.connectionOf? x.transaction = some connection) :
    let performed := (x.perform b.recorded work).run c
    ∃ es, Work.Dialogue x.dialect connection work.run c.ids es performed.1 performed.2.ids
      ∧ performed.2.backend.2 = c.backend.2 ++ es
      ∧ performed.2.transactions = c.transactions :=
  dialogue_run b x work.run c h

theorem advances_onConnection (x : Executor) {act : Nat → Action σ α}
    (h : ∀ connection, (act connection).Advances) : (x.onConnection act).Advances := by
  intro c
  unfold onConnection
  rw [ExceptT.run_mk]
  split
  · exact .refl
  · rename_i connection _
    exact h connection c

/-- What is asked of an executor leads to later contexts. -/
theorem later_answer (b : Backend σ) (x : Executor) (r : Work.Request) (c : Context σ) :
    c.Later (x.answer b r c).2 := by
  cases r with
  | query sql params =>
    exact advances_onConnection x (fun _ => Database.advances_send _ _ _ _) c
  | execute sql params =>
    exact advances_onConnection x (fun _ => Database.advances_send _ _ _ _) c
  | freshId => exact .of_transactions_eq rfl
  | note e => exact .of_transactions_eq rfl

theorem advances_perform (b : Backend σ) (x : Executor) (work : Work α) :
    (x.perform b work).Advances :=
  Action.advances_script (later_answer b x) work.run

end Executor

/-! ## §3. Transactions. -/

namespace Database

/-- What a backend sees of a transaction that was begun on a connection, and what comes of it. -/
inductive Concluded (d : Sql.Dialect) (connection : Nat) (work : Work α) :
    List Exchange → Except Error α → Prop where
  /-- Work that is done is committed, and counts if the commit succeeds. -/
  | committed {es : List Exchange} {a : α} (answer : Except Error Unit) :
    Work.Conversation d connection work.run es (.ok a) →
    Concluded d connection work
      (.begun connection (.ok ()) :: es ++ [.committed connection answer])
      (answer.map fun _ => a)
  /-- The error of a statement becomes the source of the transaction's error. -/
  | statementFailed {es : List Exchange} {message : String} {sql : Option String}
    {source : Option ErrorSource} (answer : Except Error Unit) :
    Work.Conversation d connection work.run es (.error (.statement message sql source)) →
    Concluded d connection work
      (.begun connection (.ok ()) :: es ++ [.rolledBack connection answer])
      (.error (.transaction "rolled back after statement failure"
        (some (.error (.statement message sql source)))))
  /-- Any other error is passed on. -/
  | failed {es : List Exchange} {e : Error} (answer : Except Error Unit) :
    Work.Conversation d connection work.run es (.error e) →
    (∀ message sql source, e ≠ .statement message sql source) →
    Concluded d connection work
      (.begun connection (.ok ()) :: es ++ [.rolledBack connection answer]) (.error e)

/-- The last exchange of a transaction, and what comes of it: a commit of work that was done, or a
rollback of work that failed. -/
inductive Finished (connection : Nat) : Except Error α → Exchange → Except Error α → Prop where
  | committed (a : α) (answer : Except Error Unit) :
    Finished connection (.ok a) (.committed connection answer) (answer.map fun _ => a)
  | rolledBack (e : Error) (answer : Except Error Unit) :
    Finished connection (.error e) (.rolledBack connection answer) (.error (workError e))

/-- **What a backend sees of a transaction** that was begun on a connection, and what comes of it:
the beginning, the dialogue of the work, and one last exchange. -/
inductive Transacted (d : Sql.Dialect) (connection : Nat) (work : Work α) (ids : IdGenerator) :
    List Exchange → Except Error α → Prop where
  | intro {es : List Exchange} {outcome answer : Except Error α} {ids' : IdGenerator}
    {last : Exchange} : Work.Dialogue d connection work.run ids es outcome ids' →
    Finished connection outcome last answer →
    Transacted d connection work ids (.begun connection (.ok ()) :: es ++ [last]) answer

theorem Transacted.concluded {d : Sql.Dialect} {connection : Nat} {work : Work α}
    {ids : IdGenerator} {es : List Exchange} {answer : Except Error α}
    (h : Transacted d connection work ids es answer) : Concluded d connection work es answer := by
  obtain ⟨hdialogue, hlast⟩ := h
  have hconversation := hdialogue.conversation
  cases hlast with
  | committed a answer => exact .committed answer hconversation
  | rolledBack e answer =>
    -- the rollback is sent either way; only what is answered depends on the error
    by_cases hstatement : e.isStatement = true
    · rw [workError, if_pos hstatement]
      cases e with
      | statement message sql source => exact .statementFailed answer hconversation
      | _ => cases hstatement
    · rw [workError, if_neg hstatement]
      refine .failed answer hconversation ?_
      intro message sql source heq
      rw [heq] at hstatement
      exact hstatement rfl

/-- The end of a transaction is one exchange: a commit of work that was done, whose failure is the
answer, or a rollback of work that failed, whose failure is but noted. -/
theorem finished_finish (b : Backend σ) (db : Database) (connection : Nat)
    (outcome : Except Error α) (c : Context (σ × List Exchange)) :
    let ended := (finish b.recorded db connection outcome).run c
    ∃ last, ended.2.backend.2 = c.backend.2 ++ [last]
      ∧ Finished connection outcome last ended.1
      ∧ ended.2.transactions = c.transactions := by
  intro ended
  cases outcome with
  | ok a =>
    have hrun : (Action.onBackend (b.recorded.commit connection)).run c
        = ((b.commit connection c.backend.1).1, { c with
            backend := (b.recorded.commit connection c.backend).2 }) := rfl
    have hsent : (b.recorded.commit connection c.backend).2.2
        = c.backend.2 ++ [.committed connection (b.commit connection c.backend.1).1] := rfl
    -- a failing commit is the outcome, and the work counts for nothing
    cases h : (b.commit connection c.backend.1).1 with
    | ok u =>
      rw [h] at hrun hsent
      have hended : ended = _ := Action.run_bind_ok hrun
      rw [hended]
      exact ⟨_, hsent, .committed a (.ok u), rfl⟩
    | error e =>
      rw [h] at hrun hsent
      have hended : ended = _ := Action.run_bind_error hrun
      rw [hended]
      exact ⟨_, hsent, .committed a (.error e), rfl⟩
  | error e =>
    have hrun : (Action.onBackend (b.recorded.rollback connection)).tried.run c
        = (.ok (b.rollback connection c.backend.1).1, { c with
            backend := (b.recorded.rollback connection c.backend).2 }) := rfl
    have hsent : (b.recorded.rollback connection c.backend).2.2
        = c.backend.2 ++ [.rolledBack connection (b.rollback connection c.backend.1).1] := rfl
    have hended : ended = _ := Action.run_bind_ok hrun
    rw [hended]
    cases h : (b.rollback connection c.backend.1).1 with
    | ok u =>
      rw [h] at hsent
      exact ⟨_, hsent, .rolledBack e (.ok u), rfl⟩
    | error failure =>
      rw [h] at hsent
      exact ⟨_, hsent, .rolledBack e (.error failure), rfl⟩

theorem run_transact_refused {b : Backend σ} (db : Database) (work : Executor → Work α)
    {connection : Nat} {c : Context σ} {e : Error}
    (h : (b.begin connection c.backend).1 = .error e) :
    (transact b db work connection).run c = (.error e,
      { c.note db.beginEvent with backend := (b.begin connection c.backend).2 }) := by
  have hbegin : (Action.onBackend (b.begin connection)).run (c.note db.beginEvent)
      = (.error e, { c.note db.beginEvent with backend := (b.begin connection c.backend).2 }) := by
    rw [Action.run_onBackend, ← h]
    rfl
  rw [transact, Action.run_bind_ok (Action.run_note db.beginEvent c), Action.run_bind_error hbegin]

/-- A transaction that was begun is entered, its work is done, it is left, and it is ended. -/
theorem run_transact_begun {b : Backend σ} (db : Database) (work : Executor → Work α)
    {connection : Nat} {c : Context σ} (h : (b.begin connection c.backend).1 = .ok ()) :
    let x : Executor := ⟨db.name, db.dialect, c.transactions.length⟩
    let entered := (Context.enterTransaction connection
      { c.note db.beginEvent with backend := (b.begin connection c.backend).2 }).2
    let performed := (x.perform b (work x)).run entered
    performed.2.connectionOf? x.transaction = some connection →
    (transact b db work connection).run c = (finish b db connection performed.1).run
      (performed.2.leaveTransaction x.transaction).2 := by
  intro x entered performed hlive
  have hbegin : (Action.onBackend (b.begin connection)).run (c.note db.beginEvent)
      = (.ok (), { c.note db.beginEvent with backend := (b.begin connection c.backend).2 }) := by
    rw [Action.run_onBackend, ← h]
    rfl
  -- the connection is there to be taken away, so that the transaction can be ended
  have hleave : (Action.change (Context.leaveTransaction x.transaction)).run performed.2
      = (.ok (some connection), (performed.2.leaveTransaction x.transaction).2) := by
    rw [← hlive]
    rfl
  rw [transact, Action.run_bind_ok (Action.run_note db.beginEvent c), Action.run_bind_ok hbegin,
    Action.run_bind_ok (Action.run_change _ _)]
  have hperform : (x.perform b (work x)).tried.run entered = (.ok performed.1, performed.2) := rfl
  exact (Action.run_bind_ok hperform).trans (Action.run_bind_ok hleave)

/-- A transaction on a connection that was borrowed for it. -/
theorem transacted_transact (b : Backend σ) (db : Database) (work : Executor → Work α)
    (connection : Nat) (c : Context (σ × List Exchange)) :
    let x : Executor := ⟨db.name, db.dialect, c.transactions.length⟩
    let ended := (transact b.recorded db work connection).run c
    ∃ es, ended.2.backend.2 = c.backend.2 ++ es
      ∧ ((∃ e, es = [.begun connection (.error e)] ∧ ended.1 = .error e)
        ∨ Transacted db.dialect connection (work x) c.ids es ended.1
          ∧ ended.2.Ended x.transaction) := by
  intro x ended
  have hsent : (b.recorded.begin connection c.backend).2.2
      = c.backend.2 ++ [.begun connection (b.recorded.begin connection c.backend).1] := rfl
  cases h : (b.recorded.begin connection c.backend).1 with
  | error e =>
    have hended : ended = _ := run_transact_refused db work h
    rw [h] at hsent
    rw [hended]
    exact ⟨_, hsent, .inl ⟨e, rfl, rfl⟩⟩
  | ok u =>
    rw [h] at hsent
    let entered := (Context.enterTransaction connection
      { c.note db.beginEvent with backend := (b.recorded.begin connection c.backend).2 }).2
    have hlive : entered.connectionOf? x.transaction = some connection :=
      Context.connectionOf?_enterTransaction _ connection
    let performed := (x.perform b.recorded (work x)).run entered
    obtain ⟨es, hes, htrace, htransactions⟩ : ∃ es,
        Work.Dialogue x.dialect connection (work x).run c.ids es performed.1 performed.2.ids
          ∧ performed.2.backend.2 = entered.backend.2 ++ es
          ∧ performed.2.transactions = entered.transactions :=
      x.dialogue_perform b (work x) entered hlive
    -- the work does not end the transaction, so its connection is there to be taken away
    have hstill : performed.2.connectionOf? x.transaction = some connection := by
      rw [Context.connectionOf?, htransactions]
      exact hlive
    have hended : ended = _ := run_transact_begun db work h hstill
    obtain ⟨last, hlast, hfinished, hkept⟩ := finished_finish b db connection performed.1
      (performed.2.leaveTransaction x.transaction).2
    rw [hended]
    refine ⟨.begun connection (.ok ()) :: es ++ [last], ?_, .inr ⟨.intro hes hfinished, ?_⟩⟩
    · rw [hlast]
      show performed.2.backend.2 ++ [last] = _
      have hentered : entered.backend.2 = c.backend.2 ++ [.begun connection (.ok ())] := hsent
      rw [htrace, hentered]
      simp only [List.append_assoc, List.cons_append, List.nil_append]
    · show _ = some none
      rw [hkept]
      exact Context.ended_leaveTransaction hstill

theorem concluded_transact (b : Backend σ) (db : Database) (work : Executor → Work α)
    (connection : Nat) (c : Context (σ × List Exchange)) :
    let x : Executor := ⟨db.name, db.dialect, c.transactions.length⟩
    let ended := (transact b.recorded db work connection).run c
    ∃ es, ended.2.backend.2 = c.backend.2 ++ es
      ∧ ((∃ e, es = [.begun connection (.error e)] ∧ ended.1 = .error e)
        ∨ Concluded db.dialect connection (work x) es ended.1 ∧ ended.2.Ended x.transaction) := by
  intro x ended
  obtain ⟨es, htrace, hcases⟩ := transacted_transact b db work connection c
  refine ⟨es, htrace, ?_⟩
  rcases hcases with hrefused | ⟨htransacted, hended⟩
  · exact .inl hrefused
  · exact .inr ⟨htransacted.concluded, hended⟩

/-- **What a backend sees of a transaction**: what pools ask for, and then nothing if there is no
connection, a beginning that fails, or a whole transaction. -/
theorem transacted_trans (b : Backend σ) (db : Database) (work : Executor → Work α)
    (c : Context (σ × List Exchange)) :
    let x : Executor := ⟨db.name, db.dialect, c.transactions.length⟩
    let ended := (trans b.recorded db work).run c
    ∃ pooling es, ended.2.backend.2 = c.backend.2 ++ pooling ++ es
      ∧ (∀ e ∈ pooling, e.IsPooling)
      ∧ match ((borrow b.recorded db.name).run c).1 with
        | .error e => es = [] ∧ ended.1 = .error e
        | .ok lent => (∃ e, es = [.begun lent.connection (.error e)] ∧ ended.1 = .error e)
          ∨ Transacted db.dialect lent.connection (work x) c.ids es ended.1 := by
  intro x ended
  obtain ⟨pooling, hpooling, hall⟩ := (tended_borrow b.recorded db.name c).asked
  have htransactions := transactions_borrow b.recorded db.name c
  have hids := (tended_borrow b.recorded db.name c).ids_eq
  refine ⟨pooling, ?_⟩
  cases hborrow : (borrow b.recorded db.name).run c with
  | mk answer c' =>
    rw [hborrow] at hpooling htransactions hids
    cases answer with
    | error e =>
      have hended : ended = (.error e, c') := run_withConnection_refused _ hborrow
      rw [hended]
      exact ⟨[], by rw [List.append_nil]; exact hpooling, hall, rfl, rfl⟩
    | ok lent =>
      have hended : ended = _ := run_withConnection_served _ hborrow
      obtain ⟨es, htrace, hcases⟩ := transacted_transact b db work lent.connection c'
      have hx : (⟨db.name, db.dialect, c'.transactions.length⟩ : Executor) = x := by
        rw [show c'.transactions = c.transactions from htransactions]
      rw [hx, show c'.ids = c.ids from hids] at hcases
      rw [hended]
      refine ⟨es, ?_, hall, ?_⟩
      · show _ = c.backend.2 ++ pooling ++ es
        rw [← hpooling]
        exact htrace
      · rcases hcases with hrefused | ⟨htransacted, _⟩
        · exact .inl hrefused
        · exact .inr htransacted

/-- **What a transaction comes to**, if what comes of one that cannot be begun and of one that was
begun is known. -/
theorem seen_trans (b : Backend σ) (db : Database) (work : Executor → Work α)
    (c : Context (σ × List Exchange)) {P : Nat → List Exchange → Except Error α → Prop}
    (hrefused : ∀ connection e, P connection [.begun connection (.error e)] (.error e))
    (hbegun : ∀ connection es answer, Transacted db.dialect connection
      (work ⟨db.name, db.dialect, c.transactions.length⟩) c.ids es answer → P connection es answer) :
    let ended := (trans b.recorded db work).run c
    ∃ pooling es, ended.2.backend.2 = c.backend.2 ++ pooling ++ es
      ∧ (∀ e ∈ pooling, e.IsPooling)
      ∧ match ((borrow b.recorded db.name).run c).1 with
        | .error e => es = [] ∧ ended.1 = .error e
        | .ok lent => P lent.connection es ended.1 := by
  intro ended
  obtain ⟨pooling, es, htrace, hpooling, hcases⟩ := transacted_trans b db work c
  refine ⟨pooling, es, htrace, hpooling, ?_⟩
  cases hborrow : ((borrow b.recorded db.name).run c).1 with
  | error e =>
    rw [hborrow] at hcases
    exact hcases
  | ok lent =>
    rw [hborrow] at hcases
    rcases hcases with ⟨e, hes, herror⟩ | htransacted
    · have hrefusal : ended.1 = .error e := herror
      show P lent.connection es ended.1
      rw [hes, hrefusal]
      exact hrefused lent.connection e
    · exact hbegun lent.connection es ended.1 htransacted

theorem advances_finish (b : Backend σ) (db : Database) (connection : Nat)
    (outcome : Except Error α) : (finish b db connection outcome).Advances := by
  cases outcome with
  | ok a =>
    apply Action.Advances.bind (Action.advances_onBackend _)
    intro u
    exact Action.Advances.bind (Action.advances_note _) fun _ => Action.advances_pure a
  | error e =>
    apply Action.Advances.bind (Action.advances_onBackend _).tried
    intro answer
    cases answer with
    | ok u =>
      exact Action.Advances.bind (Action.advances_note _) fun _ => Action.advances_throw _
    | error failure =>
      apply Action.Advances.bind (Action.advances_note _)
      intro u
      exact Action.Advances.bind (Action.advances_note _) fun _ => Action.advances_throw _

/-- **Transactions** lead to later contexts. -/
theorem advances_trans (b : Backend σ) (db : Database) (work : Executor → Work α) :
    (trans b db work).Advances := by
  apply advances_withConnection
  intro lent
  apply Action.Advances.bind (Action.advances_note _)
  intro noted
  apply Action.Advances.bind (Action.advances_onBackend _)
  intro begun
  have henter : (Action.change (Context.enterTransaction lent.connection) :
      Action σ Nat).Advances :=
    fun _ => .enter _ .refl
  apply henter.bind
  intro transaction
  apply Action.Advances.bind (Executor.advances_perform b _ _).tried
  intro outcome
  have hleave : (Action.change (Context.leaveTransaction transaction) :
      Action σ (Option Nat)).Advances :=
    fun _ => .leave _ .refl
  apply hleave.bind
  intro connection
  cases connection with
  | some connection => exact advances_finish b db connection outcome
  | none => exact Action.advances_throw _

/-- **All or nothing.**  Whatever the backend answers, it sees no more of a transaction than what
pools ask for if there is no connection; no more than that and a beginning if the beginning
fails; and otherwise the beginning, the statements of the work, and a commit or a rollback.
The executor that the work was done with is of no use in any later context. -/
theorem concluded_trans (b : Backend σ) (db : Database) (work : Executor → Work α)
    (c : Context (σ × List Exchange)) :
    let x : Executor := ⟨db.name, db.dialect, c.transactions.length⟩
    let ended := (trans b.recorded db work).run c
    ∃ pooling es, ended.2.backend.2 = c.backend.2 ++ pooling ++ es
      ∧ (∀ e ∈ pooling, e.IsPooling)
      ∧ match ((borrow b.recorded db.name).run c).1 with
        | .error e => es = [] ∧ ended.1 = .error e
        | .ok lent => (∃ e, es = [.begun lent.connection (.error e)] ∧ ended.1 = .error e)
          ∨ Concluded db.dialect lent.connection (work x) es ended.1
            ∧ ∀ c', ended.2.Later c' → x.Detached b.recorded c' := by
  intro x ended
  obtain ⟨pooling, hpooling, hall⟩ := (tended_borrow b.recorded db.name c).asked
  have htransactions := transactions_borrow b.recorded db.name c
  refine ⟨pooling, ?_⟩
  cases hborrow : (borrow b.recorded db.name).run c with
  | mk answer c' =>
    rw [hborrow] at hpooling htransactions
    cases answer with
    | error e =>
      have hended : ended = (.error e, c') := run_withConnection_refused _ hborrow
      rw [hended]
      exact ⟨[], by rw [List.append_nil]; exact hpooling, hall, rfl, rfl⟩
    | ok lent =>
      have hended : ended = _ := run_withConnection_served _ hborrow
      obtain ⟨es, htrace, hcases⟩ := concluded_transact b db work lent.connection c'
      have hx : (⟨db.name, db.dialect, c'.transactions.length⟩ : Executor) = x := by
        rw [show c'.transactions = c.transactions from htransactions]
      rw [hx] at hcases
      rw [hended]
      refine ⟨es, ?_, hall, ?_⟩
      · show _ = c.backend.2 ++ pooling ++ es
        rw [← hpooling]
        exact htrace
      · rcases hcases with hrefused | ⟨hconcluded, hleft⟩
        · exact .inl hrefused
        · refine .inr ⟨hconcluded, fun c'' hlater => Executor.detached_of_ended _ ?_⟩
          -- letting the connection go leaves the transactions as they are
          refine Context.Ended.later ?_ hlater
          exact hleft

end Database

/-- A backend that opens transactions and fails at everything in them. -/
def Backend.failing : Backend Unit where
  connect _ s := (.ok 7, s)
  query _ _ _ _ s := (.error (.statement "gone away" none none), s)
  execute _ _ _ _ s := (.error (.statement "gone away" none none), s)
  begin _ s := (.ok (), s)
  commit _ s := (.error (.connection "gone away" none), s)
  rollback _ s := (.error (.connection "gone away" none), s)
  isValid _ s := (true, s)
  close _ s := (.ok (), s)

/-- A context with one database, which nothing has been asked of. -/
def Context.ofDatabase (db : Database) : Context (Unit × List Exchange) :=
  { Context.ofBackend ((), []) default with databases := OrderedMap.empty.set db.name db }

/-- A failing statement, and a rollback that fails too. -/
theorem concluded_trans_failing :
    let db : Database := ⟨"main", .mysql, .ofConfig .standard⟩
    let work : Executor → Work Outcome := fun _ => Work.execute "DELETE FROM T" []
    let ended := (Database.trans Backend.failing.recorded db work).run (.ofDatabase db)
    ended.2.backend.2 = [.connected "main" (.ok 7), .begun 7 (.ok ()),
        .executed 7 .transaction "DELETE FROM T" [] (.error (.statement "gone away" none none)),
        .rolledBack 7 (.error (.connection "gone away" none))]
      ∧ (Executor.mk "main" .mysql 0).Detached Backend.failing.recorded ended.2 := by
  intro db work ended
  have htrace : ended.2.backend.2 = [.connected "main" (.ok 7), .begun 7 (.ok ()),
      .executed 7 .transaction "DELETE FROM T" [] (.error (.statement "gone away" none none)),
      .rolledBack 7 (.error (.connection "gone away" none))] := rfl
  have hborrow : ((Database.borrow Backend.failing.recorded db.name).run (.ofDatabase db)).1
      = .ok ⟨7, 5⟩ := rfl
  obtain ⟨pooling, es, heq, _, h⟩ :=
    Database.concluded_trans Backend.failing db work (.ofDatabase db)
  rw [hborrow] at h
  refine ⟨htrace, ?_⟩
  rcases h with ⟨e, hes, _⟩ | ⟨_, hdetached⟩
  · -- what was seen last is a rollback
    have hlast := congrArg List.getLast? (htrace.symm.trans heq)
    rw [hes, List.getLast?_concat] at hlast
    cases hlast
  · exact hdetached ended.2 .refl

end CardStore
