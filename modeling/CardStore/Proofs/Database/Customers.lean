/-
  CardStore.Proofs.Database.Customers
  ───────────────────────────────────
  **ALL WHO USE A DATABASE AT ONCE.**

  Any number of customers are at a database at once.  Each borrows a
  connection from the pool for an errand: a query, a change, or a unit of work
  in a transaction.  Once it is served it runs its errand on the connection,
  one call of the backend after another, and then lets the connection go.
  Others close the pool.  All of them take their steps in any order.

  Main statements:
    * `deal_of_play` — what a turn can do.
    * `acts_drive`, `acts_driveBack` — borrowers and connections on their way back that nobody comes
      between.
    * `errand_query`, `errand_execute`, `errand_trans` — operations that nobody comes between.
-/
import CardStore.Proofs.Database.Transaction
import CardStore.Proofs.Pool.Traffic

namespace CardStore.Database

open Pool (Borrowing Returning Closing)

/-! ## §1. Customers. -/

/-- What a connection is borrowed for. -/
inductive Errand : Type 1 where
  | query (native : String) (params : List Value)
  | execute (native : String) (params : List Value)
  | transact {α : Type} (d : Sql.Dialect)
    (work : Script Work.Request Work.Answer (Except Error α))

/-- Somebody who uses a database. -/
inductive Customer : Type 1 where
  /-- Somebody who borrows a connection; once it is served, it has not begun its errand yet. -/
  | borrower (w : Borrowing) (errand : Errand)
  /-- Somebody who has begun a transaction; the rest of its work. -/
  | working {α : Type} (c : Lent) (d : Sql.Dialect)
    (rest : Script Work.Request Work.Answer (Except Error α))
  /-- Somebody whose errand is over. -/
  | done (c : Lent)
  | returner (w : Returning)
  | closer (w : Closing)

variable {σ α : Type}

/-- What a backend answers to a request of the work; new identifiers come from elsewhere. -/
def answerInside (b : Backend σ) (connection : Nat) (d : Sql.Dialect) (id : String) :
    (r : Work.Request) → σ → Work.Answer r × σ
  | .query sql params, s => b.query connection .transaction (d.render sql) params s
  | .execute sql params, s => b.execute connection .transaction (d.render sql) params s
  | .freshId, s => (id, s)
  | .note _, s => ((), s)

/-- What the closing of a pool asks of the backend. -/
def closeDrained (b : Backend σ) (s : σ) : Closing → σ
  | .closing e => (b.close e.connection s).2
  | _ => s

namespace Customer

/-- One step of work in a transaction: one request, or the end that the work demands. -/
def work (b : Backend σ) (id : String) (c : Lent) (d : Sql.Dialect) (s : σ) :
    Script Work.Request Work.Answer (Except Error α) → Customer × σ
  | .done (.ok _) => (.done c, (b.commit c.connection s).2)
  | .done (.error _) => (.done c, (b.rollback c.connection s).2)
  | .ask r k =>
    let (a, s) := answerInside b c.connection d id r s
    (.working c d (k a), s)

/-- One step of an errand on a connection; none for somebody who has no connection or whose errand
is over. -/
def serve (b : Backend σ) (id : String) (s : σ) : Customer → Option (Customer × σ)
  | .borrower (.served c) (.query native params) =>
    some (.done c, (b.query c.connection .alone native params s).2)
  | .borrower (.served c) (.execute native params) =>
    some (.done c, (b.execute c.connection .alone native params s).2)
  | .borrower (.served c) (.transact d work) => match b.begin c.connection s with
    | (.ok (), s) => some (.working c d work, s)
    | (.error _, s) => some (.done c, s)
  | .working c d rest => some (Customer.work b id c d s rest)
  | _ => none

/-- One step at the pool, with what the backend answers. -/
def act (b : Backend σ) (database : String) (p : Pool) (s : σ) (now : Nat) :
    Customer → Option (Customer × Pool × σ)
  | .borrower w errand =>
    let (answer, run) := Pool.Run.reply b database ⟨p, s, now⟩ w
    (w.step p now answer).map fun (w, p) => (.borrower w errand, p, run.backend)
  | .returner w =>
    (w.step p now).map fun (w', p') =>
      (.returner w', p', (Pool.Run.closeReturned b ⟨p, s, now⟩ w).backend)
  | .closer w => (w.step p).map fun (w', p') => (.closer w', p', closeDrained b s w)
  | _ => none

end Customer

/-- A pool, its backend, and all who use the database, in the order in which they came. -/
structure Desk (σ : Type) where
  pool : Pool
  backend : σ
  customers : List Customer

/-- Who is next, and at what time of the clock. -/
inductive Turn : Type 1 where
  /-- Somebody comes with an errand. -/
  | come (errand : Errand)
  /-- Somebody comes to close the pool. -/
  | close
  /-- The customer at a position does a step at the pool. -/
  | act (i now : Nat)
  /-- The customer at a position has waited long enough for a permit. -/
  | giveUp (i now : Nat)
  /-- The customer at a position does a step of its errand; the identifier it gets if it asks for
  one. -/
  | serve (i : Nat) (id : String)
  /-- The customer at a position lets its connection go. -/
  | letGo (i : Nat)

/-- Who is there after a turn; none if the turn cannot be taken. -/
def Turn.play (b : Backend σ) (database : String) (s : Desk σ) : Turn → Option (Desk σ)
  | .come errand => some ⟨s.pool, s.backend, s.customers ++ [.borrower .arriving errand]⟩
  | .close => some ⟨s.pool, s.backend, s.customers ++ [.closer .starting]⟩
  | .act i now => match s.customers[i]? with
    | some x => (x.act b database s.pool s.backend now).map fun (x, p, backend) =>
      ⟨p, backend, s.customers.set i x⟩
    | none => none
  | .giveUp i now => match s.customers[i]? with
    | some (.borrower .queued errand) =>
      (Borrowing.queued.step s.pool now .timedOut).map fun (w, p) =>
        ⟨p, s.backend, s.customers.set i (.borrower w errand)⟩
    | _ => none
  | .serve i id => match s.customers[i]? with
    | some x => (x.serve b id s.backend).map fun (x, backend) =>
      ⟨s.pool, backend, s.customers.set i x⟩
    | none => none
  | .letGo i => match s.customers[i]? with
    | some (.done c) => some ⟨s.pool, s.backend, s.customers.set i (.returner (.arriving c))⟩
    | _ => none

/-- Who is there after some turns. -/
def playAll (b : Backend σ) (database : String) (turns : List Turn) (s : Desk σ) :
    Option (Desk σ) :=
  turns.foldlM (fun s turn => turn.play b database s) s

/-! ## §2. Who has which connection. -/

/-- How often a connection is idle. -/
def idleTimes (n : Nat) (p : Pool) : Nat := (p.idle.map (·.connection)).count n

namespace Customer

/-- The connection that a customer has in hand. -/
def hand : Customer → Option Nat
  | .borrower (.retiring e) _ | .borrower (.probing e) _ => some e.connection
  | .borrower (.served c) _ | .working c _ _ | .done c => some c.connection
  | .returner (.arriving c) | .returner (.checking c) | .returner (.closing c)
  | .returner (.storing c) => some c.connection
  | .closer (.closing e) => some e.connection
  | _ => none

/-- The connection on which a customer has begun a transaction. -/
def inside : Customer → Option Nat
  | .working c _ _ => some c.connection
  | _ => none

end Customer

/-- Whether a connection is the one at hand. -/
def times (n : Nat) (hand : Option Nat) : Nat := if hand = some n then 1 else 0

/-- A customer goes on, and no connection gets into more hands than before. -/
def Passes (p : Pool) (x x' : Customer) (p' : Pool) : Prop :=
  ∀ n, idleTimes n p' + times n x'.hand ≤ idleTimes n p + times n x.hand

/-- **What a step of one customer can do**: pass a connection on without the backend, have one
tested or closed or opened, or run one call of its errand. -/
inductive Deal (b : Backend σ) (database : String) (p : Pool) (s : σ) :
    Customer → Customer → Pool → σ → Prop where
  | pass {x x' : Customer} {p' : Pool} : Passes p x x' p' → x.inside = none → x'.inside = none →
      Deal b database p s x x' p' s
  | test {x x' : Customer} {p' : Pool} {n : Nat} : x.hand = some n → Passes p x x' p' →
      x.inside = none → x'.inside = none → Deal b database p s x x' p' (b.isValid n s).2
  | close {x x' : Customer} {p' : Pool} {n : Nat} : x.hand = some n → x'.hand = none →
      p'.idle = p.idle → x.inside = none → x'.inside = none →
      Deal b database p s x x' p' (b.close n s).2
  | connect {n now : Nat} {errand : Errand} : (b.connect database s).1 = .ok n →
      Deal b database p s (.borrower .connecting errand) (.borrower (.served ⟨n, now⟩) errand)
        p.noteOpened.noteAcquired (b.connect database s).2
  | failToConnect {e : Error} {errand : Errand} : (b.connect database s).1 = .error e →
      Deal b database p s (.borrower .connecting errand) (.borrower (.refused e) errand)
        p.releasePermit (b.connect database s).2
  | query {c : Lent} {native : String} {params : List Value} :
      Deal b database p s (.borrower (.served c) (.query native params)) (.done c) p
        (b.query c.connection .alone native params s).2
  | execute {c : Lent} {native : String} {params : List Value} :
      Deal b database p s (.borrower (.served c) (.execute native params)) (.done c) p
        (b.execute c.connection .alone native params s).2
  | begin {α : Type} {c : Lent} {d : Sql.Dialect}
      {work : Script Work.Request Work.Answer (Except Error α)} :
      (b.begin c.connection s).1 = .ok () →
      Deal b database p s (.borrower (.served c) (.transact d work)) (.working c d work) p
        (b.begin c.connection s).2
  | failToBegin {α : Type} {c : Lent} {d : Sql.Dialect} {e : Error}
      {work : Script Work.Request Work.Answer (Except Error α)} :
      (b.begin c.connection s).1 = .error e →
      Deal b database p s (.borrower (.served c) (.transact d work)) (.done c) p
        (b.begin c.connection s).2
  | ask {α : Type} {c : Lent} {d : Sql.Dialect} (id : String) (r : Work.Request)
      (k : Work.Answer r → Script Work.Request Work.Answer (Except Error α)) :
      Deal b database p s (.working c d (.ask r k))
        (.working c d (k (answerInside b c.connection d id r s).1)) p
        (answerInside b c.connection d id r s).2
  | commit {α : Type} {c : Lent} {d : Sql.Dialect} {a : α} :
      Deal b database p s (.working c d (.done (.ok a))) (.done c) p (b.commit c.connection s).2
  | rollback {α : Type} {c : Lent} {d : Sql.Dialect} {e : Error} :
      Deal b database p s (Customer.working (α := α) c d (.done (.error e))) (.done c) p
        (b.rollback c.connection s).2

/-! ## §3. What a turn can do. -/

variable {b : Backend σ} {database : String} {p p' : Pool} {s s' : σ} {now : Nat}
  {x x' : Customer} {errand : Errand}

theorem times_none (n : Nat) : times n none = 0 := rfl

theorem times_some (n m : Nat) : times n (some m) = if m = n then 1 else 0 := by
  rw [times]
  simp

/-- One more connection is idle. -/
theorem idleTimes_cons (n : Nat) {e : Idle} (h : p'.idle = e :: p.idle) :
    idleTimes n p' = idleTimes n p + times n (some e.connection) := by
  rw [idleTimes, idleTimes, h, List.map_cons, List.count_cons, times_some]
  simp

/-- What a customer has in hand stays there. -/
theorem passes_of_eq (hidle : p'.idle = p.idle) (hhand : x'.hand = x.hand) : Passes p x x' p' := by
  intro n
  rw [idleTimes, idleTimes, hidle, hhand]

/-- Who has nothing in hand picks up an idle connection. -/
theorem passes_of_take {e : Idle} (hidle : p.idle = e :: p'.idle) (hhand : x.hand = none)
    (hhand' : x'.hand = some e.connection) : Passes p x x' p' := by
  intro n
  rw [idleTimes_cons n hidle, hhand, hhand', times_none]
  exact Nat.le_refl _

/-- Who has a connection in hand makes it idle. -/
theorem passes_of_put {e : Idle} (hidle : p'.idle = e :: p.idle) (hhand' : x'.hand = none)
    (hhand : x.hand = some e.connection) : Passes p x x' p' := by
  intro n
  rw [idleTimes_cons n hidle, hhand, hhand', times_none]
  exact Nat.le_refl _

/-- Who has a connection in hand drops it. -/
theorem passes_of_drop (hidle : p'.idle = p.idle) (hhand' : x'.hand = none) :
    Passes p x x' p' := by
  intro n
  rw [idleTimes, idleTimes, hidle, hhand', times_none]
  omega

theorem deal_of_borrowing {w w' : Borrowing} {answer : Pool.Reply} {run : Pool.Run σ}
    (hreply : Pool.Run.reply b database ⟨p, s, now⟩ w = (answer, run))
    (h : w.step p now answer = some (w', p')) :
    Deal b database p s (.borrower w errand) (.borrower w' errand) p' run.backend := by
  have hmove := Pool.Party.move_of_borrowing h
  cases w with
  | arriving | queued | admitted =>
    cases hreply
    cases hmove <;> exact .pass (passes_of_eq rfl rfl) rfl rfl
  | scanning =>
    cases hreply
    cases hmove with
    | findNone hidle => exact .pass (passes_of_eq rfl rfl) rfl rfl
    | findStale hidle | findUntested hidle | take hidle =>
      exact .pass (passes_of_take hidle rfl rfl) rfl rfl
  | retiring e =>
    cases hreply
    cases hmove with
    | retire => exact .close rfl rfl rfl rfl rfl
  | probing e =>
    cases hreply
    cases hmove with
    | findHealthy => exact .test rfl (passes_of_eq rfl rfl) rfl rfl
    | findUnhealthy => exact .test rfl (passes_of_drop rfl rfl) rfl rfl
  | connecting =>
    cases hreply
    cases hanswer : (b.connect database s).1 with
    | ok n =>
      rw [hanswer] at h
      cases h
      exact .connect hanswer
    | error e =>
      rw [hanswer] at h
      cases h
      exact .failToConnect hanswer
  | served c | refused e => cases hmove

theorem deal_of_returning {w w' : Returning} (h : w.step p now = some (w', p')) :
    Deal b database p s (.returner w) (.returner w') p'
      (Pool.Run.closeReturned b ⟨p, s, now⟩ w).backend := by
  have hmove := Pool.Party.move_of_returning h
  cases hmove with
  | release | findShut | findOpen => exact .pass (passes_of_eq rfl rfl) rfl rfl
  | dispose => exact .close rfl rfl rfl rfl rfl
  | store => exact .pass (passes_of_put rfl rfl rfl) rfl rfl

theorem deal_of_closing {w w' : Closing} (h : w.step p = some (w', p')) :
    Deal b database p s (.closer w) (.closer w') p' (closeDrained b s w) := by
  have hmove : Pool.Party.Move p 0 (.closer w) (.closer w') p' := Pool.Party.move_of_closing h
  cases hmove with
  | shut | enter | finish => exact .pass (passes_of_eq rfl rfl) rfl rfl
  | drain hidle => exact .pass (passes_of_take hidle rfl rfl) rfl rfl
  | disposeIdle => exact .close rfl rfl rfl rfl rfl

theorem deal_of_act (h : x.act b database p s now = some (x', p', s')) :
    Deal b database p s x x' p' s' := by
  cases x with
  | borrower w errand =>
    obtain ⟨⟨w', p''⟩, hstep, hpair⟩ := Option.map_eq_some_iff.1 h
    cases hpair
    exact deal_of_borrowing rfl hstep
  | returner w =>
    obtain ⟨⟨w', p''⟩, hstep, hpair⟩ := Option.map_eq_some_iff.1 h
    cases hpair
    exact deal_of_returning hstep
  | closer w =>
    obtain ⟨⟨w', p''⟩, hstep, hpair⟩ := Option.map_eq_some_iff.1 h
    cases hpair
    exact deal_of_closing hstep
  | working c d rest => cases h
  | done c => cases h

theorem deal_of_work {id : String} {c : Lent} {d : Sql.Dialect}
    (rest : Script Work.Request Work.Answer (Except Error α)) :
    Deal b database p s (.working c d rest) (Customer.work b id c d s rest).1 p
      (Customer.work b id c d s rest).2 := by
  cases rest with
  | done outcome =>
    cases outcome with
    | ok a => exact .commit
    | error e => exact .rollback
  | ask r k => exact .ask id r k

theorem deal_of_serve {id : String} (h : x.serve b id s = some (x', s')) :
    Deal b database p s x x' p s' := by
  cases x with
  | borrower w errand =>
    cases w with
    | served c =>
      cases errand with
      | query native params =>
        cases h
        exact .query
      | execute native params =>
        cases h
        exact .execute
      | transact d work =>
        cases hbegin : b.begin c.connection s with
        | mk answer s₁ =>
          rw [Customer.serve, hbegin] at h
          cases answer with
          | ok u =>
            cases h
            have hdeal : Deal b database p s (.borrower (.served c) (.transact d work))
                (.working c d work) p (b.begin c.connection s).2 :=
              .begin (congrArg Prod.fst hbegin)
            rw [hbegin] at hdeal
            exact hdeal
          | error e =>
            cases h
            have hdeal : Deal b database p s (.borrower (.served c) (.transact d work))
                (.done c) p (b.begin c.connection s).2 :=
              .failToBegin (congrArg Prod.fst hbegin)
            rw [hbegin] at hdeal
            exact hdeal
    | _ => cases errand <;> cases h
  | working c d rest =>
    have hwork : Customer.work b id c d s rest = (x', s') := Option.some.inj h
    have hdeal : Deal b database p s (.working c d rest) (Customer.work b id c d s rest).1 p
        (Customer.work b id c d s rest).2 := deal_of_work rest
    rw [hwork] at hdeal
    exact hdeal
  | done c | returner w | closer w => cases h

/-- **What a turn can do**: somebody comes, or one customer does a step. -/
theorem deal_of_play {turn : Turn} {s s' : Desk σ} (h : turn.play b database s = some s') :
    (∃ x, x.hand = none ∧ x.inside = none
        ∧ s' = ⟨s.pool, s.backend, s.customers ++ [x]⟩)
      ∨ ∃ i x x', s.customers[i]? = some x ∧ s'.customers = s.customers.set i x'
        ∧ Deal b database s.pool s.backend x x' s'.pool s'.backend := by
  cases turn with
  | come errand =>
    cases h
    exact .inl ⟨_, rfl, rfl, rfl⟩
  | close =>
    cases h
    exact .inl ⟨_, rfl, rfl, rfl⟩
  | act i now =>
    rw [Turn.play] at h
    split at h
    · rename_i x hx
      obtain ⟨⟨x', p', s₁⟩, hact, hs'⟩ := Option.map_eq_some_iff.1 h
      cases hs'
      exact .inr ⟨i, x, x', hx, rfl, deal_of_act hact⟩
    · cases h
  | giveUp i now =>
    rw [Turn.play] at h
    split at h
    · rename_i errand hx
      cases h
      exact .inr ⟨i, _, _, hx, rfl, .pass (passes_of_eq rfl rfl) rfl rfl⟩
    · cases h
  | serve i id =>
    rw [Turn.play] at h
    split at h
    · rename_i x hx
      obtain ⟨⟨x', s₁⟩, hserve, hs'⟩ := Option.map_eq_some_iff.1 h
      cases hs'
      exact .inr ⟨i, x, x', hx, rfl, deal_of_serve hserve⟩
    · cases h
  | letGo i =>
    rw [Turn.play] at h
    split at h
    · rename_i c hx
      cases h
      exact .inr ⟨i, _, _, hx, rfl, .pass (passes_of_eq rfl rfl) rfl rfl⟩
    · cases h

/-! ## §4. An errand that nobody comes between. -/

/-- Steps of an errand, with the identifiers they get. -/
def serveAll (b : Backend σ) : List String → Customer → σ → Option (Customer × σ)
  | [], x, s => some (x, s)
  | id :: ids, x, s => (x.serve b id s).bind fun r => serveAll b ids r.1 r.2

theorem serveAll_append (front back : List String) (x : Customer) (s : σ) :
    serveAll b (front ++ back) x s
      = (serveAll b front x s).bind fun r => serveAll b back r.1 r.2 := by
  induction front generalizing x s with
  | nil => rfl
  | cons id front ih =>
    rw [List.cons_append, serveAll, serveAll, Option.bind_assoc]
    exact congrArg _ (funext fun r => ih r.1 r.2)

/-- Requests of an executor whose transaction lasts are answered on its connection. -/
theorem answerInside_of_live {x : Executor} {connection : Nat} {c : Context σ}
    (h : c.connectionOf? x.transaction = some connection) (r : Work.Request) :
    ∃ id, answerInside b connection x.dialect id r c.backend
        = ((x.answer b r c).1, (x.answer b r c).2.backend)
      ∧ (x.answer b r c).2.transactions = c.transactions := by
  cases r with
  | query sql params =>
    refine ⟨"", ?_⟩
    rw [Executor.answer, Executor.query, Executor.run_onConnection_of_live h, run_send]
    exact ⟨rfl, rfl⟩
  | execute sql params =>
    refine ⟨"", ?_⟩
    rw [Executor.answer, Executor.execute, Executor.run_onConnection_of_live h, run_send]
    exact ⟨rfl, rfl⟩
  | freshId => exact ⟨c.ids.next.1, rfl, rfl⟩
  | note e => exact ⟨"", rfl, rfl⟩

theorem serve_ask (id : String) (c : Lent) (d : Sql.Dialect) (r : Work.Request)
    (k : Work.Answer r → Script Work.Request Work.Answer (Except Error α)) (s : σ) :
    (Customer.working c d (.ask r k)).serve b id s
      = some (.working c d (k (answerInside b c.connection d id r s).1),
        (answerInside b c.connection d id r s).2) := rfl

/-- The work of a transaction that lasts, up to its end. -/
theorem serveAll_work {x : Executor} {lent : Lent} :
    ∀ (rest : Script Work.Request Work.Answer (Except Error α)) (c : Context σ),
      c.connectionOf? x.transaction = some lent.connection →
      ∃ ids, serveAll b ids (.working lent x.dialect rest) c.backend
          = some (.working lent x.dialect (.done (rest.run (x.answer b) c).1),
            (rest.run (x.answer b) c).2.backend)
        ∧ (rest.run (x.answer b) c).2.transactions = c.transactions := by
  intro rest
  induction rest with
  | done outcome =>
    intro c _
    exact ⟨[], rfl, rfl⟩
  | ask r k ih =>
    intro c h
    obtain ⟨id, hanswer, hkept⟩ := answerInside_of_live (b := b) h r
    obtain ⟨ids, hids, htransactions⟩ := ih (x.answer b r c).1 (x.answer b r c).2
      (by rw [Context.connectionOf?, hkept]; exact h)
    refine ⟨id :: ids, ?_, htransactions.trans hkept⟩
    have hstep : (Customer.working lent x.dialect (.ask r k)).serve b id c.backend
        = some (.working lent x.dialect (k (x.answer b r c).1), (x.answer b r c).2.backend) := by
      rw [serve_ask, hanswer]
    rw [serveAll, hstep]
    exact hids

/-- The end of a transaction is one call of the backend, whatever is answered. -/
theorem serve_done (id : String) (db : Database) (lent : Lent) (outcome : Except Error α)
    (c : Context σ) :
    (Customer.working lent db.dialect (.done outcome)).serve b id c.backend
      = some (.done lent, ((finish b db lent.connection outcome).run c).2.backend) := by
  cases outcome with
  | ok a =>
    show some (Customer.done lent, (b.commit lent.connection c.backend).2) = _
    rw [finish, Action.run_bind, Action.run_onBackend]
    cases (b.commit lent.connection c.backend).1 <;> rfl
  | error e =>
    show some (Customer.done lent, (b.rollback lent.connection c.backend).2) = _
    have hrun : (Action.onBackend (b.rollback lent.connection)).tried.run c
        = (.ok (b.rollback lent.connection c.backend).1,
          { c with backend := (b.rollback lent.connection c.backend).2 }) := rfl
    rw [finish, Action.run_bind_ok hrun]
    cases (b.rollback lent.connection c.backend).1 <;> rfl

/-- **A transaction that nobody comes between** is a run of its errand. -/
theorem errand_transact (b : Backend σ) (db : Database) (work : Executor → Work α) (lent : Lent)
    (c : Context σ) :
    ∃ ids, serveAll b ids (.borrower (.served lent)
        (.transact db.dialect (work ⟨db.name, db.dialect, c.transactions.length⟩).run)) c.backend
      = some (.done lent, ((transact b db work lent.connection).run c).2.backend) := by
  let x : Executor := ⟨db.name, db.dialect, c.transactions.length⟩
  have hserve : (Customer.borrower (.served lent) (.transact db.dialect (work x).run)).serve b ""
      c.backend = match b.begin lent.connection c.backend with
        | (.ok (), s) => some (.working lent db.dialect (work x).run, s)
        | (.error _, s) => some (.done lent, s) := rfl
  cases hbegin : b.begin lent.connection c.backend with
  | mk answer s =>
    rw [hbegin] at hserve
    cases answer with
    | error e =>
      refine ⟨[""], ?_⟩
      rw [serveAll, hserve, run_transact_refused db work (congrArg Prod.fst hbegin), hbegin]
      rfl
    | ok u =>
      let entered := (Context.enterTransaction lent.connection
        { c.note db.beginEvent with backend := (b.begin lent.connection c.backend).2 }).2
      have hlive : entered.connectionOf? x.transaction = some lent.connection :=
        Context.connectionOf?_enterTransaction _ lent.connection
      obtain ⟨ids, hwork, htransactions⟩ :=
        serveAll_work (b := b) (x := x) (work x).run entered hlive
      have hstill : ((x.perform b (work x)).run entered).2.connectionOf? x.transaction
          = some lent.connection := by
        rw [Context.connectionOf?]
        exact (congrArg (fun l => l[x.transaction]?.join) htransactions).trans hlive
      have hrun := run_transact_begun db work (congrArg Prod.fst hbegin) hstill
      refine ⟨"" :: (ids ++ [""]), ?_⟩
      have hentered : entered.backend = s := congrArg Prod.snd hbegin
      rw [hentered] at hwork
      rw [serveAll, hserve]
      dsimp only [Option.bind_some]
      rw [serveAll_append, hwork, hrun]
      dsimp only [Option.bind_some]
      have hdone := serve_done (b := b) "" db lent ((x.perform b (work x)).run entered).1
        (((x.perform b (work x)).run entered).2.leaveTransaction x.transaction).2
      exact congrArg (fun r => Option.bind r fun r => serveAll b [] r.1 r.2) hdone

/-- A query that nobody comes between is a run of its errand. -/
theorem errand_query {db : Database} {sql : String} {params : List Value} {lent : Lent}
    {c c' : Context σ} (h : (borrow b db.name).run c = (.ok lent, c')) (id : String) :
    (Customer.borrower (.served lent) (.query (db.dialect.render sql) params)).serve b id c'.backend
      = some (.done lent, ((query b db sql params).run c).2.backend) := by
  rw [query, run_withConnection_served _ h, run_send]
  rfl

theorem errand_execute {db : Database} {sql : String} {params : List Value} {lent : Lent}
    {c c' : Context σ} (h : (borrow b db.name).run c = (.ok lent, c')) (id : String) :
    (Customer.borrower (.served lent) (.execute (db.dialect.render sql) params)).serve b id
        c'.backend
      = some (.done lent, ((execute b db sql params).run c).2.backend) := by
  rw [execute, run_withConnection_served _ h, run_send]
  rfl

/-- So is a transaction. -/
theorem errand_trans {db : Database} {work : Executor → Work α} {lent : Lent} {c c' : Context σ}
    (h : (borrow b db.name).run c = (.ok lent, c')) :
    ∃ ids, serveAll b ids (.borrower (.served lent)
        (.transact db.dialect (work ⟨db.name, db.dialect, c'.transactions.length⟩).run)) c'.backend
      = some (.done lent, ((trans b db work).run c).2.backend) := by
  rw [trans, run_withConnection_served _ h]
  exact errand_transact b db work lent c'

/-! ## §5. Steps at the pool that nobody comes between. -/

/-- Steps at a pool, at times of the clock. -/
def actAll (b : Backend σ) (database : String) : List Nat → Customer → Pool → σ →
    Option (Customer × Pool × σ)
  | [], x, p, s => some (x, p, s)
  | now :: nows, x, p, s => (x.act b database p s now).bind fun r =>
    actAll b database nows r.1 r.2.1 r.2.2

/-- What a backend answers to a borrower does not depend on the clock, and is no matter of the
pool. -/
theorem reply_at (run : Pool.Run σ) (w : Borrowing) (now : Nat) :
    Pool.Run.reply b database ⟨run.pool, run.backend, now⟩ w
      = ((run.reply b database w).1, ⟨run.pool, (run.reply b database w).2.backend, now⟩) := by
  cases w <;> rfl

theorem pool_reply (run : Pool.Run σ) (w : Borrowing) :
    (run.reply b database w).2.pool = run.pool := by
  cases w <;> rfl

/-- Who has to wait has asked for nothing. -/
theorem backend_of_waiting {run : Pool.Run σ} {w : Borrowing}
    (h : w.step run.pool now (run.reply b database w).1 = none) :
    (run.reply b database w).2 = run := by
  cases w with
  | retiring e => cases h
  | probing e =>
    rw [Pool.Run.reply] at h
    dsimp only at h
    cases hanswer : (b.isValid e.connection run.backend).1 <;> rw [hanswer] at h <;> cases h
  | connecting =>
    rw [Pool.Run.reply] at h
    dsimp only at h
    cases hanswer : (b.connect database run.backend).1 <;> rw [hanswer] at h <;> cases h
  | _ => rfl

/-- **A borrower that nobody comes between** does its steps at the pool. -/
theorem acts_drive (errand : Errand) : ∀ (fuel : Nat) (w : Borrowing) (run : Pool.Run σ),
    ∃ nows, actAll b database nows (.borrower w errand) run.pool run.backend
      = some (.borrower (Pool.Run.drive b database fuel w run).1 errand,
        (Pool.Run.drive b database fuel w run).2.pool,
        (Pool.Run.drive b database fuel w run).2.backend) := by
  intro fuel
  induction fuel with
  | zero =>
    intro w run
    exact ⟨[], rfl⟩
  | succ fuel ih =>
    intro w run
    let now := (run.reply b database w).2.tick.clock
    have hpool : (run.reply b database w).2.tick.pool = run.pool := pool_reply run w
    have hact : (Customer.borrower w errand).act b database run.pool run.backend now
        = (w.step run.pool now (run.reply b database w).1).map fun r =>
          (.borrower r.1 errand, r.2, (run.reply b database w).2.backend) := by
      rw [Customer.act, reply_at]
    rw [Pool.Run.drive]
    dsimp only
    rw [hpool]
    cases hstep : w.step run.pool now (run.reply b database w).1 with
    | none =>
      rw [backend_of_waiting hstep]
      exact ⟨[], rfl⟩
    | some next =>
      obtain ⟨w', p'⟩ := next
      obtain ⟨nows, hnows⟩ := ih w' { (run.reply b database w).2.tick with pool := p' }
      refine ⟨now :: nows, ?_⟩
      rw [actAll, hact, hstep]
      exact hnows

/-- **A connection on its way back that nobody comes between** does its steps at the pool. -/
theorem acts_driveBack : ∀ (fuel : Nat) (w : Returning) (run : Pool.Run σ),
    ∃ nows w', actAll b database nows (.returner w) run.pool run.backend
      = some (.returner w', (Pool.Run.driveBack b fuel w run).pool,
        (Pool.Run.driveBack b fuel w run).backend) := by
  intro fuel
  induction fuel with
  | zero =>
    intro w run
    exact ⟨[], w, rfl⟩
  | succ fuel ih =>
    intro w run
    let now := (run.closeReturned b w).tick.clock
    have hpool : (run.closeReturned b w).tick.pool = run.pool := by
      cases w <;> rfl
    have hbackend : (Pool.Run.closeReturned b ⟨run.pool, run.backend, now⟩ w).backend
        = (run.closeReturned b w).backend := by
      cases w <;> rfl
    rw [Pool.Run.driveBack, hpool]
    cases hstep : w.step run.pool now with
    | none =>
      have hasked : (run.closeReturned b w).backend = run.backend := by
        cases w with
        | closing c => cases hstep
        | _ => rfl
      refine ⟨[], w, ?_⟩
      rw [actAll]
      show _ = some (_, (run.closeReturned b w).tick.pool, (run.closeReturned b w).backend)
      rw [hpool, hasked]
    | some next =>
      obtain ⟨w', p'⟩ := next
      obtain ⟨nows, w'', hnows⟩ := ih w' { (run.closeReturned b w).tick with pool := p' }
      refine ⟨now :: nows, w'', ?_⟩
      rw [actAll, Customer.act, hstep, Option.map_some, Option.bind_some, hbackend]
      exact hnows

end CardStore.Database
