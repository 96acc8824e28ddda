/-
  CardStore.Proofs.Database.Statement
  ───────────────────────────────────
  **CONNECTIONS FOR STATEMENTS.**

  An operation on a database borrows a connection, acts on it and lets it go.
  Whether it is served or refused, pools are tended on the way, and that is
  all: no transaction changes, and the backend is asked for connections only.

  Main statements:
    * `tended_borrow` — borrowing does nothing but tend pools.
    * `Tended.view_eq`, `Tended.asked` — what tending pools leaves alone.
    * `run_withConnection_served` — an operation on a borrowed connection.
    * `advances_query`, `advances_execute` — statements lead to later contexts.
-/
import CardStore.Database.Statement
import CardStore.Proofs.Context
import CardStore.Proofs.Backend

namespace CardStore

variable {σ α : Type}

/-! ## §1. Tending pools. -/

namespace Context

/-- Borrowers of pools and connections on their way back take their steps. -/
inductive Tended (b : Backend σ) (c : Context σ) : Context σ → Prop where
  | refl : Tended b c c
  | goOn {c' : Context σ} (name : String) (w : Pool.Borrowing) :
    Tended b c c' → Tended b c (c'.onPool name fun run => run.goOn b name w).2
  | giveUp {c' : Context σ} (name : String) :
    Tended b c c' → Tended b c (c'.onPool name fun run => run.giveUp).2
  | giveBack {c' : Context σ} (name : String) (lent : Lent) :
    Tended b c c' → Tended b c (c'.onPool name fun run => ((), run.giveBack b lent)).2
  | returning {c' : Context σ} (lents : List (String × Lent)) :
    Tended b c c' → Tended b c { c' with returning := lents }

/-- What does not depend on backend, clock and pools is no matter of a pool. -/
theorem view_onPool {γ : Type} (view : Context σ → γ)
    (hview : ∀ (c : Context σ) (backend : σ) (clock : Nat) (databases : OrderedMap Database),
      view { c with backend, clock, databases } = view c)
    (name : String) (f : Pool.Run σ → α × Pool.Run σ) (c : Context σ) :
    view (c.onPool name f).2 = view c := by
  unfold onPool
  split
  · rfl
  · exact hview c _ _ _

theorem transactions_onPool (name : String) (f : Pool.Run σ → α × Pool.Run σ) (c : Context σ) :
    (c.onPool name f).2.transactions = c.transactions :=
  view_onPool (·.transactions) (fun _ _ _ _ => rfl) name f c

theorem asked_onPool {P : Exchange → Prop} (name : String)
    {f : Pool.Run (σ × List Exchange) → α × Pool.Run (σ × List Exchange)}
    (h : ∀ run, Asked P run.backend (f run).2.backend) (c : Context (σ × List Exchange)) :
    Asked P c.backend (c.onPool name f).2.backend := by
  unfold onPool
  split
  · exact .refl _
  · rename_i db _
    exact h ⟨db.pool, c.backend, c.clock⟩

/-- **What does not depend on backend, clock and pools**, or on who is on the way back, stays. -/
theorem Tended.view_eq {γ : Type} {b : Backend σ} {c c' : Context σ} (view : Context σ → γ)
    (hview : ∀ (c : Context σ) (backend : σ) (clock : Nat) (databases : OrderedMap Database),
      view { c with backend, clock, databases } = view c)
    (hreturning : ∀ (c : Context σ) (returning : List (String × Lent)),
      view { c with returning } = view c)
    (h : c.Tended b c') : view c' = view c := by
  induction h with
  | refl => rfl
  | goOn name w _ ih => rw [view_onPool view hview, ih]
  | giveUp name _ ih => rw [view_onPool view hview, ih]
  | giveBack name lent _ ih => rw [view_onPool view hview, ih]
  | returning lents _ ih => rw [hreturning, ih]

/-- **Transactions** are no matter of pools. -/
theorem Tended.transactions_eq {b : Backend σ} {c c' : Context σ} (h : c.Tended b c') :
    c'.transactions = c.transactions :=
  h.view_eq (·.transactions) (fun _ _ _ _ => rfl) fun _ _ => rfl

/-- New identifiers are no matter of pools either. -/
theorem Tended.ids_eq {b : Backend σ} {c c' : Context σ} (h : c.Tended b c') : c'.ids = c.ids :=
  h.view_eq (·.ids) (fun _ _ _ _ => rfl) fun _ _ => rfl

/-- Nor are cards. -/
theorem Tended.cards_eq {b : Backend σ} {c c' : Context σ} (h : c.Tended b c') :
    c'.cards = c.cards :=
  h.view_eq (·.cards) (fun _ _ _ _ => rfl) fun _ _ => rfl

/-- **The backend** is asked for connections only. -/
theorem Tended.asked {b : Backend σ} {c c' : Context (σ × List Exchange)}
    (h : c.Tended b.recorded c') : Asked Exchange.IsPooling c.backend c'.backend := by
  induction h with
  | refl => exact .refl _
  | goOn name w _ ih => exact ih.trans (asked_onPool name (Pool.Run.asked_goOn b name w) _)
  | giveUp name _ ih => exact ih.trans (asked_onPool name (fun _ => .refl _) _)
  | giveBack name lent _ ih => exact ih.trans (asked_onPool name (Pool.Run.asked_giveBack b lent) _)
  | returning lents _ ih => exact ih

theorem Tended.landAll {b : Backend σ} {c : Context σ} : ∀ (lents : List (String × Lent))
    {c' : Context σ}, c.Tended b c' → c.Tended b (landAll b lents c') := by
  intro lents
  induction lents with
  | nil =>
    intro c' h
    exact h
  | cons lent lents ih =>
    intro c' h
    exact ih (.giveBack lent.1 lent.2 h)

theorem Tended.settle {b : Backend σ} {c c' : Context σ} (h : c.Tended b c') :
    c.Tended b (c'.settle b) := (Tended.returning [] h).landAll c'.returning

end Context

/-! ## §2. Borrowing. -/

namespace Database

theorem tended_conclude {b : Backend σ} {c c' : Context σ} (name : String)
    (phase : Option Pool.Borrowing) (h : c.Tended b c') :
    c.Tended b (conclude name phase c').2 := by
  unfold conclude
  split
  · exact h
  · exact h
  · exact .giveUp name h
  · exact h

/-- **Borrowing** does nothing but tend pools. -/
theorem tended_borrow (b : Backend σ) (name : String) (c : Context σ) :
    c.Tended b ((borrow b name).run c).2 := by
  have harrived : c.Tended b (c.onPool name fun run => run.goOn b name .arriving).2 :=
    .goOn name _ .refl
  unfold borrow
  rw [ExceptT.run_mk]
  split
  · rename_i c' heq
    rw [heq] at harrived
    -- there was no permit, so what is on its way back lands first
    have hqueued : c.Tended b ((c'.settle b).onPool name fun run =>
        run.goOn b name .queued).2 := .goOn name _ harrived.settle
    exact tended_conclude name _ hqueued
  · rename_i phase c' _ heq
    rw [heq] at harrived
    exact tended_conclude name phase harrived

theorem transactions_borrow (b : Backend σ) (name : String) (c : Context σ) :
    ((borrow b name).run c).2.transactions = c.transactions :=
  (tended_borrow b name c).transactions_eq

/-! ## §3. Statements. -/

/-- **On a borrowed connection.**  Whoever is served lets the connection go in the end. -/
theorem run_withConnection_served {b : Backend σ} {name : String} {lent : Lent} {c c' : Context σ}
    (act : Lent → Action σ α) (h : (borrow b name).run c = (.ok lent, c')) :
    (withConnection b name act).run c = (((act lent).run c').1,
      { ((act lent).run c').2 with
        returning := ((act lent).run c').2.returning ++ [(name, lent)] }) := by
  rw [withConnection, Action.run_bind_ok h]
  rfl

/-- Whoever is refused does nothing. -/
theorem run_withConnection_refused {b : Backend σ} {name : String} {e : Error} {c c' : Context σ}
    (act : Lent → Action σ α) (h : (borrow b name).run c = (.error e, c')) :
    (withConnection b name act).run c = (.error e, c') := by
  rw [withConnection, Action.run_bind_error h]

theorem run_send (name native : String) (count : α → Nat) (run : σ → Except Error α × σ)
    (c : Context σ) :
    (send name native count run).run c = ((run c.backend).1,
      { c with backend := (run c.backend).2 }.note
        (statementEvent name native ((run c.backend).1.map count))) := rfl

theorem advances_borrow (b : Backend σ) (name : String) : (borrow b name).Advances :=
  fun c => .of_transactions_eq (transactions_borrow b name c)

theorem advances_send (name native : String) (count : α → Nat) (run : σ → Except Error α × σ) :
    (send name native count run).Advances := fun _ => .of_transactions_eq rfl

theorem advances_withConnection {b : Backend σ} {name : String} {act : Lent → Action σ α}
    (h : ∀ lent, (act lent).Advances) : (withConnection b name act).Advances := by
  apply Action.Advances.bind (advances_borrow b name)
  intro lent
  apply Action.Advances.bind (h lent).tried
  intro answer
  exact Action.Advances.bind (Action.advances_change fun _ => rfl) fun _ =>
    Action.advances_ofExcept answer

theorem advances_query (b : Backend σ) (db : Database) (sql : String) (params : List Value) :
    (query b db sql params).Advances :=
  advances_withConnection fun _ => advances_send _ _ _ _

theorem advances_execute (b : Backend σ) (db : Database) (sql : String) (params : List Value) :
    (execute b db sql params).Advances :=
  advances_withConnection fun _ => advances_send _ _ _ _

end Database

end CardStore
