/-
  CardStore.Proofs.Backend
  ────────────────────────
  **WHAT A BACKEND IS ASKED FOR.**

  A backend can be watched: next to its state it keeps a list of what it was
  asked for and of what it answered, and answers as it did before.  What a
  run asks for is what it adds to the list.  Borrowing, returning and giving
  up a connection sends no statement and touches no transaction.

  Main statements:
    * `Asked.trans` — what is asked for one after another.
    * `Pool.Run.asked_goOn` — exchanges of a borrower.
    * `Pool.Run.asked_giveBack` — exchanges of a connection on its way back.
-/
import CardStore.Backend
import CardStore.Pool.Run

namespace CardStore

/-- What a backend was asked for, and what it answered. -/
inductive Exchange where
  | connected (database : String) (answer : Except Error Nat)
  | queried (connection : Nat) (scope : Scope) (sql : String) (params : List Value)
    (answer : Except Error RowSet)
  | executed (connection : Nat) (scope : Scope) (sql : String) (params : List Value)
    (answer : Except Error Outcome)
  | begun (connection : Nat) (answer : Except Error Unit)
  | committed (connection : Nat) (answer : Except Error Unit)
  | rolledBack (connection : Nat) (answer : Except Error Unit)
  | tested (connection : Nat) (answer : Bool)
  | closed (connection : Nat) (answer : Except Error Unit)

/-- What a pool asks a backend for. -/
def Exchange.IsPooling : Exchange → Prop
  | .connected _ _ | .tested _ _ | .closed _ _ => True
  | _ => False

variable {σ α : Type}

/-- Do something with a backend and keep it in the list. -/
def record (exchange : α → Exchange) (act : σ → α × σ) (s : σ × List Exchange) :
    α × σ × List Exchange :=
  ((act s.1).1, (act s.1).2, s.2 ++ [exchange (act s.1).1])

/-- A backend that keeps a list of what it was asked for. -/
def Backend.recorded (b : Backend σ) : Backend (σ × List Exchange) where
  connect database := record (.connected database) (b.connect database)
  query connection scope sql params :=
    record (.queried connection scope sql params) (b.query connection scope sql params)
  execute connection scope sql params :=
    record (.executed connection scope sql params) (b.execute connection scope sql params)
  begin connection := record (.begun connection) (b.begin connection)
  commit connection := record (.committed connection) (b.commit connection)
  rollback connection := record (.rolledBack connection) (b.rollback connection)
  isValid connection := record (.tested connection) (b.isValid connection)
  close connection := record (.closed connection) (b.close connection)

/-- Between two states, a backend was asked for nothing but certain things. -/
def Asked (P : Exchange → Prop) (s s' : σ × List Exchange) : Prop :=
  ∃ es, s'.2 = s.2 ++ es ∧ ∀ e ∈ es, P e

namespace Asked

variable {P : Exchange → Prop} {s s' s'' : σ × List Exchange}

theorem refl (s : σ × List Exchange) : Asked P s s :=
  ⟨[], (List.append_nil _).symm, fun _ h => absurd h List.not_mem_nil⟩

/-- **One after another.** -/
theorem trans (h : Asked P s s') (h' : Asked P s' s'') : Asked P s s'' := by
  obtain ⟨es, heq, hes⟩ := h
  obtain ⟨es', heq', hes'⟩ := h'
  refine ⟨es ++ es', ?_, ?_⟩
  · rw [heq', heq, List.append_assoc]
  · intro e he
    rcases List.mem_append.mp he with he | he
    · exact hes e he
    · exact hes' e he

theorem record {exchange : α → Exchange} (act : σ → α × σ) (s : σ × List Exchange)
    (h : ∀ answer, P (exchange answer)) : Asked P s (CardStore.record exchange act s).2 := by
  refine ⟨_, rfl, ?_⟩
  intro e he
  rw [List.mem_singleton.mp he]
  exact h _

end Asked

end CardStore

namespace CardStore.Pool.Run

variable {σ : Type} (b : Backend σ)

theorem asked_reply (database : String) (s : Run (σ × List Exchange)) (w : Borrowing) :
    Asked Exchange.IsPooling s.backend (s.reply b.recorded database w).2.backend := by
  cases w with
  | retiring e => exact .record _ _ fun _ => trivial
  | probing e => exact .record _ _ fun _ => trivial
  | connecting => exact .record _ _ fun _ => trivial
  | arriving => exact .refl _
  | queued => exact .refl _
  | admitted => exact .refl _
  | scanning => exact .refl _
  | served c => exact .refl _
  | refused e => exact .refl _

theorem asked_drive (database : String) : ∀ (fuel : Nat) (w : Borrowing)
    (s : Run (σ × List Exchange)),
    Asked Exchange.IsPooling s.backend (drive b.recorded database fuel w s).2.backend := by
  intro fuel
  induction fuel with
  | zero =>
    intro w s
    exact .refl _
  | succ fuel ih =>
    intro w s
    have hreply := asked_reply b database s w
    -- the borrower goes on with what it was answered, or has to wait
    unfold drive
    dsimp only
    split
    · exact hreply.trans (ih _ _)
    · exact hreply

/-- **A borrower** opens, tests and closes connections. -/
theorem asked_goOn (database : String) (w : Borrowing) (s : Run (σ × List Exchange)) :
    Asked Exchange.IsPooling s.backend (s.goOn b.recorded database w).2.backend :=
  asked_drive b database _ w s

theorem asked_closeReturned (s : Run (σ × List Exchange)) (w : Returning) :
    Asked Exchange.IsPooling s.backend (s.closeReturned b.recorded w).backend := by
  cases w with
  | closing c => exact .record _ _ fun _ => trivial
  | arriving c => exact .refl _
  | checking c => exact .refl _
  | storing c => exact .refl _
  | returned => exact .refl _

theorem asked_driveBack : ∀ (fuel : Nat) (w : Returning) (s : Run (σ × List Exchange)),
    Asked Exchange.IsPooling s.backend (driveBack b.recorded fuel w s).backend := by
  intro fuel
  induction fuel with
  | zero =>
    intro w s
    exact .refl _
  | succ fuel ih =>
    intro w s
    have hask := asked_closeReturned b s w
    unfold driveBack
    dsimp only
    split
    · exact hask.trans (ih _ _)
    · exact hask

/-- **A connection on its way back** is closed, if anything. -/
theorem asked_giveBack (c : Lent) (s : Run (σ × List Exchange)) :
    Asked Exchange.IsPooling s.backend (s.giveBack b.recorded c).backend :=
  asked_driveBack b 3 _ s

end CardStore.Pool.Run
