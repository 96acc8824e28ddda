/-
  CardStore.Backend
  ─────────────────
  **WHAT A BACKEND HAS TO OFFER.**

  A backend opens connections to named databases and runs native statements
  on them, by themselves or in a transaction.  Connections are known by
  numbers.  A backend is any state together with these operations on it, so
  whatever holds for every backend holds for every sequence of answers.
-/
import CardStore.Error
import CardStore.Row

namespace CardStore

/-- Whether a statement stands by itself or belongs to the connection's transaction. -/
inductive Scope where
  | alone
  | transaction
  deriving DecidableEq, Repr

/-- The operations of a backend with states `σ`. -/
structure Backend (σ : Type) where
  /-- Open a connection to a database. -/
  connect : String → σ → Except Error Nat × σ
  query : Nat → Scope → String → List Value → σ → Except Error RowSet × σ
  execute : Nat → Scope → String → List Value → σ → Except Error Outcome × σ
  /-- Open a transaction on a connection. -/
  begin : Nat → σ → Except Error Unit × σ
  commit : Nat → σ → Except Error Unit × σ
  rollback : Nat → σ → Except Error Unit × σ
  /-- Whether a connection can still be used. -/
  isValid : Nat → σ → Bool × σ
  close : Nat → σ → Except Error Unit × σ

end CardStore
