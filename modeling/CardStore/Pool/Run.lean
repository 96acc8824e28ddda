/-
  CardStore.Pool.Run
  ──────────────────
  **RUNNING A POOL AGAINST A BACKEND.**

  The machines of a pool are driven step by step, with the answers that a
  backend gives.  Every step reads the clock, which never stands still.  A
  borrower is driven until it is served or refused, or has to wait for a
  permit.
-/
import CardStore.Backend
import CardStore.Event
import CardStore.Pool.Basic

namespace CardStore.Pool

/-- A pool, its backend, and the clock. -/
structure Run (σ : Type) where
  pool : Pool
  backend : σ
  clock : Nat

namespace Run

variable {σ : Type}

/-- Go on to the next reading of the clock. -/
def tick (s : Run σ) : Run σ := { s with clock := s.clock + 1 }

/-! ## §1. Borrowing. -/

/-- What a backend answers to a borrower. -/
def reply (b : Backend σ) (database : String) (s : Run σ) : Borrowing → Reply × Run σ
  | .retiring e =>
    let (_, backend) := b.close e.connection s.backend
    (.go, { s with backend })
  | .probing e =>
    let (yes, backend) := b.isValid e.connection s.backend
    (.healthy yes, { s with backend })
  | .connecting =>
    let (answer, backend) := b.connect database s.backend
    (.connected answer, { s with backend })
  | _ => (.go, s)

/-- Drive a borrower for at most so many steps. -/
def drive (b : Backend σ) (database : String) : Nat → Borrowing → Run σ → Borrowing × Run σ
  | 0, w, s => (w, s)
  -- the clock is read after the backend has answered
  | fuel + 1, w, s =>
    let (answer, s) := s.reply b database w
    let s := s.tick
    match w.step s.pool s.clock answer with
    | some (w, pool) => drive b database fuel w { s with pool }
    | none => (w, s)

/-- The steps of a borrower: two for each idle connection, and those before and after them. -/
def borrowingSteps (p : Pool) : Nat := 2 * p.idle.length + 6

/-- Drive a borrower until it is served or refused, or has to wait. -/
def goOn (b : Backend σ) (database : String) (w : Borrowing) (s : Run σ) : Borrowing × Run σ :=
  drive b database (borrowingSteps s.pool) w s

/-- Let a waiting borrower give up. -/
def giveUp (s : Run σ) : Error × Run σ :=
  (timeoutError s.pool.config, { s with pool := s.pool.noteExhausted }.tick)

/-! ## §2. Returning and closing. -/

/-- What a connection on its way back asks of the backend. -/
def closeReturned (b : Backend σ) (s : Run σ) : Returning → Run σ
  | .closing c => { s with backend := (b.close c.connection s.backend).2 }
  | _ => s

/-- Drive a connection on its way back for at most so many steps. -/
def driveBack (b : Backend σ) : Nat → Returning → Run σ → Run σ
  | 0, _, s => s
  | fuel + 1, w, s =>
    let s := (s.closeReturned b w).tick
    match w.step s.pool s.clock with
    | some (w, pool) => driveBack b fuel w { s with pool }
    | none => s

/-- Bring a connection back. -/
def giveBack (b : Backend σ) (c : Lent) (s : Run σ) : Run σ := driveBack b 3 (.arriving c) s

/-- Drive the closing of a pool for at most so many steps. -/
def driveClose (b : Backend σ) : Nat → Closing → Run σ → Run σ
  | 0, _, s => s
  | fuel + 1, w, s =>
    let s := match w with
      | .closing e => { s with backend := (b.close e.connection s.backend).2 }
      | _ => s
    match w.step s.pool with
    | some (w, pool) => driveClose b fuel w { s with pool }
    | none => s

/-- Shut a pool down. -/
def shutDown (b : Backend σ) (s : Run σ) : Run σ :=
  driveClose b (2 * s.pool.idle.length + 3) .starting s

/-! ## §3. Opening. -/

/-- Open connections ahead of use, and stop at the first that cannot be opened. -/
def preopen (b : Backend σ) (database : String) : Nat → Run σ → List Event × Run σ
  | 0, s => ([], s)
  | n + 1, s =>
    let (answer, backend) := b.connect database s.backend
    let s := { s with backend }.tick
    match answer with
    | .ok c =>
      let pool := s.pool.noteOpened.push ⟨c, s.clock, s.clock⟩
      preopen b database n { s with pool }
    | .error e =>
      ([⟨.warn, "Failed to pre-open pooled connection: " ++ e.message, []⟩], s)

/-- Make a pool and open its first connections. -/
def start (b : Backend σ) (database : String) (c : PoolConfig) (backend : σ) (clock : Nat) :
    Except Error (List Event × Run σ) :=
  match c.check with
  | .error e => .error e
  | .ok () => .ok (preopen b database c.minSize ⟨ofConfig c, backend, clock⟩)

end Run

end CardStore.Pool
