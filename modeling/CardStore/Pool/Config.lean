/-
  CardStore.Pool.Config
  ─────────────────────
  **SETTINGS OF A POOL.**

  Times are in milliseconds.  A pool holds at least one connection at most,
  and never opens more at its start than it may hold.
-/
import CardStore.Card.Wire
import CardStore.Error

namespace CardStore

open Json (Origin Node Reading Shape)

/-- The settings of a pool. -/
structure PoolConfig where
  /-- Connections opened at the start. -/
  minSize : Nat
  maxSize : Nat
  /-- How long a borrower waits. -/
  acquireTimeout : Nat
  /-- The age at which a connection is not lent again. -/
  maxLifetime : Nat
  /-- The time of idleness after which a connection is not lent again. -/
  idleTimeout : Nat
  /-- Whether a connection is tested before it is lent again. -/
  testOnBorrow : Bool
  deriving DecidableEq, Repr

namespace PoolConfig

def standard : PoolConfig := ⟨1, 10, 30000, 1800000, 600000, true⟩

instance : Inhabited PoolConfig := ⟨standard⟩

/-- Check the settings. -/
def check (c : PoolConfig) : Except Error Unit :=
  if c.maxSize = 0 then .error (.configuration "pool max_size must be at least 1")
  else if c.maxSize < c.minSize then
    .error (.configuration ("pool min_size (" ++ Text.ofNat c.minSize ++ ") exceeds max_size ("
      ++ Text.ofNat c.maxSize ++ ")"))
  else .ok ()

theorem check_eq_ok_iff (c : PoolConfig) :
    c.check = .ok () ↔ 0 < c.maxSize ∧ c.minSize ≤ c.maxSize := by
  rw [check]
  split
  · rename_i h
    simp [h]
  · split
    · simp only [reduceCtorEq, false_iff]
      omega
    · simp only [true_iff]
      omega

/-- The keys of pool settings. -/
def shape : Shape PoolConfig :=
  let size := Json.readNatural "usize"
  let time := Json.readNatural "u64"
  ⟨"PoolConfig",
    [.of "min_size" false size fun c v => { c with minSize := v },
      .of "max_size" false size fun c v => { c with maxSize := v },
      .of "acquire_timeout_ms" false time fun c v => { c with acquireTimeout := v },
      .of "max_lifetime_ms" false time fun c v => { c with maxLifetime := v },
      .of "idle_timeout_ms" false time fun c v => { c with idleTimeout := v },
      .of "test_on_borrow" false Json.readBool fun c v => { c with testOnBorrow := v }]⟩

def read (o : Origin) (n : Node) : Reading PoolConfig := shape.read standard o n

/-- A natural number of 64 bits as JSON; a larger one is cut to 64 bits. -/
def naturalJson (n : Nat) : Json :=
  match Json.Number.ofInt? (n % 2 ^ 64 : Nat) with
  | some m => .number m
  | none => .null

/-- The JSON form of pool settings. -/
def toJson (c : PoolConfig) : Json :=
  .object
    [("min_size", naturalJson c.minSize), ("max_size", naturalJson c.maxSize),
      ("acquire_timeout_ms", naturalJson c.acquireTimeout),
      ("max_lifetime_ms", naturalJson c.maxLifetime),
      ("idle_timeout_ms", naturalJson c.idleTimeout), ("test_on_borrow", .bool c.testOnBorrow)]

end PoolConfig

end CardStore
