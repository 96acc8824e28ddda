/-
  CardStore.Pool.Basic
  ────────────────────
  **CONNECTION POOLS.**

  A pool lends connections.  A borrower first needs one of `maxSize` permits;
  with it, the borrower looks through the idle connections, the latest
  returned first, drops those that are too old or do not answer, and takes
  the first that is fit; only when none is left is a new connection opened.
  The permit goes back when the connection comes back.

  Borrowing, returning and closing are machines that take one atomic step at
  a time, so that any number of them can be under way at once.  A step may
  have to wait, and some steps need an answer from outside.

      arriving → queued → admitted → scanning ⇄ retiring / probing
                                     scanning → connecting → served
-/
import CardStore.Pool.Config

namespace CardStore

/-! ## §1. The state of a pool. -/

/-- A connection that nobody uses. -/
structure Idle where
  connection : Nat
  createdAt : Nat
  lastUsed : Nat
  deriving DecidableEq, Repr

/-- A connection that is lent. -/
structure Lent where
  connection : Nat
  createdAt : Nat
  deriving DecidableEq, Repr, Inhabited

/-- What a pool has counted. -/
structure PoolStats where
  created : Nat
  closed : Nat
  acquisitions : Nat
  exhausted : Nat
  healthFailures : Nat
  deriving DecidableEq, Repr, Inhabited

/-- A pool. -/
structure Pool where
  config : PoolConfig
  /-- Idle connections, the latest returned first. -/
  idle : List Idle
  /-- The number of idle connections as it was last published. -/
  idleCount : Nat
  permits : Nat
  /-- Connections that are open. -/
  size : Nat
  stats : PoolStats
  /-- Whether the pool is shut down. -/
  closed : Bool
  /-- Whether somebody has the idle connections to himself. -/
  locked : Bool
  deriving DecidableEq, Repr

namespace Pool

/-- A pool without connections. -/
def ofConfig (c : PoolConfig) : Pool := ⟨c, [], 0, c.maxSize, 0, ⟨0, 0, 0, 0, 0⟩, false, false⟩

instance : Inhabited Pool := ⟨ofConfig .standard⟩

/-- Clock readings of one millisecond. -/
def readingsPerMillisecond : Nat := 1000000

/-- Whether more time has passed than a limit in milliseconds. -/
def exceeds (since now limit : Nat) : Bool := limit * readingsPerMillisecond < now - since

/-- Whether an idle connection is too old to be lent again. -/
def isStale (p : Pool) (now : Nat) (e : Idle) : Bool :=
  exceeds e.createdAt now p.config.maxLifetime || exceeds e.lastUsed now p.config.idleTimeout

/-! ## §2. Single changes. -/

def noteOpened (p : Pool) : Pool :=
  { p with size := p.size + 1, stats := { p.stats with created := p.stats.created + 1 } }

def noteClosed (p : Pool) : Pool :=
  { p with size := p.size - 1, stats := { p.stats with closed := p.stats.closed + 1 } }

def noteUnhealthy (p : Pool) : Pool :=
  { p with stats := { p.stats with healthFailures := p.stats.healthFailures + 1 } }

def noteAcquired (p : Pool) : Pool :=
  { p with stats := { p.stats with acquisitions := p.stats.acquisitions + 1 } }

def noteExhausted (p : Pool) : Pool :=
  { p with stats := { p.stats with exhausted := p.stats.exhausted + 1 } }

def takePermit (p : Pool) : Pool := { p with permits := p.permits - 1 }

def releasePermit (p : Pool) : Pool := { p with permits := p.permits + 1 }

def lock (p : Pool) : Pool := { p with locked := true }

/-- Publish the number of idle connections and let others at them. -/
def unlock (p : Pool) : Pool := { p with idleCount := p.idle.length, locked := false }

/-- Put an idle connection on top. -/
def push (p : Pool) (e : Idle) : Pool :=
  { p with idle := e :: p.idle, idleCount := p.idle.length + 1 }

/-! ## §3. Borrowing. -/

/-- The refusal of a pool that is shut down. -/
def shutDownError : Error := .poolExhausted "Pool is shut down"

/-- The refusal after waiting in vain. -/
def timeoutError (c : PoolConfig) : Error :=
  .poolExhausted ("Timeout waiting for connection (" ++ Text.ofNat c.acquireTimeout ++ "ms)")

/-- What a step may need to know from outside. -/
inductive Reply where
  | go
  | timedOut
  | healthy (yes : Bool)
  | connected (answer : Except Error Nat)

/-- How far a borrower has come. -/
inductive Borrowing where
  | arriving
  | queued
  /-- With a permit, before the idle connections. -/
  | admitted
  /-- Alone with the idle connections. -/
  | scanning
  /-- Closing a connection that is too old. -/
  | retiring (e : Idle)
  /-- Testing a connection. -/
  | probing (e : Idle)
  /-- Opening a connection. -/
  | connecting
  | served (c : Lent)
  | refused (e : Error)

namespace Borrowing

/-- One step of a borrower; none when it has to wait, or needs another reply. -/
def step (p : Pool) (now : Nat) : Borrowing → Reply → Option (Borrowing × Pool)
  | .arriving, .go => if p.closed then some (.refused shutDownError, p) else some (.queued, p)
  -- the permit comes before the lock: who waits for one is in nobody's way
  | .queued, .go => if p.permits = 0 then none else some (.admitted, p.takePermit)
  | .queued, .timedOut => some (.refused (timeoutError p.config), p.noteExhausted)
  | .admitted, .go => if p.locked then none else some (.scanning, p.lock)
  | .scanning, .go => match p.idle with
    | [] => some (.connecting, p.unlock)
    | e :: rest =>
      let p := { p with idle := rest }
      if p.isStale now e then some (.retiring e, p)
      else if p.config.testOnBorrow then some (.probing e, p)
      else some (.served ⟨e.connection, e.createdAt⟩, p.unlock.noteAcquired)
  -- the lock is kept while a connection is closed or tested
  | .retiring _, .go => some (.scanning, p.noteClosed)
  | .probing e, .healthy true => some (.served ⟨e.connection, e.createdAt⟩, p.unlock.noteAcquired)
  | .probing _, .healthy false => some (.scanning, p.noteClosed.noteUnhealthy)
  | .connecting, .connected (.ok c) => some (.served ⟨c, now⟩, p.noteOpened.noteAcquired)
  -- a failure must not cost the pool a permit
  | .connecting, .connected (.error e) => some (.refused e, p.releasePermit)
  | _, _ => none

end Borrowing

/-! ## §4. Returning. -/

/-- How far a connection has come on its way back. -/
inductive Returning where
  | arriving (c : Lent)
  | checking (c : Lent)
  /-- Closing the connection, the pool being shut down. -/
  | closing (c : Lent)
  | storing (c : Lent)
  | returned
  deriving DecidableEq, Repr

/-- One step on the way back. -/
def Returning.step (p : Pool) (now : Nat) : Returning → Option (Returning × Pool)
  -- the permit is free before the connection is idle
  | .arriving c => some (.checking c, p.releasePermit)
  | .checking c => some (if p.closed then .closing c else .storing c, p)
  | .closing _ => some (.returned, p.noteClosed)
  | .storing c =>
    if p.locked then none else some (.returned, p.push ⟨c.connection, c.createdAt, now⟩)
  | .returned => none

/-! ## §5. Closing. -/

/-- How far the closing of a pool has come. -/
inductive Closing where
  | starting
  | entering
  | draining
  /-- Closing an idle connection. -/
  | closing (e : Idle)
  | closed
  deriving DecidableEq, Repr

/-- One step of closing a pool. -/
def Closing.step (p : Pool) : Closing → Option (Closing × Pool)
  | .starting => some (.entering, { p with closed := true })
  | .entering => if p.locked then none else some (.draining, p.lock)
  | .draining => match p.idle with
    | [] => some (.closed, p.unlock)
    | e :: rest => some (.closing e, { p with idle := rest })
  | .closing _ => some (.draining, p.noteClosed)
  | .closed => none

end Pool

end CardStore
