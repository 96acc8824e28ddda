/-
  CardStore.Pool.Line
  ───────────────────
  **BORROWERS IN LINE.**

  Several borrowers of one pool, each known by a name.  A borrower asks and
  waits, or asks in the background and looks for the answer later.  Permits
  go to those who wait in the order in which they came.

  Time is counted in milliseconds and passes only while somebody waits or
  when it is told to; whoever is still waiting at his deadline is refused.
-/
import CardStore.Pool.Run

namespace CardStore.Pool

/-- Somebody who waits for a permit. -/
structure Waiter where
  name : String
  deadline : Nat
  deriving DecidableEq, Repr

/-- A pool and its borrowers. -/
structure Line (σ : Type) where
  database : String
  run : Run σ
  time : Nat
  waiting : List Waiter
  /-- Answers to those who asked in the background and have not looked yet. -/
  answered : List (String × Except Error Lent)
  held : List (String × Lent)

namespace Line

variable {σ : Type}

/-- What a borrower got, if he was served or refused. -/
def outcome? : Borrowing → Option (Except Error Lent)
  | .served c => some (.ok c)
  | .refused e => some (.error e)
  | _ => none

/-- Serve those who wait as long as there are permits. -/
def serve (b : Backend σ) : List Waiter → Line σ → Line σ
  | [], l => { l with waiting := [] }
  | w :: ws, l =>
    let (phase, run) := l.run.goOn b l.database .queued
    match outcome? phase with
    | some answer => serve b ws { l with run, answered := l.answered ++ [(w.name, answer)] }
    | none => { l with run, waiting := w :: ws }

/-- Refuse those whose deadline has come. -/
def expire : List Waiter → Line σ → Line σ
  | [], l => { l with waiting := [] }
  | w :: ws, l =>
    if w.deadline ≤ l.time then
      let (e, run) := l.run.giveUp
      expire ws { l with run, answered := l.answered ++ [(w.name, .error e)] }
    else
      let l := expire ws l
      { l with waiting := w :: l.waiting }

/-- Let time pass up to a point. -/
def passTo (l : Line σ) (time : Nat) : Line σ :=
  let l := { l with time := max l.time time }
  expire l.waiting l

/-- Bring a connection back, and serve those who wait. -/
def giveBack (b : Backend σ) (c : Lent) (l : Line σ) : Line σ :=
  let l := { l with run := l.run.giveBack b c }
  serve b l.waiting l

/-- Whether somebody asked in the background and has not looked at an answer yet. -/
def isAsking (l : Line σ) (name : String) : Bool :=
  l.waiting.any (·.name == name) || l.answered.any (·.1 == name)

/-- Give a borrower a connection; one that he held before goes back. -/
def hold (b : Backend σ) (name : String) (c : Lent) (l : Line σ) : Line σ :=
  let before := Pairs.get? name l.held
  let l := { l with held := Pairs.set name c l.held }
  match before with
  | some old => l.giveBack b old
  | none => l

/-- Ask for a connection and wait. -/
def borrow (b : Backend σ) (name : String) (l : Line σ) : Except Error Unit × Line σ :=
  let (phase, run) := l.run.goOn b l.database .arriving
  let l := { l with run }
  match outcome? phase with
  | some (.ok c) => (.ok (), l.hold b name c)
  | some (.error e) => (.error e, serve b l.waiting l)
  | none =>
    -- Nobody returns a connection while this borrower waits, so the wait is in vain.
    let l := l.passTo (l.time + l.run.pool.config.acquireTimeout)
    let (e, run) := l.run.giveUp
    (.error e, { l with run })

/-- Ask for a connection in the background; nothing happens for somebody who is asking. -/
def ask (b : Backend σ) (name : String) (l : Line σ) : Line σ :=
  if l.isAsking name then l
  else
    let (phase, run) := l.run.goOn b l.database .arriving
    let l := { l with run }
    match outcome? phase with
    | some answer => serve b l.waiting { l with answered := l.answered ++ [(name, answer)] }
    | none =>
      let deadline := l.time + l.run.pool.config.acquireTimeout
      let l := { l with waiting := l.waiting ++ [⟨name, deadline⟩] }
      expire l.waiting l

/-- What somebody who asked in the background sees. -/
inductive Look where
  | notAsking
  | pending
  | answered (answer : Except Error Unit)

/-- Look for the answer to a question in the background. -/
def look (b : Backend σ) (name : String) (l : Line σ) : Look × Line σ :=
  match Pairs.get? name l.answered with
  | some answer =>
    let l := { l with answered := Pairs.erase name l.answered }
    match answer with
    | .ok c => (.answered (.ok ()), l.hold b name c)
    | .error e => (.answered (.error e), l)
  | none => (if l.waiting.any (·.name == name) then .pending else .notAsking, l)

/-- Bring a connection back; whether it was held. -/
def release (b : Backend σ) (name : String) (l : Line σ) : Bool × Line σ :=
  match Pairs.get? name l.held with
  | some c => (true, { l with held := Pairs.erase name l.held }.giveBack b c)
  | none => (false, l)

/-- Let some milliseconds pass. -/
def advance (ms : Nat) (l : Line σ) : Line σ := l.passTo (l.time + ms)

/-- Shut the pool down. -/
def close (b : Backend σ) (l : Line σ) : Line σ := { l with run := l.run.shutDown b }

end Line

end CardStore.Pool
