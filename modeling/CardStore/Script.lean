/-
  CardStore.Script
  ────────────────
  **PROGRAMS AS DATA.**

  A script is a program that makes requests and goes on with the answers.  It
  is a finite tree, so every run ends, and what a program does for every
  possible sequence of answers is a statement about one value.

      done a       the result is `a`
      ask r k      make the request `r` and go on with `k answer`

  A script is run against anything that answers requests: a pure function
  (`eval`) or one that keeps a state (`run`).
-/

namespace CardStore

/-- A program that makes requests `R`; a request `r` is answered by an `A r`. -/
inductive Script (R : Type) (A : R → Type) (α : Type) : Type where
  | done (a : α)
  | ask (r : R) (k : A r → Script R A α)

namespace Script

variable {R : Type} {A : R → Type} {α β γ σ : Type}

/-- Make one request and answer with what comes back. -/
def request (r : R) : Script R A (A r) := .ask r .done

/-- Go on with another script. -/
def andThen : Script R A α → (α → Script R A β) → Script R A β
  | .done a, f => f a
  | .ask r k, f => .ask r fun answer => (k answer).andThen f

instance : Monad (Script R A) where
  pure := .done
  bind := andThen

theorem pure_def (a : α) : (pure a : Script R A α) = .done a := rfl

theorem bind_def (s : Script R A α) (f : α → Script R A β) : s >>= f = s.andThen f := rfl

theorem done_andThen (a : α) (f : α → Script R A β) : (done a).andThen f = f a := rfl

theorem andThen_done (s : Script R A α) : s.andThen .done = s := by
  induction s with
  | done a => rfl
  | ask r k ih => simp only [andThen, ih]

theorem andThen_assoc (s : Script R A α) (f : α → Script R A β) (g : β → Script R A γ) :
    (s.andThen f).andThen g = s.andThen fun a => (f a).andThen g := by
  induction s with
  | done a => rfl
  | ask r k ih => simp only [andThen, ih]

/-- Run a script against a pure function. -/
def eval (answer : (r : R) → A r) : Script R A α → α
  | .done a => a
  | .ask r k => (k (answer r)).eval answer

/-- Run a script against answers that keep a state. -/
def run (answer : (r : R) → σ → A r × σ) : Script R A α → σ → α × σ
  | .done a, s => (a, s)
  | .ask r k, s =>
    let (a, s) := answer r s
    (k a).run answer s

theorem eval_andThen (answer : (r : R) → A r) (s : Script R A α) (f : α → Script R A β) :
    (s.andThen f).eval answer = (f (s.eval answer)).eval answer := by
  induction s with
  | done a => rfl
  | ask r k ih => simp only [andThen, eval, ih]

theorem run_andThen (answer : (r : R) → σ → A r × σ) (s : Script R A α) (f : α → Script R A β)
    (state : σ) :
    (s.andThen f).run answer state =
      (f (s.run answer state).1).run answer (s.run answer state).2 := by
  induction s generalizing state with
  | done a => rfl
  | ask r k ih => simp only [andThen, run, ih]

end Script

end CardStore
