/-
  CardStore.Proofs.Script
  ───────────────────────
  **WHAT A SCRIPT MAY DO.**

  A script meets answers that nobody knows in advance.  What holds of every
  result it may yield holds of its run against any backend, and what holds of
  every request it may make holds of every request that a run makes.

  Main statements:
    * `bind_eq_ok_iff` — a computation that may fail does well when each of its steps does.
    * `Agree.bind` — two computations do alike when each of their steps does.
    * `yields_run` — a run yields one of the possible results.
    * `related_run` — a run relates states as its answers do.
    * `yields_andThen_iff`, `yields_bind_ok_iff` — results of one script behind another.
    * `Asks.andThen`, `Asks.bind` — requests of one script behind another.
-/
import CardStore.Script

namespace CardStore

/-! ## §1. Outcomes. -/

/-- Two steps that may fail do well together when each of them does. -/
theorem bind_eq_ok_iff {ε α β : Type} {x : Except ε α} {f : α → Except ε β} {b : β} :
    x >>= f = .ok b ↔ ∃ a, x = .ok a ∧ f a = .ok b := by
  cases x with
  | ok a =>
    constructor
    · intro h
      exact ⟨a, rfl, h⟩
    · rintro ⟨c, hc, h⟩
      rw [Except.ok.inj hc]
      exact h
  -- after a failure there is nothing that the second step could have been given
  | error e =>
    constructor
    · intro h
      cases h
    · rintro ⟨c, hc, _⟩
      cases hc

theorem exists_eq_ok_of_isOk {ε α : Type} {x : Except ε α} (h : x.isOk = true) :
    ∃ a, x = .ok a := by
  cases x with
  | ok a => exact ⟨a, rfl⟩
  | error e => cases h

/-- Two computations do alike: both do well with related results, or both fail in the same way. -/
inductive Agree {ε α β : Type} (R : α → β → Prop) : Except ε α → Except ε β → Prop where
  | ok {a : α} {b : β} : R a b → Agree R (.ok a) (.ok b)
  | error (e : ε) : Agree R (.error e) (.error e)

theorem Agree.bind {ε α β γ δ : Type} {R : α → β → Prop} {S : γ → δ → Prop} {x : Except ε α}
    {y : Except ε β} {f : α → Except ε γ} {g : β → Except ε δ} (h : Agree R x y)
    (hf : ∀ a b, R a b → Agree S (f a) (g b)) : Agree S (x >>= f) (y >>= g) := by
  cases h with
  | ok hab => exact hf _ _ hab
  | error e => exact .error e

theorem Agree.refl {ε α : Type} (x : Except ε α) : Agree Eq x x := by
  cases x with
  | ok a => exact .ok rfl
  | error e => exact .error e

namespace Script

variable {R : Type} {A : R → Type} {ε α β σ : Type}

/-! ## §2. Results. -/

/-- The results of a script, whatever the answers are. -/
inductive Yields : Script R A α → α → Prop where
  | done (a : α) : Yields (.done a) a
  | ask {r : R} {k : A r → Script R A α} {a : α} (answer : A r) :
    Yields (k answer) a → Yields (.ask r k) a

theorem yields_done_iff {a b : α} : Yields (.done a : Script R A α) b ↔ a = b := by
  constructor
  · intro h
    cases h
    rfl
  · rintro rfl
    exact .done a

/-- **A run** yields one of the results that are possible. -/
theorem yields_run (answer : (r : R) → σ → A r × σ) (s : Script R A α) :
    ∀ state, s.Yields (s.run answer state).1 := by
  induction s with
  | done a =>
    intro state
    exact .done a
  | ask r k ih =>
    intro state
    rw [run]
    exact .ask (answer r state).1 (ih _ _)

/-- What a run comes to is one of the results that are possible. -/
theorem yields_of_run {answer : (r : R) → σ → A r × σ} {s : Script R A α} {state : σ} {a : α}
    (h : (s.run answer state).1 = a) : s.Yields a := by
  rw [← h]
  exact yields_run answer s state

theorem yields_eval (answer : (r : R) → A r) (s : Script R A α) : s.Yields (s.eval answer) := by
  induction s with
  | done a => exact .done a
  | ask r k ih => exact .ask (answer r) (ih (answer r))

/-- The results of a script that is followed by another one. -/
theorem yields_andThen_iff {s : Script R A α} {f : α → Script R A β} {b : β} :
    (s.andThen f).Yields b ↔ ∃ a, s.Yields a ∧ (f a).Yields b := by
  induction s with
  | done a =>
    constructor
    · intro h
      exact ⟨a, .done a, h⟩
    · rintro ⟨c, hc, h⟩
      rw [yields_done_iff] at hc
      rw [hc]
      exact h
  | ask r k ih =>
    constructor
    · intro h
      rw [andThen] at h
      cases h with
      | ask answer h =>
        obtain ⟨a, ha, h⟩ := (ih answer).1 h
        exact ⟨a, .ask answer ha, h⟩
    · rintro ⟨a, ha, h⟩
      cases ha with
      | ask answer ha => exact .ask answer ((ih answer).2 ⟨a, ha, h⟩)

/-- A script that may fail, and another one behind it. -/
theorem run_bind (s : ExceptT ε (Script R A) α) (f : α → ExceptT ε (Script R A) β) :
    (s >>= f).run = s.run.andThen fun
      | .ok a => (f a).run
      | .error e => .done (.error e) := rfl

/-- A script that does well against a pure function, and does well behind another one. -/
theorem eval_bind_eq_ok_iff {answer : (r : R) → A r} {s : ExceptT ε (Script R A) α}
    {f : α → ExceptT ε (Script R A) β} {b : β} :
    (s >>= f).run.eval answer = .ok b ↔
      ∃ a, s.run.eval answer = .ok a ∧ (f a).run.eval answer = .ok b := by
  rw [run_bind, eval_andThen]
  cases s.run.eval answer with
  | ok a =>
    constructor
    · intro h
      exact ⟨a, rfl, h⟩
    · rintro ⟨a', ha, h⟩
      rw [Except.ok.inj ha]
      exact h
  | error e =>
    constructor
    · intro h
      cases h
    · rintro ⟨a, ha, _⟩
      cases ha

/-- A script that does well against answers that keep a state, and another one behind it, which
goes on with the state that is left. -/
theorem run_bind_eq_ok_iff {answer : (r : R) → σ → A r × σ} {s : ExceptT ε (Script R A) α}
    {f : α → ExceptT ε (Script R A) β} {state : σ} {b : β} :
    ((s >>= f).run.run answer state).1 = .ok b ↔
      ∃ a state', s.run.run answer state = (.ok a, state')
        ∧ ((f a).run.run answer state').1 = .ok b := by
  rw [run_bind, run_andThen]
  generalize s.run.run answer state = outcome
  obtain ⟨a | a, state'⟩ := outcome
  · constructor
    · intro h
      cases h
    · rintro ⟨a', state'', ha, _⟩
      cases ha
  · constructor
    · intro h
      exact ⟨a, state', rfl, h⟩
    · rintro ⟨a', state'', ha, h⟩
      cases ha
      exact h

/-- The good results of a script that may fail and is followed by another one: both of them have
to do well. -/
theorem yields_bind_ok_iff {s : ExceptT ε (Script R A) α} {f : α → ExceptT ε (Script R A) β}
    {b : β} :
    (s >>= f).run.Yields (.ok b) ↔ ∃ a, s.run.Yields (.ok a) ∧ (f a).run.Yields (.ok b) := by
  rw [run_bind, yields_andThen_iff]
  constructor
  -- a failure of the first script is no good result of both
  · rintro ⟨a | a, ha, h⟩
    · cases h
    · exact ⟨a, ha, h⟩
  · rintro ⟨a, ha, h⟩
    exact ⟨.ok a, ha, h⟩

/-- **A run** relates its states as its answers do, one after another. -/
theorem related_run {Q : σ → σ → Prop} (refl : ∀ state, Q state state)
    (trans : ∀ {first second third}, Q first second → Q second third → Q first third)
    {answer : (r : R) → σ → A r × σ} (h : ∀ r state, Q state (answer r state).2)
    (s : Script R A α) : ∀ state, Q state (s.run answer state).2 := by
  induction s with
  | done a => exact refl
  | ask r k ih =>
    intro state
    exact trans (h r state) (ih (answer r state).1 (answer r state).2)

/-! ## §3. Requests. -/

/-- Every request that a script may make is one of those allowed. -/
inductive Asks (allowed : R → Prop) : Script R A α → Prop where
  | done (a : α) : Asks allowed (.done a)
  | ask {r : R} {k : A r → Script R A α} :
    allowed r → (∀ answer, Asks allowed (k answer)) → Asks allowed (.ask r k)

theorem Asks.request {allowed : R → Prop} {r : R} (h : allowed r) :
    Asks allowed (request r : Script R A (A r)) := .ask h fun answer => .done answer

/-- The requests of a script that is followed by another one. -/
theorem Asks.andThen {allowed : R → Prop} {s : Script R A α} {f : α → Script R A β}
    (hs : s.Asks allowed) (hf : ∀ a, (f a).Asks allowed) : (s.andThen f).Asks allowed := by
  induction hs with
  | done a => exact hf a
  | ask hr _ ih => exact .ask hr ih

/-- The requests of a script that may fail and is followed by another one. -/
theorem Asks.bind {allowed : R → Prop} {s : ExceptT ε (Script R A) α}
    {f : α → ExceptT ε (Script R A) β} (hs : s.run.Asks allowed)
    (hf : ∀ a, (f a).run.Asks allowed) : (s >>= f).run.Asks allowed := by
  apply Asks.andThen hs
  intro a
  cases a with
  | ok a => exact hf a
  | error e => exact .done _

end Script

end CardStore
