/-
  CardStore.Proofs.Work
  ─────────────────────
  **WHAT A UNIT OF WORK SENDS.**

  A unit of work that is done on a connection is a dialogue: the statements
  it sends, each with its answer, what comes of it, and how far the new
  identifiers have been used up.  The dialogue of one script behind another
  is taken apart at the place where they meet, and that of a computation that
  may fail ends where it fails.

  Main statements:
    * `dialogue_andThen_iff` — one script behind another.
    * `dialogue_bind_iff` — one computation behind another.
-/
import CardStore.Proofs.Backend
import CardStore.Proofs.Script
import CardStore.Sql.Dialect
import CardStore.Work
import CardStore.Write.FreshId

namespace CardStore.Work

variable {α β ρ : Type}

/-! ## §1. Dialogues. -/

/-- **A dialogue** on a connection: the statements of a script with their answers, its result, and
the identifiers before and after it. -/
inductive Dialogue (d : Sql.Dialect) (connection : Nat) :
    Script Request Answer ρ → IdGenerator → List Exchange → ρ → IdGenerator → Prop where
  | done (r : ρ) (ids : IdGenerator) : Dialogue d connection (.done r) ids [] r ids
  | query {sql : String} {params : List Value} {k : Answer (.query sql params) → Script _ _ ρ}
    {ids ids' : IdGenerator} {es : List Exchange} {r : ρ} (answer : Except Error RowSet) :
    Dialogue d connection (k answer) ids es r ids' →
    Dialogue d connection (.ask (.query sql params) k) ids
      (.queried connection .transaction (d.render sql) params answer :: es) r ids'
  | execute {sql : String} {params : List Value} {k : Answer (.execute sql params) → Script _ _ ρ}
    {ids ids' : IdGenerator} {es : List Exchange} {r : ρ} (answer : Except Error Outcome) :
    Dialogue d connection (k answer) ids es r ids' →
    Dialogue d connection (.ask (.execute sql params) k) ids
      (.executed connection .transaction (d.render sql) params answer :: es) r ids'
  | freshId {k : Answer .freshId → Script _ _ ρ} {ids ids' : IdGenerator} {es : List Exchange}
    {r : ρ} : Dialogue d connection (k ids.next.1) ids.next.2 es r ids' →
    Dialogue d connection (.ask .freshId k) ids es r ids'
  | note {e : Event} {k : Answer (.note e) → Script _ _ ρ} {ids ids' : IdGenerator}
    {es : List Exchange} {r : ρ} : Dialogue d connection (k ()) ids es r ids' →
    Dialogue d connection (.ask (.note e) k) ids es r ids'

variable {d : Sql.Dialect} {connection : Nat} {ids ids' : IdGenerator} {es : List Exchange}

theorem dialogue_done_iff {r r' : ρ} :
    Dialogue d connection (.done r) ids es r' ids' ↔ es = [] ∧ r' = r ∧ ids' = ids := by
  constructor
  · intro h
    cases h
    exact ⟨rfl, rfl, rfl⟩
  · rintro ⟨rfl, rfl, rfl⟩
    exact .done _ _

/-- **One script behind another.** -/
theorem dialogue_andThen_iff {s : Script Request Answer α} {f : α → Script Request Answer ρ}
    {r : ρ} :
    Dialogue d connection (s.andThen f) ids es r ids' ↔
      ∃ es₁ es₂ a ids₁, Dialogue d connection s ids es₁ a ids₁
        ∧ Dialogue d connection (f a) ids₁ es₂ r ids' ∧ es = es₁ ++ es₂ := by
  constructor
  · intro h
    -- the induction is on the first script; what it sends comes first
    induction s generalizing ids es with
    | done a => exact ⟨[], es, a, ids, .done a ids, h, rfl⟩
    | ask req k ih =>
      rw [Script.andThen] at h
      cases h with
      | query answer h =>
        obtain ⟨es₁, es₂, a, ids₁, hfirst, hsecond, rfl⟩ := ih _ h
        exact ⟨_ :: es₁, es₂, a, ids₁, .query answer hfirst, hsecond, rfl⟩
      | execute answer h =>
        obtain ⟨es₁, es₂, a, ids₁, hfirst, hsecond, rfl⟩ := ih _ h
        exact ⟨_ :: es₁, es₂, a, ids₁, .execute answer hfirst, hsecond, rfl⟩
      | freshId h =>
        obtain ⟨es₁, es₂, a, ids₁, hfirst, hsecond, rfl⟩ := ih _ h
        exact ⟨es₁, es₂, a, ids₁, .freshId hfirst, hsecond, rfl⟩
      | note h =>
        obtain ⟨es₁, es₂, a, ids₁, hfirst, hsecond, rfl⟩ := ih _ h
        exact ⟨es₁, es₂, a, ids₁, .note hfirst, hsecond, rfl⟩
  · rintro ⟨es₁, es₂, a, ids₁, hfirst, hsecond, rfl⟩
    induction hfirst with
    | done a ids => exact hsecond
    | query answer _ ih => exact .query answer (ih hsecond)
    | execute answer _ ih => exact .execute answer (ih hsecond)
    | freshId _ ih => exact .freshId (ih hsecond)
    | note _ ih => exact .note (ih hsecond)

/-! ## §2. Computations that may fail. -/

/-- **One computation behind another**: the first one fails, or both are done. -/
theorem dialogue_bind_iff {work : Work α} {f : α → Work β} {outcome : Except Error β} :
    Dialogue d connection (work >>= f).run ids es outcome ids' ↔
      (∃ e, Dialogue d connection work.run ids es (.error e) ids' ∧ outcome = .error e)
        ∨ ∃ es₁ es₂ a ids₁, Dialogue d connection work.run ids es₁ (.ok a) ids₁
          ∧ Dialogue d connection (f a).run ids₁ es₂ outcome ids' ∧ es = es₁ ++ es₂ := by
  rw [Script.run_bind, dialogue_andThen_iff]
  constructor
  · rintro ⟨es₁, es₂, a | a, ids₁, hfirst, hsecond, rfl⟩
    · obtain ⟨rfl, rfl, rfl⟩ := dialogue_done_iff.1 hsecond
      exact .inl ⟨a, by rw [List.append_nil]; exact hfirst, rfl⟩
    · exact .inr ⟨es₁, es₂, a, ids₁, hfirst, hsecond, rfl⟩
  · rintro (⟨e, hfirst, rfl⟩ | ⟨es₁, es₂, a, ids₁, hfirst, hsecond, rfl⟩)
    · exact ⟨es, [], .error e, ids', hfirst, .done _ _, (List.append_nil es).symm⟩
    · exact ⟨es₁, es₂, .ok a, ids₁, hfirst, hsecond, rfl⟩

theorem dialogue_pure_iff {a : α} {outcome : Except Error α} :
    Dialogue d connection (pure a : Work α).run ids es outcome ids' ↔
      es = [] ∧ outcome = .ok a ∧ ids' = ids := dialogue_done_iff

/-- A statement that changes data is one exchange. -/
theorem dialogue_execute_iff {sql : String} {params : List Value}
    {outcome : Except Error Outcome} :
    Dialogue d connection (execute sql params).run ids es outcome ids' ↔
      es = [.executed connection .transaction (d.render sql) params outcome] ∧ ids' = ids := by
  constructor
  · intro h
    cases h with
    | execute answer h =>
      cases h
      exact ⟨rfl, rfl⟩
  · rintro ⟨rfl, rfl⟩
    exact .execute outcome (.done _ _)

/-- A statement that may fail is one exchange, and work goes on with its answer. -/
theorem dialogue_tryExecute_bind_iff {sql : String} {params : List Value}
    {f : Except Error Outcome → Work α} {outcome : Except Error α} :
    Dialogue d connection (tryExecute sql params >>= f).run ids es outcome ids' ↔
      ∃ answer es', Dialogue d connection (f answer).run ids es' outcome ids'
        ∧ es = .executed connection .transaction (d.render sql) params answer :: es' := by
  constructor
  · intro h
    cases h with
    | execute answer h => exact ⟨answer, _, h, rfl⟩
  · rintro ⟨answer, es', h, rfl⟩
    exact .execute answer h

/-- A new identifier is the next one. -/
theorem dialogue_freshId_bind_iff {f : String → Work α} {outcome : Except Error α} :
    Dialogue d connection (freshId >>= f).run ids es outcome ids' ↔
      Dialogue d connection (f ids.next.1).run ids.next.2 es outcome ids' := by
  constructor
  · intro h
    cases h with
    | freshId h => exact h
  · exact .freshId

/-- Notes are not seen by the backend. -/
theorem dialogue_note_bind_iff {e : Event} {f : Unit → Work α} {outcome : Except Error α} :
    Dialogue d connection (note e >>= f).run ids es outcome ids' ↔
      Dialogue d connection (f ()).run ids es outcome ids' := by
  constructor
  · intro h
    cases h with
    | note h => exact h
  · exact .note

end CardStore.Work
