/-
  CardStore.Proofs.Context
  ────────────────────────
  **RUNS OF OPERATIONS, AND WHAT BECOMES OF TRANSACTIONS.**

  Operations run one after another on a context.  Whatever they do, a
  transaction that has ended stays ended: its number is never given away
  again, and nothing gives its connection back to it.

  Main statements:
    * `Action.run_bind_ok`, `Action.run_bind_error` — runs of one operation behind another.
    * `Context.Ended.later` — ended transactions stay ended.
    * `Action.Advances.bind` — operations that lead to later contexts, behind one another.
-/
import CardStore.Context
import CardStore.Proofs.Script

namespace CardStore

variable {σ α β : Type}

/-! ## §1. Runs. -/

namespace Action

theorem run_bind (act : Action σ α) (f : α → Action σ β) (c : Context σ) :
    (act >>= f).run c = match act.run c with
      | (.ok a, c) => (f a).run c
      | (.error e, c) => (.error e, c) := by
  rw [ExceptT.run_bind]
  show (StateT.bind act.run _ : StateM (Context σ) (Except Error β)) c = _
  unfold StateT.bind
  -- the answer is a pair that has to be taken apart before the binds reduce
  generalize act.run c = answer
  obtain ⟨r, c'⟩ := answer
  cases r with
  | ok a => rfl
  | error e => rfl

theorem run_bind_ok {act : Action σ α} {f : α → Action σ β} {c c' : Context σ} {a : α}
    (h : act.run c = (.ok a, c')) : (act >>= f).run c = (f a).run c' := by
  rw [run_bind, h]

theorem run_bind_error {act : Action σ α} {f : α → Action σ β} {c c' : Context σ} {e : Error}
    (h : act.run c = (.error e, c')) : (act >>= f).run c = (.error e, c') := by
  rw [run_bind, h]

/-- The good runs of one operation behind another: both of them do well. -/
theorem run_bind_eq_ok_iff {act : Action σ α} {f : α → Action σ β} {c c' : Context σ} {b : β} :
    (act >>= f).run c = (.ok b, c') ↔
      ∃ a c₁, act.run c = (.ok a, c₁) ∧ (f a).run c₁ = (.ok b, c') := by
  rw [run_bind]
  cases act.run c with
  | mk answer c₁ =>
    cases answer with
    | ok a =>
      constructor
      · intro h
        exact ⟨a, c₁, rfl, h⟩
      · rintro ⟨a', c₂, h, hf⟩
        rw [Prod.mk.injEq, Except.ok.injEq] at h
        rw [h.1, h.2]
        exact hf
    | error e =>
      constructor
      · intro h
        cases h
      · rintro ⟨a, c₂, h, _⟩
        cases h

/-- A run that does well, told by what is read off its answer. -/
theorem exists_run_of_map {act : Action σ α} {c : Context σ} {f : α → β} {b : β}
    (h : (act.run c).1.toOption.map f = some b) : ∃ a c', act.run c = (.ok a, c') ∧ f a = b := by
  cases hrun : act.run c with
  | mk answer c' =>
    rw [hrun] at h
    cases answer with
    | ok a => exact ⟨a, c', rfl, Option.some.inj h⟩
    | error e => cases h

theorem run_change (f : Context σ → α × Context σ) (c : Context σ) :
    (change f).run c = (.ok (f c).1, (f c).2) := rfl

theorem run_note (e : Event) (c : Context σ) : (note e).run c = (.ok (), c.note e) := rfl

theorem run_onBackend (f : σ → Except Error α × σ) (c : Context σ) :
    (onBackend f).run c = ((f c.backend).1, { c with backend := (f c.backend).2 }) := rfl

end Action

/-! ## §2. Transactions. -/

namespace Context

/-- A transaction that was begun and has ended. -/
def Ended (transaction : Nat) (c : Context σ) : Prop := c.transactions[transaction]? = some none

/-- One context after another: transactions are entered and left, and change in no other way. -/
inductive Later (c : Context σ) : Context σ → Prop where
  | refl : Later c c
  | keep {c' c'' : Context σ} : Later c c' → c''.transactions = c'.transactions → Later c c''
  | enter {c' : Context σ} (connection : Nat) :
    Later c c' → Later c (c'.enterTransaction connection).2
  | leave {c' : Context σ} (transaction : Nat) :
    Later c c' → Later c (c'.leaveTransaction transaction).2

theorem Later.trans {c c' c'' : Context σ} (h : c.Later c') (h' : c'.Later c'') : c.Later c'' := by
  induction h' with
  | refl => exact h
  | keep _ heq ih => exact .keep ih heq
  | enter connection _ ih => exact .enter connection ih
  | leave transaction _ ih => exact .leave transaction ih

theorem Later.of_transactions_eq {c c' : Context σ} (h : c'.transactions = c.transactions) :
    c.Later c' := .keep .refl h

theorem connectionOf?_enterTransaction (c : Context σ) (connection : Nat) :
    (c.enterTransaction connection).2.connectionOf? (c.enterTransaction connection).1
      = some connection := by
  show (c.transactions ++ [some connection])[c.transactions.length]?.join = some connection
  rw [List.getElem?_concat_length]
  rfl

theorem Ended.connectionOf? {transaction : Nat} {c : Context σ} (h : c.Ended transaction) :
    c.connectionOf? transaction = none := by
  show c.transactions[transaction]?.join = none
  rw [h]
  rfl

theorem ended_leaveTransaction {transaction connection : Nat} {c : Context σ}
    (h : c.connectionOf? transaction = some connection) :
    (c.leaveTransaction transaction).2.Ended transaction := by
  have hlt : transaction < c.transactions.length := by
    rcases Nat.lt_or_ge transaction c.transactions.length with hlt | hge
    · exact hlt
    · rw [Context.connectionOf?, List.getElem?_eq_none hge] at h
      cases h
  show (c.transactions.set transaction none)[transaction]? = some none
  rw [List.getElem?_set_self hlt]

/-- **Ended transactions stay ended.** -/
theorem Ended.later {transaction : Nat} {c c' : Context σ} (h : c.Ended transaction)
    (hlater : c.Later c') : c'.Ended transaction := by
  induction hlater with
  | refl => exact h
  | keep _ heq ih =>
    show _ = some none
    rw [heq]
    exact ih
  | @enter c' connection _ ih =>
    -- a new transaction comes behind all that were begun before
    obtain ⟨hlt, _⟩ := List.getElem?_eq_some_iff.mp ih
    show (c'.transactions ++ [some connection])[transaction]? = some none
    rw [List.getElem?_append_left hlt]
    exact ih
  | @leave c' other _ ih =>
    show (c'.transactions.set other none)[transaction]? = some none
    rw [List.getElem?_set]
    obtain ⟨hlt, _⟩ := List.getElem?_eq_some_iff.mp ih
    split
    -- whoever leaves once more leaves nothing behind
    · rename_i heq
      rw [if_pos (heq ▸ hlt)]
    · exact ih

end Context

/-! ## §3. Operations that lead to later contexts. -/

namespace Action

/-- An operation leads to a later context. -/
def Advances (act : Action σ α) : Prop := ∀ c : Context σ, c.Later (act.run c).2

theorem advances_pure (a : α) : (pure a : Action σ α).Advances := fun _ => .refl

theorem advances_throw (e : Error) : (throw e : Action σ α).Advances := fun _ => .refl

theorem advances_ofExcept (answer : Except Error α) :
    @Advances σ α (ExceptT.mk (pure answer)) := fun _ => .refl

theorem advances_get : (get : Action σ (Context σ)).Advances := fun _ => .refl

theorem Advances.bind {act : Action σ α} {f : α → Action σ β} (h : act.Advances)
    (hf : ∀ a, (f a).Advances) : (act >>= f).Advances := by
  intro c
  have hact : c.Later (act.run c).2 := h c
  rw [run_bind]
  cases hrun : act.run c with
  | mk r c' =>
    rw [hrun] at hact
    cases r with
    | ok a => exact hact.trans (hf a c')
    | error e => exact hact

theorem advances_change {f : Context σ → α × Context σ}
    (h : ∀ c, (f c).2.transactions = c.transactions) : (change f).Advances := by
  intro c
  exact .of_transactions_eq (h c)

theorem advances_note (e : Event) : (note e : Action σ Unit).Advances :=
  advances_change fun _ => rfl

theorem advances_noteAll (es : List Event) : (noteAll es : Action σ Unit).Advances :=
  advances_change fun _ => rfl

theorem advances_onBackend (f : σ → Except Error α × σ) : (onBackend f).Advances :=
  fun _ => .of_transactions_eq rfl

theorem advances_modify {f : Context σ → Context σ}
    (h : ∀ c, (f c).transactions = c.transactions) : (modify f : Action σ PUnit).Advances :=
  fun c => .of_transactions_eq (h c)

theorem Advances.tried {act : Action σ α} (h : act.Advances) : act.tried.Advances := h

/-- A script whose answers lead to later contexts leads to a later context. -/
theorem advances_script {R : Type} {A : R → Type} {answer : (r : R) → Context σ → A r × Context σ}
    (h : ∀ (r : R) (c : Context σ), c.Later (answer r c).2) (s : Script R A (Except Error α)) :
    @Advances σ α (ExceptT.mk fun c => s.run answer c) :=
  Script.related_run (Q := Context.Later) (fun _ => .refl) Context.Later.trans h s

end Action

end CardStore
