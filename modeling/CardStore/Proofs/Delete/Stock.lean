/-
  CardStore.Proofs.Delete.Stock
  ─────────────────────────────
  **WHAT A SERVER KEEPS OF A TABLE.**

  Each deletion of a transaction is dealt with in one of three ways.  It takes
  rows and is answered with their number; or it fails and leaves everything as
  it was; or it fails and the server rolls the whole transaction back, after
  which the table has all rows again that it had when the transaction began,
  and what is sent from then on counts at once.

  So deletions last that were done, unless the transaction is rolled back
  behind them.  What a table has in the end are the rows it had in the
  beginning that no deletion took which lasts.

  Main statements:
    * `Deleter.dealt_deleting_iff` — what can become of a statement.
    * `Deleter.mem_rows_iff` — what a table has in the end.
    * `Deleter.mem_lasting_of_reported` — reported deletions last if nothing is rolled back.
-/
import CardStore.Proofs.Delete.Subtree

namespace CardStore

open Sql (PreparedDelete RowFacts)

/-! ## §1. Tables in a transaction. -/

/-- A table that a transaction is open on. -/
structure Stock (ρ : Type) where
  rows : List ρ
  /-- What a rollback brings back, as long as there is a transaction. -/
  saved : Option (List ρ)
  deriving DecidableEq

/-- How a server deals with a deletion. -/
inductive Fate where
  /-- It takes rows. -/
  | done
  /-- It fails, and everything is as it was. -/
  | failed
  /-- It fails, and the transaction is rolled back. -/
  | undone
  deriving DecidableEq, Repr

variable {ρ : Type}

/-- **What becomes of a table** when one deletion is dealt with. -/
inductive Dealt (d : Sql.Dialect) (facts : ρ → RowFacts) :
    Fate → Exchange → Stock ρ → Stock ρ → Prop where
  | done {connection : Nat} {native : String} {params : List Value} {p : PreparedDelete}
    {o : Outcome} {s : Stock ρ} : PreparedDelete.ofText? d native = some p →
    o.affected = (s.rows.filter fun row => p.takes params (facts row)).length →
    Dealt d facts .done (.executed connection .transaction native params (.ok o)) s
      { s with rows := s.rows.filter fun row => !p.takes params (facts row) }
  | failed {connection : Nat} {native : String} {params : List Value} (e : Error) (s : Stock ρ) :
    Dealt d facts .failed (.executed connection .transaction native params (.error e)) s s
  | undone {connection : Nat} {native : String} {params : List Value} (e : Error)
    (rows before : List ρ) :
    Dealt d facts .undone (.executed connection .transaction native params (.error e))
      ⟨rows, some before⟩ ⟨before, none⟩

/-- Deletions are dealt with one after another. -/
inductive Served (d : Sql.Dialect) (facts : ρ → RowFacts) :
    List Fate → List Exchange → Stock ρ → Stock ρ → Prop where
  | nil (s : Stock ρ) : Served d facts [] [] s s
  | cons {fate : Fate} {fates : List Fate} {e : Exchange} {es : List Exchange}
    {s s₁ s₂ : Stock ρ} : Dealt d facts fate e s s₁ → Served d facts fates es s₁ s₂ →
    Served d facts (fate :: fates) (e :: es) s s₂

/-- **What lasts**: whatever was done and is not rolled back later. -/
def lasting {α : Type} : List Fate → List α → List α
  | .done :: fates, a :: as =>
    if .undone ∈ fates then lasting fates as else a :: lasting fates as
  | .failed :: fates, _ :: as => lasting fates as
  | .undone :: fates, _ :: as => lasting fates as
  | _, _ => []

/-- The rows that a table is left with but for deletions that last: what it had when the
transaction began if that is rolled back, and what it has otherwise. -/
def Stock.base (s : Stock ρ) (fates : List Fate) : List ρ :=
  if .undone ∈ fates then s.saved.getD [] else s.rows

/-! ## §2. One deletion. -/

namespace Deleter

variable {x : Deleter} {connection : Nat} {facts : ρ → RowFacts} {fate : Fate} {fates : List Fate}
  {sent : List (Value × Except Error Outcome)} {s s' : Stock ρ}

/-- Whether the deletion of a record takes a row. -/
def takes (x : Deleter) (id : Value) (row : RowFacts) : Bool :=
  (x.delete id).prepared.takes (x.delete id).params row

/-- **What can become of a statement.** -/
theorem dealt_deleting_iff (h : x.Named) {id : Value} {answer : Except Error Outcome} :
    Dealt x.dialect facts fate (x.deleting connection (id, answer)) s s'
      ↔ (fate = .done ∧ (∃ o, answer = .ok o
            ∧ o.affected = (s.rows.filter fun row => x.takes id (facts row)).length)
          ∧ s' = { s with rows := s.rows.filter fun row => !x.takes id (facts row) })
        ∨ (fate = .failed ∧ (∃ e, answer = .error e) ∧ s' = s)
        ∨ (fate = .undone ∧ (∃ e, answer = .error e)
          ∧ ∃ rows, s.saved = some rows ∧ s' = ⟨rows, none⟩) := by
  have hread := h.ofText?_render id
  constructor
  · intro hdealt
    cases hdealt with
    | done hp hcount =>
      obtain rfl := Option.some.inj (hread.symm.trans hp)
      exact .inl ⟨rfl, ⟨_, rfl, hcount⟩, rfl⟩
    | failed e => exact .inr (.inl ⟨rfl, ⟨e, rfl⟩, rfl⟩)
    | undone e rows before => exact .inr (.inr ⟨rfl, ⟨e, rfl⟩, before, rfl, rfl⟩)
  · rintro (⟨rfl, ⟨o, rfl, hcount⟩, rfl⟩ | ⟨rfl, ⟨e, rfl⟩, rfl⟩ | ⟨rfl, ⟨e, rfl⟩, before, hs, rfl⟩)
    · exact .done hread hcount
    · exact .failed e _
    · obtain ⟨rows, saved⟩ := s
      obtain rfl : saved = some before := hs
      exact .undone e rows before

/-- A deletion takes the row of its identifier. -/
theorem takes_of_hasId {id : Value} {row : RowFacts} (h : row.hasId id = true) :
    x.takes id row = true := Sql.Delete.takes_of_hasId (x := x.delete id) h

/-! ## §3. All deletions. -/

/-- A transaction is rolled back once at most. -/
theorem not_mem_undone_of_saved (hx : x.Named)
    (h : Served x.dialect facts fates (sent.map (x.deleting connection)) s s')
    (hs : s.saved = none) : .undone ∉ fates := by
  induction sent generalizing fates s with
  | nil =>
    cases h
    exact List.not_mem_nil
  | cons _ sent ih =>
    cases h with
    | cons hdealt hserved =>
      rw [List.mem_cons, not_or]
      rcases (dealt_deleting_iff hx).1 hdealt with
        ⟨rfl, _, rfl⟩ | ⟨rfl, _, rfl⟩ | ⟨_, _, _, hsome, _⟩
      · exact ⟨nofun, ih hserved hs⟩
      · exact ⟨nofun, ih hserved hs⟩
      · rw [hs] at hsome
        cases hsome

/-- **What a table has in the end.** -/
theorem mem_rows_iff (hx : x.Named)
    (h : Served x.dialect facts fates (sent.map (x.deleting connection)) s s') (row : ρ) :
    row ∈ s'.rows ↔ row ∈ s.base fates
      ∧ ∀ id ∈ lasting fates (sent.map Prod.fst), x.takes id (facts row) = false := by
  induction sent generalizing fates s with
  | nil =>
    cases h
    simp [Stock.base, lasting]
  | cons first sent ih =>
    obtain ⟨id, answer⟩ := first
    cases h with
    | @cons fate fates _ _ _ s₁ _ hdealt hserved =>
      have hrest := ih hserved
      rw [List.map_cons]
      rcases (dealt_deleting_iff hx).1 hdealt with
        ⟨rfl, _, rfl⟩ | ⟨rfl, _, rfl⟩ | ⟨rfl, _, before, hbefore, rfl⟩
      · -- what is done counts exactly if it is not rolled back later
        by_cases hundone : .undone ∈ fates
        · simpa [Stock.base, lasting, hundone] using hrest
        · simp only [Stock.base, lasting, hundone, List.mem_cons, reduceCtorEq, false_or, if_false,
            forall_eq_or_imp, List.mem_filter, Bool.not_eq_true'] at hrest ⊢
          rw [hrest, and_assoc]
      · simpa [Stock.base, lasting] using hrest
      · have hnever : .undone ∉ fates := not_mem_undone_of_saved hx hserved rfl
        simpa [Stock.base, lasting, hbefore, hnever] using hrest

/-- **What is reported lasts** if nothing is rolled back. -/
theorem mem_lasting_of_reported (hx : x.Named)
    (h : Served x.dialect facts fates (sent.map (x.deleting connection)) s s')
    (hkept : .undone ∉ fates) : ∀ id ∈ reported sent, id ∈ lasting fates (sent.map Prod.fst) := by
  induction sent generalizing fates s with
  | nil => exact fun _ hid => absurd hid List.not_mem_nil
  | cons first sent ih =>
    obtain ⟨first, answer⟩ := first
    intro id hid
    rw [reported_cons] at hid
    cases h with
    | cons hdealt hserved =>
      rw [List.mem_cons, not_or] at hkept
      have hrest := ih hserved hkept.2
      rcases (dealt_deleting_iff hx).1 hdealt with
        ⟨rfl, _, rfl⟩ | ⟨rfl, ⟨e, rfl⟩, rfl⟩ | ⟨rfl, _, _, _, _⟩
      · rw [List.map_cons, lasting, if_neg hkept.2, List.mem_cons]
        split at hid
        · exact (List.mem_cons.1 hid).imp_right (hrest id)
        · exact .inr (hrest id hid)
      · exact hrest id hid
      · exact absurd rfl hkept.1

end Deleter

end CardStore
