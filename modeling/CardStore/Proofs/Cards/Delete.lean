/-
  CardStore.Proofs.Cards.Delete
  ─────────────────────────────
  **WHAT A DELETION REPORTS, AND WHAT IS GONE.**

  All records of a deletion are deleted in one transaction of the card's
  database, and a deletion that answers identifiers has been committed.  The
  identifiers are those whose statement took a row at its time.  Their rows
  are gone if no statement makes the server roll back the transaction.  If one
  does, the work does not notice and goes on, and the statements before it are
  reported though they do not last.

      DELETE … ID='P1'    1 row                       reported
      DELETE … ID='P2'    deadlock, all rolled back   left out
      COMMIT                                          answer: P1

  Main statements:
    * `Cards.sent_delete` — what a backend sees of a deletion, and what comes of it.
    * `Cards.leaves_delete` — when the rows that are reported are gone.
-/
import CardStore.Proofs.Cards.Write
import CardStore.Proofs.Delete.Stock

namespace CardStore.Cards

open Deleter (deleting reported)
open Sql (RowFacts)

variable {σ : Type}

/-! ## §1. What a deletion sends. -/

/-- **What a backend sees of a deletion** on a connection, and what comes of it. -/
inductive Deleted (x : Deleter) (connection : Nat) (ids : List Value) :
    List Exchange → Except Error (List Value) → Prop where
  /-- Nothing follows a transaction that cannot be begun. -/
  | refused (e : Error) : Deleted x connection ids [.begun connection (.error e)] (.error e)
  /-- All identifiers get their statement, and whatever is answered is committed. -/
  | committed {sent : List (Value × Except Error Outcome)} (answer : Except Error Unit) :
    sent.map Prod.fst = ids →
    Deleted x connection ids
      (.begun connection (.ok ()) :: sent.map (x.deleting connection)
        ++ [.committed connection answer])
      (answer.map fun _ => reported sent)

/-- A deletion that answers was committed. -/
theorem Deleted.of_ok {x : Deleter} {connection : Nat} {ids : List Value} {es : List Exchange}
    {gone : List Value} (h : Deleted x connection ids es (.ok gone)) :
    ∃ sent, sent.map Prod.fst = ids
      ∧ es = .begun connection (.ok ()) :: sent.map (x.deleting connection)
        ++ [.committed connection (.ok ())]
      ∧ gone = reported sent := by
  generalize houtcome : (Except.ok gone : Except Error (List Value)) = outcome at h
  cases h with
  | refused e => cases houtcome
  | @committed sent answer hsent =>
    cases answer with
    | error e => cases houtcome
    | ok u => exact ⟨sent, hsent, rfl, Except.ok.inj houtcome⟩

/-- A transaction in which records are deleted. -/
theorem deleted_trans (b : Backend σ) (db : Database) (card : Card) (settings : WriteSettings)
    (scope : DeleteScope) (ids : List Value) (c : Context (σ × List Exchange)) :
    let deleted := (Database.trans b.recorded db fun x =>
      Deleter.deleteRecords ⟨card, settings, x.dialect, scope⟩ ids).run c
    ∃ pooling es, deleted.2.backend.2 = c.backend.2 ++ pooling ++ es
      ∧ (∀ e ∈ pooling, e.IsPooling)
      ∧ match ((Database.borrow b.recorded db.name).run c).1 with
        | .error e => es = [] ∧ deleted.1 = .error e
        | .ok lent =>
          Deleted ⟨card, settings, db.dialect, scope⟩ lent.connection ids es deleted.1 := by
  intro deleted
  refine Database.seen_trans
    (P := fun connection => Deleted ⟨card, settings, db.dialect, scope⟩ connection ids) b db
    (fun x => Deleter.deleteRecords ⟨card, settings, x.dialect, scope⟩ ids) c
    (fun _ e => .refused e) ?_
  intro connection es answer htransacted
  obtain ⟨sent, committed, hsent, rfl, rfl⟩ := Deleter.sent_of_transacted
    (x := ⟨card, settings, db.dialect, scope⟩) htransacted
  exact .committed committed hsent

/-- Records of a card whose database is known are deleted there. -/
theorem run_delete_of_found {b : Backend σ} {name : String} {ids : List Value}
    {scope : DeleteScope} {card : SoundCard} {c c₁ : Context σ} {db : Database}
    (h : (load b name).run c = (.ok card, c₁)) (hdb : c₁.database card.database = .ok db) :
    (delete b name ids scope).run c = (Database.trans b db fun x =>
      Deleter.deleteRecords ⟨card.toCard, c₁.settings, x.dialect, scope⟩ ids).run c₁ := by
  have hsettings : (get : Action σ (Context σ)).run c₁ = (.ok c₁, c₁) := rfl
  calc (delete b name ids scope).run c
    _ = _ := Action.run_bind_ok h
    _ = _ := Action.run_bind_ok (Registry.run_find hdb)
    _ = _ := Action.run_bind_ok hsettings

/-- Records of a card whose database is not known are not deleted. -/
theorem run_delete_of_missing {b : Backend σ} {name : String} {ids : List Value}
    {scope : DeleteScope} {card : SoundCard} {c c₁ : Context σ} {e : Error}
    (h : (load b name).run c = (.ok card, c₁)) (hdb : c₁.database card.database = .error e) :
    (delete b name ids scope).run c = (.error e, c₁) := by
  exact (Action.run_bind_ok h).trans (Action.run_bind_error (Registry.run_find hdb))

/-- **What a backend sees of the deletion of records of a card**, and what comes of it. -/
theorem sent_delete (b : Backend σ) (name : String) (ids : List Value) (scope : DeleteScope)
    (card : SoundCard) (c c₁ : Context (σ × List Exchange))
    (h : (load b.recorded name).run c = (.ok card, c₁)) :
    let deleted := (delete b.recorded name ids scope).run c
    match c₁.database card.database with
    | .error e => deleted = (.error e, c₁)
    | .ok db => ∃ pooling es, deleted.2.backend.2 = c₁.backend.2 ++ pooling ++ es
      ∧ (∀ e ∈ pooling, e.IsPooling)
      ∧ match ((Database.borrow b.recorded db.name).run c₁).1 with
        | .error e => es = [] ∧ deleted.1 = .error e
        | .ok lent => Deleted ⟨card.toCard, c₁.settings, db.dialect, scope⟩ lent.connection ids es
          deleted.1 := by
  intro deleted
  cases hdb : c₁.database card.database with
  | error e => exact run_delete_of_missing h hdb
  | ok db =>
    have hrun : deleted = _ := run_delete_of_found h hdb
    rw [hrun]
    exact deleted_trans b db card.toCard c₁.settings scope ids c₁

/-! ## §2. What is gone. -/

/-- No row of a table has one of these identifiers. -/
def Gone {ρ : Type} (facts : ρ → RowFacts) (ids : List Value) (rows : List ρ) : Prop :=
  ∀ id ∈ ids, ∀ row ∈ rows, (facts row).hasId id = false

/-- What a deletion makes of a table whose server deals with its statements in certain ways. -/
structure Leaves {ρ : Type} (x : Deleter) (facts : ρ → RowFacts) (ids reported : List Value)
    (fates : List Fate) (rows left : List ρ) : Prop where
  /-- What is left are the rows that no deletion took which lasts. -/
  mem_iff : ∀ row, row ∈ left
    ↔ row ∈ rows ∧ ∀ id ∈ lasting fates ids, x.takes id (facts row) = false
  /-- What is reported is gone if nothing was rolled back. -/
  gone : .undone ∉ fates → Gone facts reported left
  /-- It is gone in any case exactly if deletions that last took all rows that are reported. -/
  gone_iff : Gone facts reported left ↔ ∀ id ∈ reported, ∀ row ∈ rows,
    (facts row).hasId id = true → ∃ id' ∈ lasting fates ids, x.takes id' (facts row) = true

/-- What the statements of a deletion make of a table. -/
theorem leaves_of_served {ρ : Type} {x : Deleter} (hx : x.Named) {connection : Nat}
    {facts : ρ → RowFacts} {fates : List Fate} {sent : List (Value × Except Error Outcome)}
    {rows : List ρ} {s : Stock ρ}
    (h : Served x.dialect facts fates (sent.map (x.deleting connection)) ⟨rows, some rows⟩ s) :
    Leaves x facts (sent.map Prod.fst) (reported sent) fates rows s.rows := by
  have hrows (row : ρ) : row ∈ s.rows ↔ row ∈ rows
      ∧ ∀ id ∈ lasting fates (sent.map Prod.fst), x.takes id (facts row) = false := by
    rw [Deleter.mem_rows_iff hx h, Stock.base, Option.getD_some, ite_self]
  refine ⟨hrows, ?_, ?_⟩
  · intro hkept id hid row hrow
    have htaken := ((hrows row).1 hrow).2 id (Deleter.mem_lasting_of_reported hx h hkept id hid)
    by_contra hhas
    rw [Deleter.takes_of_hasId (eq_true_of_ne_false hhas)] at htaken
    cases htaken
  · constructor
    · intro hgone id hid row hrow hhas
      by_contra hnone
      have hleft : row ∈ s.rows := by
        refine (hrows row).2 ⟨hrow, ?_⟩
        intro id' hid'
        by_contra htaken
        exact hnone ⟨id', hid', eq_true_of_ne_false htaken⟩
      rw [hgone id hid row hleft] at hhas
      cases hhas
    · intro htaken id hid row hleft
      obtain ⟨hrow, hnot⟩ := (hrows row).1 hleft
      by_contra hhas
      obtain ⟨id', hid', htakes⟩ := htaken id hid row hrow (eq_true_of_ne_false hhas)
      rw [hnot id' hid'] at htakes
      cases htakes

/-- **When the rows that are reported are gone.**  A deletion that answers has sent one statement
for each identifier in one transaction and committed that; and however the server deals with these
statements, the rows with reported identifiers are gone if it does not roll back the transaction,
and otherwise exactly if deletions behind the rollback took them. -/
theorem leaves_delete (b : Backend σ) {name : String} {ids : List Value} {scope : DeleteScope}
    {card : SoundCard} {c c₁ : Context (σ × List Exchange)} {gone : List Value}
    (hload : (load b.recorded name).run c = (.ok card, c₁))
    (hcheck : scope = .subtree → c₁.settings.check = .ok ())
    (hgone : ((delete b.recorded name ids scope).run c).1 = .ok gone) :
    ∃ d pooling connection sent,
      let x : Deleter := ⟨card.toCard, c₁.settings, d, scope⟩
      ((delete b.recorded name ids scope).run c).2.backend.2 = c₁.backend.2 ++ pooling
          ++ (.begun connection (.ok ()) :: sent.map (x.deleting connection)
            ++ [.committed connection (.ok ())])
        ∧ (∀ e ∈ pooling, e.IsPooling) ∧ sent.map Prod.fst = ids ∧ gone = reported sent
        ∧ ∀ {ρ : Type} (facts : ρ → RowFacts) (fates : List Fate) (rows : List ρ) (s : Stock ρ),
          Served d facts fates (sent.map (x.deleting connection)) ⟨rows, some rows⟩ s →
            Leaves x facts ids gone fates rows s.rows := by
  have hsent := sent_delete b name ids scope card c c₁ hload
  dsimp only at hsent
  cases hdb : c₁.database card.database with
  | error e =>
    rw [hdb] at hsent
    rw [hsent] at hgone
    cases hgone
  | ok db =>
    rw [hdb] at hsent
    obtain ⟨pooling, es, htrace, hpooling, hcases⟩ := hsent
    rw [hgone] at hcases
    cases hborrow : ((Database.borrow b.recorded db.name).run c₁).1 with
    | error e =>
      rw [hborrow] at hcases
      cases hcases.2
    | ok lent =>
      rw [hborrow] at hcases
      obtain ⟨sent, hids, hes, rfl⟩ := Deleted.of_ok hcases
      refine ⟨db.dialect, pooling, lent.connection, sent, ?_, hpooling, hids, rfl, ?_⟩
      · rw [htrace, hes]
      · intro ρ facts fates rows s hserved
        rw [← hids]
        exact leaves_of_served (Deleter.named_of_check hcheck card db.dialect) hserved

/-! ## §3. A deadlock. -/

/-- The error of a statement that a server gives up because of a deadlock. -/
def deadlock : Error :=
  .statement "Deadlock found when trying to get lock; try restarting transaction" none none

/-- A backend of people that are known by their identifiers.  The deletion of the second one ends in
a deadlock, and all that was done before is rolled back. -/
def deadlocking : Backend (Stock String) where
  connect _ s := (.ok 7, s)
  query _ _ _ _ s := (.ok .empty, s)
  execute _ _ _ params s :=
    match params with
    | [.string id] =>
      if id = "P2" then (.error deadlock, ⟨s.saved.getD s.rows, none⟩)
      else
        (.ok (.ofAffected (s.rows.filter (· = id)).length),
          { s with rows := s.rows.filter (· ≠ id) })
    | _ => (.ok (.ofAffected 0), s)
  begin _ s := (.ok (), { s with saved := some s.rows })
  commit _ s := (.ok (), { s with saved := none })
  rollback _ s := (.ok (), ⟨s.saved.getD s.rows, none⟩)
  isValid _ s := (true, s)
  close _ s := (.ok (), s)

/-- A context with the cards of people and departments, and two people. -/
def peopleContext : Context (Stock String × List Exchange) :=
  { Context.ofBackend (⟨["P1", "P2"], none⟩, []) default with
    databases := OrderedMap.empty.set "default" ⟨"default", .mysql, .ofConfig .standard⟩
    cards := .ofSource (.ofCards staffCards) }

/-- What a row says of which the identifier is known. -/
def idFacts (id : String) : RowFacts :=
  .ofTexts .mysql fun column => if column = idPath then some id else none

/-- The first person alone is reported, and gone from every table whose server keeps the
transaction. -/
theorem gone_delete_people :
    let deleted := (delete deadlocking.recorded "person" [.string "P1"] .row).run peopleContext
    deleted.1 = .ok [.string "P1"]
      ∧ ∃ d connection, ∃ sent : List (Value × Except Error Outcome),
      sent.map Prod.fst = [.string "P1"]
        ∧ ∀ (fates : List Fate) (rows : List String) (s : Stock String),
          Served d idFacts fates
              (sent.map (deleting ⟨personCard.toCard, .standard, d, .row⟩ connection))
              ⟨rows, some rows⟩ s →
            .undone ∉ fates → Gone idFacts [.string "P1"] s.rows := by
  intro deleted
  have hanswer : deleted.1 = .ok [.string "P1"] := rfl
  obtain ⟨c₁, hload, hsettings⟩ : ∃ c₁, (load deadlocking.recorded "person").run peopleContext
      = (.ok personCard, c₁) ∧ c₁.settings = .standard := ⟨_, rfl, rfl⟩
  have hcheck : c₁.settings.check = .ok () := hsettings ▸ check_standard
  obtain ⟨d, _, connection, sent, _, _, hids, _, hleaves⟩ :=
    leaves_delete deadlocking hload (fun _ => hcheck) hanswer
  rw [hsettings] at hleaves
  refine ⟨hanswer, d, connection, sent, hids, ?_⟩
  intro fates rows s hserved
  exact (hleaves idFacts fates rows s hserved).gone

/-- The first person is reported though the table has both of them in the end. -/
theorem not_gone_deadlocked :
    let x : Deleter := ⟨personCard.toCard, .standard, .mysql, .row⟩
    let deleted :=
      (delete deadlocking.recorded "person" [.string "P1", .string "P2"] .row).run peopleContext
    let sent : List (Value × Except Error Outcome) :=
      [(.string "P1", .ok (.ofAffected 1)), (.string "P2", .error deadlock)]
    deleted.1 = .ok [.string "P1"]
      ∧ deleted.2.backend.2 = [.connected "default" (.ok 7), .begun 7 (.ok ())]
        ++ sent.map (x.deleting 7) ++ [.committed 7 (.ok ())]
      ∧ Served .mysql idFacts [.done, .undone] (sent.map (x.deleting 7))
        ⟨["P1", "P2"], some ["P1", "P2"]⟩ ⟨["P1", "P2"], none⟩
      ∧ deleted.2.backend.1.rows = ["P1", "P2"]
      ∧ ¬ Gone idFacts [.string "P1"] deleted.2.backend.1.rows := by
  intro x deleted sent
  have hanswer : deleted.1 = .ok [.string "P1"] := rfl
  have htrace : deleted.2.backend.2 = [.connected "default" (.ok 7), .begun 7 (.ok ())]
      ++ sent.map (x.deleting 7) ++ [.committed 7 (.ok ())] := rfl
  have hrows : deleted.2.backend.1.rows = ["P1", "P2"] := rfl
  have hnamed : x.Named := Deleter.named_of_check (fun _ => check_standard) personCard .mysql
  refine ⟨hanswer, htrace, ?_, hrows, ?_⟩
  · have hfirst : Dealt .mysql idFacts .done (x.deleting 7 (.string "P1", .ok (.ofAffected 1)))
        ⟨["P1", "P2"], some ["P1", "P2"]⟩ ⟨["P2"], some ["P1", "P2"]⟩ :=
      (Deleter.dealt_deleting_iff hnamed).2
        (.inl ⟨rfl, ⟨_, rfl, by decide +kernel⟩, by decide +kernel⟩)
    have hsecond : Dealt .mysql idFacts .undone (x.deleting 7 (.string "P2", .error deadlock))
        ⟨["P2"], some ["P1", "P2"]⟩ ⟨["P1", "P2"], none⟩ :=
      (Deleter.dealt_deleting_iff hnamed).2 (.inr (.inr ⟨rfl, ⟨_, rfl⟩, _, rfl, rfl⟩))
    exact .cons hfirst (.cons hsecond (.nil _))
  · rw [hrows]
    intro hgone
    exact absurd (hgone _ (List.mem_singleton_self _) "P1" (by decide)) (by decide +kernel)

end CardStore.Cards
