/-
  CardStore.Proofs.Cards.BestEffort
  ─────────────────────────────────
  **A DELETION TRIES EVERY IDENTIFIER.**

  One text is sent for every identifier of a deletion, in the order of the
  list and as often as the list has it.  No answer ends the work or makes it
  fail: an identifier is left out of the result if its statement took no row
  or failed, and the next one gets its statement all the same.  So work on a
  deletion always succeeds, and its transaction is never rolled back.

      DELETE … ID='P1'    1 row        P1
      DELETE … ID='P1'    0 rows
      DELETE … ID='P2'    error
      DELETE … ID='P3'    2 rows       P3
      COMMIT                           P1, P3

  Main statements:
    * `Deleter.dialogue_deleteRecords_iff` — the dialogues of a deletion, one for all answers.
    * `Cards.Deleted.not_rolledBack` — nothing is rolled back.
    * `Cards.tries_all` — a deletion tries every identifier, and is committed.
-/
import CardStore.Proofs.Cards.Delete

namespace CardStore

/-! ## §1. What is sent. -/

/-- The values that are bound for an identifier. -/
def DeleteScope.bound : DeleteScope → Value → List Value
  | .row, id => [id]
  | .subtree, id => [id, id]

namespace Deleter

variable (x : Deleter) (connection : Nat)

/-- The canonical text of every deletion, which has no identifier in it. -/
def canonical : String :=
  "DELETE FROM " ++ x.card.table ++ " WHERE " ++ idPath ++ "=?" ++ (match x.scope with
    | .row => ""
    | .subtree => " OR " ++ x.settings.pathColumn ++ " LIKE " ++ x.dialect.containsPattern)

theorem text_delete (id : Value) : (x.delete id).text x.dialect = x.canonical := by
  obtain ⟨card, settings, d, scope⟩ := x
  cases scope <;> rfl

theorem params_delete (id : Value) : (x.delete id).params = x.scope.bound id := by
  obtain ⟨card, settings, d, scope⟩ := x
  cases scope <;> rfl

/-- **What is sent for an identifier**: one text for all of them, and the identifier bound. -/
theorem deleting_eq (sent : Value × Except Error Outcome) : x.deleting connection sent
    = .executed connection .transaction (x.dialect.render x.canonical) (x.scope.bound sent.1)
      sent.2 := by
  rw [deleting, text_delete, params_delete]

/-! ## §2. All answers. -/

variable {x connection}

/-- One identifier gets its statement, whatever the answer is. -/
theorem dialogue_tryDelete (id : Value) (answer : Except Error Outcome) (ids : IdGenerator) :
    Work.Dialogue x.dialect connection (x.tryDelete id).run ids
      [x.deleting connection (id, answer)] (.ok (tookRow answer)) ids := by
  refine Work.dialogue_tryExecute_bind_iff.2 ⟨answer, [], ?_, rfl⟩
  -- an error is told to the log and to nobody else
  cases answer with
  | ok o =>
    dsimp only
    split
    · rename_i htook
      exact Work.dialogue_pure_iff.2 ⟨rfl, by rw [tookRow, decide_eq_true htook], rfl⟩
    · rename_i hmissed
      refine Work.dialogue_note_bind_iff.2 (Work.dialogue_pure_iff.2 ⟨rfl, ?_, rfl⟩)
      rw [tookRow, decide_eq_false hmissed]
  | error e => exact Work.dialogue_note_bind_iff.2 (Work.dialogue_pure_iff.2 ⟨rfl, rfl, rfl⟩)

/-- All identifiers get their statement, whatever the answers are.  The induction is on these. -/
theorem dialogue_tryAll (sent : List (Value × Except Error Outcome)) (ids : IdGenerator) :
    Work.Dialogue x.dialect connection (x.tryAll (sent.map Prod.fst)).run ids
      (sent.map (x.deleting connection)) (.ok (reported sent)) ids := by
  induction sent with
  | nil => exact Work.dialogue_pure_iff.2 ⟨rfl, rfl, rfl⟩
  | cons s sent ih =>
    obtain ⟨id, answer⟩ := s
    have hrest : Work.Dialogue x.dialect connection (do
          let rest ← x.tryAll (sent.map Prod.fst)
          return if tookRow answer then id :: rest else rest : Work (List Value)).run ids
        (sent.map (x.deleting connection)) (.ok (reported ((id, answer) :: sent))) ids :=
      Work.dialogue_bind_iff.2 (.inr ⟨_, [], _, ids, ih,
        Work.dialogue_pure_iff.2 ⟨rfl, by rw [reported_cons], rfl⟩, (List.append_nil _).symm⟩)
    exact Work.dialogue_bind_iff.2
      (.inr ⟨_, _, _, ids, dialogue_tryDelete id answer ids, hrest, rfl⟩)

/-- **The dialogues of a deletion**: one for each list of answers, as long as that of the
identifiers.  None of them is shorter, and none fails. -/
theorem dialogue_deleteRecords_iff {records : List Value} {ids ids' : IdGenerator}
    {es : List Exchange} {outcome : Except Error (List Value)} :
    Work.Dialogue x.dialect connection (x.deleteRecords records).run ids es outcome ids' ↔
      ∃ sent : List (Value × Except Error Outcome), sent.map Prod.fst = records
        ∧ es = sent.map (x.deleting connection) ∧ outcome = .ok (reported sent) ∧ ids' = ids := by
  constructor
  · exact sent_of_dialogue
  · rintro ⟨sent, rfl, rfl, rfl, rfl⟩
    exact Work.dialogue_bind_iff.2 (.inr ⟨_, [], _, ids', dialogue_tryAll sent ids',
      Work.dialogue_note_bind_iff.2 (Work.dialogue_pure_iff.2 ⟨rfl, rfl, rfl⟩),
      (List.append_nil _).symm⟩)

end Deleter

/-! ## §3. The transaction. -/

namespace Cards

open Deleter (reported)

/-- **Nothing is rolled back** by the transaction of a deletion. -/
theorem Deleted.not_rolledBack {x : Deleter} {connection : Nat} {ids : List Value}
    {es : List Exchange} {outcome : Except Error (List Value)}
    (h : Deleted x connection ids es outcome) (other : Nat) (answer : Except Error Unit) :
    .rolledBack other answer ∉ es := by
  intro hmem
  cases h with
  | refused e => cases List.mem_singleton.1 hmem
  | committed committed hsent =>
    rcases List.mem_append.1 hmem with hmem | hmem
    · rcases List.mem_cons.1 hmem with hmem | hmem
      · cases hmem
      · obtain ⟨s, _, hs⟩ := List.mem_map.1 hmem
        cases hs
    · cases List.mem_singleton.1 hmem

variable {σ : Type}

/-- **A deletion tries every identifier.**  One text is sent for all of them, with the identifier
bound once, or twice if all below it is meant.  Whatever the answers are, each identifier gets its
statement, in the order of the list; the work does not fail, and reports the identifiers whose
statement took a row.  Whatever backend it is sent to, the transaction around it is committed once
it has begun, and nothing is rolled back. -/
theorem tries_all (b : Backend σ) (db : Database) (card : Card) (settings : WriteSettings)
    (scope : DeleteScope) (ids : List Value) :
    let x : Deleter := ⟨card, settings, db.dialect, scope⟩
    (∀ connection sent, x.deleting connection sent = .executed connection .transaction
      (db.dialect.render x.canonical) (scope.bound sent.1) sent.2)
    ∧ (∀ connection fresh es outcome fresh',
      Work.Dialogue db.dialect connection (x.deleteRecords ids).run fresh es outcome fresh' ↔
        ∃ sent, sent.map Prod.fst = ids ∧ es = sent.map (x.deleting connection)
          ∧ outcome = .ok (reported sent) ∧ fresh' = fresh)
    ∧ ∀ c : Context (σ × List Exchange),
      let deleted := (Database.trans b.recorded db fun executor =>
        Deleter.deleteRecords ⟨card, settings, executor.dialect, scope⟩ ids).run c
      ∃ pooling es, deleted.2.backend.2 = c.backend.2 ++ pooling ++ es
        ∧ (∀ e ∈ pooling, e.IsPooling)
        ∧ (∀ connection answer, .rolledBack connection answer ∉ pooling ++ es)
        ∧ match ((Database.borrow b.recorded db.name).run c).1 with
          | .error e => es = [] ∧ deleted.1 = .error e
          | .ok lent => Deleted x lent.connection ids es deleted.1 := by
  intro x
  refine ⟨x.deleting_eq, fun _ _ _ _ _ => Deleter.dialogue_deleteRecords_iff (x := x), ?_⟩
  intro c deleted
  obtain ⟨pooling, es, htrace, hpooling, hcases⟩ := deleted_trans b db card settings scope ids c
  refine ⟨pooling, es, htrace, hpooling, ?_, hcases⟩
  intro connection answer hmem
  rcases List.mem_append.1 hmem with hmem | hmem
  · exact hpooling _ hmem
  · cases hborrow : ((Database.borrow b.recorded db.name).run c).1 with
    | error e =>
      rw [hborrow] at hcases
      rw [hcases.1] at hmem
      cases hmem
    | ok lent =>
      rw [hborrow] at hcases
      exact hcases.not_rolledBack _ _ hmem

/-- A person is deleted with all below, and is not there for the third statement; a deadlock at the
second one keeps nobody from the fourth. -/
theorem tries_all_people :
    let x : Deleter := ⟨personCard.toCard, .standard, .mysql, .subtree⟩
    let native := "DELETE FROM STAFF WHERE ID=? OR IDLJ LIKE CONCAT('%',?,'%')"
    let sent : List (Value × Except Error Outcome) :=
      [(.string "P1", .ok (.ofAffected 3)), (.string "P2", .error deadlock),
        (.string "P1", .ok (.ofAffected 0)), (.string "P3", .ok (.ofAffected 1))]
    ∀ fresh, Work.Dialogue .mysql 7 (x.deleteRecords (sent.map Prod.fst)).run fresh
      (sent.map fun s => .executed 7 .transaction native [s.1, s.1] s.2)
      (.ok [.string "P1", .string "P3"]) fresh := by
  intro x native sent fresh
  obtain ⟨hdeleting, hdialogues, -⟩ := tries_all .unreachable ⟨"default", .mysql, .ofConfig .standard⟩
    personCard.toCard .standard .subtree (sent.map Prod.fst)
  have hnative : Sql.Dialect.mysql.render x.canonical = native := by decide +kernel
  refine (hdialogues 7 fresh _ _ fresh).2 ⟨sent, rfl, List.map_congr_left fun s _ => ?_, rfl, rfl⟩
  rw [hdeleting 7 s, ← hnative]
  rfl

end Cards

end CardStore
