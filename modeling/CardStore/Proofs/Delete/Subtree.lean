/-
  CardStore.Proofs.Delete.Subtree
  ───────────────────────────────
  **WHAT A DELETION SENDS, AND WHICH ROWS IT TAKES.**

  Every identifier gets one statement, whatever becomes of the others, so the
  statements of a deletion are known but for their answers.  The answer of a
  deletion is read off the answers of its statements: it names the identifiers
  whose statement took at least one row.  Work on a deletion never fails, so
  its transaction is committed.

  In a deletion of subtrees each identifier is bound twice: it is compared
  with the identifiers of rows, and it becomes a part of the pattern that
  their paths are to be like.  The rows that its statement takes are its own
  one and those whose path contains it if all its characters stand for
  themselves in a pattern.  If one of them does not, there are rows for which
  this is wrong.

      A1     takes   A1   and   /A1/B2/
      A_1    takes   A_1  and   /A_1/B2/   but also   /Ax1/B2/

  Main statements:
    * `Deleter.sent_of_dialogue` — what is sent, and what is answered.
    * `Deleter.sent_of_transacted` — the whole transaction of a deletion.
    * `Deleter.takes_deleteRecords_iff` — which statements take the right rows.
-/
import CardStore.Delete
import CardStore.Proofs.Database.Transaction
import CardStore.Proofs.Sql.Like
import CardStore.Proofs.Write.Slots
import CardStore.Proofs.Write.Texts

namespace CardStore

open Sql (InPattern InSubtree PreparedDelete RowFacts)

/-! ## §1. What is sent. -/

namespace Deleter

section

variable (x : Deleter) (connection : Nat)

/-- The deletion of a record, and its answer. -/
def deleting (sent : Value × Except Error Outcome) : Exchange :=
  .executed connection .transaction (x.dialect.render ((x.delete sent.1).text x.dialect))
    (x.delete sent.1).params sent.2

/-- Whether a statement took a row. -/
def tookRow : Except Error Outcome → Bool
  | .ok o => decide (0 < o.affected)
  | .error _ => false

/-- **What a deletion answers**: the identifiers whose statement took a row. -/
def reported (sent : List (Value × Except Error Outcome)) : List Value :=
  (sent.filter fun s => tookRow s.2).map Prod.fst

theorem reported_cons (id : Value) (answer : Except Error Outcome)
    (sent : List (Value × Except Error Outcome)) :
    reported ((id, answer) :: sent)
      = if tookRow answer = true then id :: reported sent else reported sent := by
  rw [reported, List.filter_cons]
  split <;> rfl

variable {x connection} {ids ids' : IdGenerator} {es : List Exchange}

theorem sent_of_dialogue_tryDelete {id : Value} {outcome : Except Error Bool}
    (h : Work.Dialogue x.dialect connection (x.tryDelete id).run ids es outcome ids') :
    ∃ answer, es = [x.deleting connection (id, answer)] ∧ outcome = .ok (tookRow answer)
      ∧ ids' = ids := by
  obtain ⟨answer, _, hrest, rfl⟩ := Work.dialogue_tryExecute_bind_iff.1 h
  refine ⟨answer, ?_⟩
  -- whatever the answer is, nothing but a note is left to do
  cases answer with
  | ok o =>
    dsimp only at hrest
    split at hrest
    · rename_i htook
      obtain ⟨rfl, rfl, rfl⟩ := Work.dialogue_pure_iff.1 hrest
      exact ⟨rfl, by rw [tookRow, decide_eq_true htook], rfl⟩
    · rename_i hmissed
      have hpure := Work.dialogue_note_bind_iff.1 hrest
      obtain ⟨rfl, rfl, rfl⟩ := Work.dialogue_pure_iff.1 hpure
      exact ⟨rfl, by rw [tookRow, decide_eq_false hmissed], rfl⟩
  | error e =>
    have hpure := Work.dialogue_note_bind_iff.1 hrest
    obtain ⟨rfl, rfl, rfl⟩ := Work.dialogue_pure_iff.1 hpure
    exact ⟨rfl, rfl, rfl⟩

/-- One statement behind another, each with its answer. -/
theorem sent_of_dialogue_tryAll : ∀ (records : List Value) {ids ids' : IdGenerator}
    {es : List Exchange} {outcome : Except Error (List Value)},
    Work.Dialogue x.dialect connection (x.tryAll records).run ids es outcome ids' →
      ∃ sent : List (Value × Except Error Outcome), sent.map Prod.fst = records
        ∧ es = sent.map (x.deleting connection) ∧ outcome = .ok (reported sent)
        ∧ ids' = ids := by
  intro records
  induction records with
  | nil =>
    intro ids ids' es outcome h
    obtain ⟨rfl, rfl, rfl⟩ := Work.dialogue_pure_iff.1 h
    exact ⟨[], rfl, rfl, rfl, rfl⟩
  | cons id records ih =>
    intro ids ids' es outcome h
    rcases Work.dialogue_bind_iff.1 h with ⟨e, hfails, rfl⟩ | ⟨_, _, _, _, hfirst, hothers, rfl⟩
    · obtain ⟨answer, _, houtcome, _⟩ := sent_of_dialogue_tryDelete hfails
      cases houtcome
    obtain ⟨answer, rfl, houtcome, rfl⟩ := sent_of_dialogue_tryDelete hfirst
    rcases Work.dialogue_bind_iff.1 hothers with ⟨e, hfails, rfl⟩ | ⟨_, _, _, _, hrest, hpure, rfl⟩
    · obtain ⟨_, _, _, hno, _⟩ := ih hfails
      cases hno
    obtain ⟨sent, hsent, rfl, hreported, rfl⟩ := ih hrest
    obtain ⟨rfl, rfl, rfl⟩ := Work.dialogue_pure_iff.1 hpure
    refine ⟨(id, answer) :: sent, ?_, ?_, ?_, rfl⟩
    · rw [List.map_cons, hsent]
    · rw [List.append_nil]
      rfl
    · rw [Except.ok.inj houtcome, Except.ok.inj hreported, reported_cons]

/-- **What is sent to delete records**, and what is answered. -/
theorem sent_of_dialogue {records : List Value} {outcome : Except Error (List Value)}
    (h : Work.Dialogue x.dialect connection (x.deleteRecords records).run ids es outcome ids') :
    ∃ sent : List (Value × Except Error Outcome), sent.map Prod.fst = records
      ∧ es = sent.map (x.deleting connection) ∧ outcome = .ok (reported sent) ∧ ids' = ids := by
  rcases Work.dialogue_bind_iff.1 h with ⟨e, hfails, rfl⟩ | ⟨_, _, _, _, hall, hnote, rfl⟩
  · obtain ⟨_, _, _, houtcome, _⟩ := sent_of_dialogue_tryAll records hfails
    cases houtcome
  · obtain ⟨sent, hsent, rfl, houtcome, rfl⟩ := sent_of_dialogue_tryAll records hall
    have hpure := Work.dialogue_note_bind_iff.1 hnote
    obtain ⟨rfl, rfl, rfl⟩ := Work.dialogue_pure_iff.1 hpure
    rw [List.append_nil]
    exact ⟨sent, hsent, rfl, houtcome, rfl⟩

/-- **The whole transaction of a deletion**: no statement makes it fail, so it is committed, and its
answer is that of the work unless the commit fails. -/
theorem sent_of_transacted {records : List Value} {answer : Except Error (List Value)}
    (h : Database.Transacted x.dialect connection (x.deleteRecords records) ids es answer) :
    ∃ (sent : List (Value × Except Error Outcome)) (committed : Except Error Unit),
      sent.map Prod.fst = records
        ∧ es = .begun connection (.ok ()) :: sent.map (x.deleting connection)
          ++ [.committed connection committed]
        ∧ answer = committed.map fun _ => reported sent := by
  obtain ⟨hdialogue, hlast⟩ := h
  obtain ⟨sent, hsent, rfl, rfl, rfl⟩ := sent_of_dialogue hdialogue
  cases hlast with
  | committed _ committed => exact ⟨sent, committed, hsent, rfl, rfl⟩

end

/-! ## §2. One statement. -/

variable (x : Deleter)

/-- The table of a deletion, and its path column if it has one, are words. -/
structure Named : Prop where
  table : Sql.IsWord x.card.table
  path : x.scope = .subtree → Sql.IsWord x.settings.pathColumn

/-- A deletion of records of a sound card has names only. -/
theorem named_of_check {settings : WriteSettings} {scope : DeleteScope}
    (h : scope = .subtree → settings.check = .ok ()) (card : SoundCard) (d : Sql.Dialect) :
    Named ⟨card.toCard, settings, d, scope⟩ where
  table := Sql.isWord_of_isIdentifier card.isIdentifier_table
  path hscope := WriteSettings.isWord_of_check (h hscope) _ (by simp [WriteSettings.columns])

variable {x}

/-- **What is prepared of the statements of a deletion.** -/
theorem Named.ofText?_render (h : x.Named) (id : Value) :
    PreparedDelete.ofText? x.dialect (x.dialect.render ((x.delete id).text x.dialect))
      = some (x.delete id).prepared := by
  refine PreparedDelete.ofText?_render x.dialect h.table ?_
  intro column hcolumn
  obtain ⟨card, settings, d, scope⟩ := x
  cases scope with
  | row => cases hcolumn
  | subtree =>
    rw [← Option.some.inj hcolumn]
    exact h.path rfl

/-- **The rows that a statement takes for an identifier**: its own one and those whose path is like
the pattern that it is bound into.  They are its own one and those whose path contains it exactly if
it is plain. -/
def TakesSubtree (x : Deleter) (connection : Nat) (id : String) (e : Exchange) : Prop :=
  ∃ native params answer p, e = .executed connection .transaction native params answer
    ∧ PreparedDelete.ofText? x.dialect native = some p
    ∧ (∀ row, p.takes params (.ofTexts x.dialect row) = true
      ↔ InPattern x.dialect x.settings.pathColumn id row)
    ∧ ((∀ row, p.takes params (.ofTexts x.dialect row) = true
          ↔ InSubtree x.settings.pathColumn id row)
        ↔ x.dialect.Plain id.toList)

theorem takesSubtree_deleting (h : x.Named) (hscope : x.scope = .subtree) (connection : Nat)
    (id : String) (answer : Except Error Outcome) :
    x.TakesSubtree connection id (x.deleting connection (.string id, answer)) := by
  have hcolumn : (x.delete (.string id)).pathColumn = some x.settings.pathColumn := by
    rw [delete, hscope]
  have htakes (row : String → Option String) :
      (x.delete (.string id)).prepared.takes (x.delete (.string id)).params (.ofTexts x.dialect row)
        = true ↔ InPattern x.dialect x.settings.pathColumn id row :=
    Sql.Delete.takes_iff hcolumn rfl row
  refine ⟨_, _, answer, _, rfl, h.ofText?_render _, htakes, ?_⟩
  simp only [htakes]
  exact Sql.inPattern_iff_inSubtree_iff x.dialect x.settings.pathColumn id

/-! ## §3. All statements of a deletion. -/

/-- **A deletion of subtrees takes the right rows** exactly if all characters of the identifiers
stand for themselves in a pattern, whatever the backend answers. -/
theorem takes_deleteRecords_iff {σ : Type} (b : Backend σ) (x : Executor) {connection : Nat}
    {c : Context (σ × List Exchange)} (hlive : c.connectionOf? x.transaction = some connection)
    {settings : WriteSettings} (hcheck : settings.check = .ok ()) (card : SoundCard)
    (ids : List String) :
    let deleter : Deleter := ⟨card.toCard, settings, x.dialect, .subtree⟩
    ∃ es, ((x.perform b.recorded (deleter.deleteRecords (ids.map .string))).run c).2.backend.2
        = c.backend.2 ++ es
      ∧ List.Forall₂ (deleter.TakesSubtree connection) ids es := by
  intro deleter
  obtain ⟨es, hdialogue, htrace, _⟩ :=
    Executor.dialogue_perform b x (deleter.deleteRecords (ids.map .string)) c hlive
  obtain ⟨sent, hsent, rfl, _, _⟩ := sent_of_dialogue (x := deleter) hdialogue
  have hnamed : deleter.Named := named_of_check (fun _ => hcheck) card x.dialect
  refine ⟨_, htrace, ?_⟩
  have hsame : List.Forall₂ Eq (ids.map Value.string) (sent.map Prod.fst) := by
    rw [hsent]
    exact List.forall₂_refl _
  have hids : List.Forall₂ (fun id s => Value.string id = s.1) ids sent :=
    List.forall₂_map_right_iff.1 (List.forall₂_map_left_iff.1 hsame)
  rw [List.forall₂_map_right_iff]
  refine hids.imp ?_
  rintro id ⟨_, answer⟩ rfl
  exact takesSubtree_deleting hnamed rfl connection id answer

end Deleter

/-- A deletion of people and of all who are below them. -/
def peopleDeleter : Deleter := ⟨personCard.toCard, .standard, .mysql, .subtree⟩

/-- What is sent to delete people. -/
def peopleTrace (ids : List String) : List Exchange :=
  ((Executor.perform Cards.emptyTables.recorded ⟨"default", .mysql, 0⟩
    (peopleDeleter.deleteRecords (ids.map .string))).run liveContext).2.backend.2

/-- A plain identifier is looked for as it is, and one with an underscore is not. -/
theorem takes_deleteRecords_people :
    List.Forall₂ (peopleDeleter.TakesSubtree 7) ["A1", "A_1"] (peopleTrace ["A1", "A_1"])
      ∧ Sql.Dialect.mysql.Plain "A1".toList ∧ ¬ Sql.Dialect.mysql.Plain "A_1".toList := by
  have hlive : liveContext.connectionOf? 0 = some 7 := rfl
  have hdeleter : (⟨personCard.toCard, .standard, .mysql, .subtree⟩ : Deleter) = peopleDeleter :=
    rfl
  have hnil : liveContext.backend.2 = [] := rfl
  have h := Deleter.takes_deleteRecords_iff Cards.emptyTables ⟨"default", .mysql, 0⟩ hlive
    check_standard personCard ["A1", "A_1"]
  dsimp only at h
  rw [hdeleter, hnil] at h
  obtain ⟨es, htrace, hes⟩ := h
  have hsent : peopleTrace ["A1", "A_1"] = es := htrace
  rw [hsent]
  exact ⟨hes, by decide, by decide⟩

/-! ## §4. Wrong rows. -/

/-- What is prepared of the statement for one person. -/
theorem prepared_peopleTrace (id : String) :
    ∃ native params answer p, peopleTrace [id] = [.executed 7 .transaction native params answer]
      ∧ PreparedDelete.ofText? .mysql native = some p
      ∧ ∀ row, p.takes params (.ofTexts .mysql row) = true ↔ InPattern .mysql "IDLJ" id row := by
  have hnamed : peopleDeleter.Named :=
    Deleter.named_of_check (fun _ => check_standard) personCard .mysql
  obtain ⟨es, hdialogue, htrace, _⟩ := Executor.dialogue_perform Cards.emptyTables
    ⟨"default", .mysql, 0⟩ (peopleDeleter.deleteRecords ([id].map .string)) liveContext
    (show liveContext.connectionOf? 0 = some 7 from rfl)
  obtain ⟨sent, hsent, rfl, _⟩ := Deleter.sent_of_dialogue (x := peopleDeleter) hdialogue
  obtain ⟨⟨_, answer⟩, rfl, rfl⟩ := List.map_eq_singleton_iff.1 hsent
  have htrace : peopleTrace [id] = [] ++ [peopleDeleter.deleting 7 (.string id, answer)] := htrace
  exact ⟨_, _, answer, _, htrace, hnamed.ofText?_render _, Sql.Delete.takes_iff rfl rfl⟩

/-- **Wrong rows are taken, and right ones are not**: an underscore lets a row be taken that is not
below its person, and a backslash lets one stay that is. -/
theorem not_takesSubtree_people :
    (∃ native params answer p row,
      peopleTrace ["A_1"] = [.executed 7 .transaction native params answer]
        ∧ PreparedDelete.ofText? .mysql native = some p
        ∧ p.takes params (.ofTexts .mysql row) = true ∧ ¬ InSubtree "IDLJ" "A_1" row)
      ∧ ∃ native params answer p row,
        peopleTrace ["A\\1"] = [.executed 7 .transaction native params answer]
          ∧ PreparedDelete.ofText? .mysql native = some p
          ∧ p.takes params (.ofTexts .mysql row) = false ∧ InSubtree "IDLJ" "A\\1" row := by
  refine ⟨?_, ?_⟩
  · obtain ⟨native, params, answer, p, htrace, hread, htakes⟩ := prepared_peopleTrace "A_1"
    refine ⟨native, params, answer, p, fun _ => some "/Ax1/B2/", htrace, hread, ?_, ?_⟩
    · exact (htakes _).2 (.inr ⟨_, rfl, by decide⟩)
    · rintro (hid | ⟨path, hpath, hinfix⟩)
      · exact absurd hid (by decide)
      · rw [← Option.some.inj hpath] at hinfix
        exact absurd hinfix (by decide)
  · obtain ⟨native, params, answer, p, htrace, hread, htakes⟩ := prepared_peopleTrace "A\\1"
    refine ⟨native, params, answer, p, fun _ => some "/A\\1/B2/", htrace, hread, ?_, ?_⟩
    · rw [← Bool.not_eq_true, htakes]
      rintro (hid | ⟨path, hpath, hlikes⟩)
      · exact absurd hid (by decide)
      · rw [← Option.some.inj hpath] at hlikes
        exact absurd hlikes (by decide)
    · exact .inr ⟨_, rfl, by decide⟩

end CardStore
