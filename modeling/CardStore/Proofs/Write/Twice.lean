/-
  CardStore.Proofs.Write.Twice
  ────────────────────────────
  **WRITING A RECORD TWICE.**

  Whether the row of a record is there is told by what its update reports.  A
  server that reports the rows it found tells the truth, and then a record can
  be written any number of times.  One that reports the rows it changed says
  the same of a row that is not there and of one that holds everything
  already: the insertion that follows fails then.  So it does when a record is
  written twice before the clock moves.

  Main statements:
    * `Writer.perform_save_of_id_eq` — what a save of a record with an identifier does.
    * `Writer.perform_writeRecords_twice` — two writes of one record.
-/
import CardStore.Proofs.Query.Joins
import CardStore.Proofs.Write.Store

namespace CardStore

namespace Server

/-! ## §1. Rows that hold everything already. -/

/-- A row holds what assignments set. -/
def Shows (s : Server) (row : Stored) (as : Sql.Assignments) : Prop :=
  ∀ v ∈ s.values as, row v.1 = v.2

/-- A server overlooks a row that an update finds: it reports the rows that were changed, and the
row holds everything already. -/
def Overlooks (s : Server) (id : Value) (as : Sql.Assignments) : Prop :=
  s.counting = .changed ∧ ∃ row, s.rows id = some row ∧ s.Shows row as

theorem shows_assign (s : Server) (row : Stored) {as as' : Sql.Assignments}
    (hnodup : as'.columns.Nodup) (hsub : as ⊆ as') : s.Shows (assign row (s.values as')) as := by
  intro v hv
  rw [← s.map_fst_values] at hnodup
  exact assign_of_mem hnodup (List.map_subset _ hsub hv)

variable [DecidableEq Value]

/-- A server that reports changed rows reports none if the row holds everything already. -/
theorem reported_eq_zero_iff {s : Server} {row : Stored} {as : Sql.Assignments}
    (hnodup : as.columns.Nodup) :
    s.reported row (s.values as) = 0 ↔ s.counting = .changed ∧ s.Shows row as := by
  have hassigned : (∀ v ∈ s.values as, assign row (s.values as) v.1 = row v.1)
      ↔ s.Shows row as := by
    have hset := s.shows_assign row hnodup (List.Subset.refl as)
    refine forall₂_congr fun v hv => ?_
    rw [hset v hv]
    exact eq_comm
  rw [← hassigned]
  unfold reported
  cases s.counting with
  | matched => simp
  | changed => simp

end Server

namespace Writer

variable {w : Writer} {paths : List (String × String)} {s : Server} {r : Record} {id : Value}

/-- Of what an update sets, only the time of the last change is not up to the record. -/
theorem shows_changes_iff {s s' : Server} {row : Stored} (h : s.Shows row (w.changes paths r)) :
    s'.Shows row (w.changes paths r) ↔ s'.clock s'.count = s.clock s.count := by
  have hupdatedAt : (w.settings.updatedAtColumn, Sql.Term.now) ∈ w.changes paths r :=
    List.mem_append_right _ List.mem_cons_self
  constructor
  · intro h'
    have hnow := h _ (List.mem_map_of_mem hupdatedAt)
    have hnow' := h' _ (List.mem_map_of_mem hupdatedAt)
    exact hnow'.symm.trans hnow
  · intro hclock v hv
    have hvalues : s'.values (w.changes paths r) = s.values (w.changes paths r) := by
      refine List.map_congr_left fun a _ => ?_
      have hvalue : s'.value a.2 = s.value a.2 := by
        cases a.2 with
        | bound v => rfl
        | now => exact hclock
        | literal text => rfl
      rw [hvalue]
    rw [hvalues] at hv
    exact h v hv

/-- The row that an update or an insertion leaves holds what an update sets. -/
theorem shows_newRow (hc : w.settings.Admits (paths.map Prod.snd))
    (ho : Text.Differ w.settings.ownColumns) (s : Server) (r : Record) (id : Value) :
    s.Shows (w.newRow paths s r id) (w.changes paths r) :=
  s.shows_assign _ (nodup_columns_insert hc ho r id) (w.changes_subset_insert paths r id)

theorem shows_changedRow (hc : w.settings.Admits (paths.map Prod.snd))
    (ho : Text.Differ w.settings.ownColumns) (s : Server) (r : Record) (row : Stored) :
    s.Shows (w.changedRow paths s r row) (w.changes paths r) :=
  s.shows_assign row (List.nodup_cons.1 (nodup_columns_changes hc ho r)).2 (List.Subset.refl _)

/-! ## §2. One write, and another one. -/

variable [DecidableEq Value]

/-- **What a save of a record with an identifier does**: it puts a row that holds everything, and
fails exactly if the server overlooks a row that does so already. -/
theorem perform_save_of_id_eq (hd : s.dialect = w.dialect) (ht : s.table = w.card.table)
    (hn : w.Named paths) (hc : w.settings.Admits (paths.map Prod.snd))
    (ho : Text.Differ w.settings.ownColumns) (hid : r.id? = some id)
    (htruthy : id.isTruthy = true) :
    (s.Overlooks id (w.changes paths r) →
        (s.perform (w.save paths r)).1 = .error Server.duplicate)
      ∧ (¬ s.Overlooks id (w.changes paths r) → (s.perform (w.save paths r)).1 = .ok r)
      ∧ ∃ s₁ row, s.Follows id s₁ ∧ s₁.Shows row (w.changes paths r)
        ∧ (s.perform (w.save paths r)).2 = s₁.put id row := by
  cases hrow : s.rows id with
  | some row =>
    have hnodup : (w.changes paths r).columns.Nodup :=
      (List.nodup_cons.1 (nodup_columns_changes hc ho r)).2
    have hoverlooks : s.reported row (s.values (w.changes paths r)) = 0
        ↔ s.Overlooks id (w.changes paths r) := by
      rw [Server.reported_eq_zero_iff hnodup, Server.Overlooks, hrow]
      simp
    rw [perform_save_of_row hd ht hn hc ho hid htruthy hrow, ← hoverlooks]
    exact ⟨fun h => if_pos h, fun h => if_neg h, s, _, s.follows_refl id,
      shows_changedRow hc ho s r row, rfl⟩
  | none =>
    have hfound : ¬ s.Overlooks id (w.changes paths r) := by
      rintro ⟨_, row, hsome, _⟩
      rw [hrow] at hsome
      cases hsome
    rw [perform_save_of_no_row hd ht hn hc ho hid htruthy hrow]
    exact ⟨fun h => absurd h hfound, fun _ => rfl, s.counted, _, s.follows_counted id,
      shows_newRow hc ho s.counted r id, rfl⟩

theorem keeps_put {row : Stored} (h : s.Shows row (w.changes paths r)) (id : Value) :
    (s.put id row).Keeps id paths r :=
  ⟨row, s.rows_put_self id row, fun _ hp =>
    h _ (List.mem_map_of_mem (List.mem_append_left _ (List.mem_map_of_mem hp)))⟩

/-- A row that a write has left is overlooked exactly if the clock has not moved since then. -/
theorem overlooks_put_iff {row : Stored} (h : s.Shows row (w.changes paths r)) (id : Value) :
    (s.put id row).Overlooks id (w.changes paths r) ↔
      s.counting = .changed ∧ s.clock (s.count + 1) = s.clock s.count := by
  rw [Server.Overlooks, s.rows_put_self]
  simp only [Option.some.injEq, exists_eq_left', shows_changes_iff h]
  rfl

/-- **Two writes of one record** with an identifier.  The first one fails exactly if the server
overlooks a row that holds everything already, and the second one exactly if the server reports
changed rows and the clock has not moved since the first one.  After either of them the row holds
the values of the record. -/
theorem perform_writeRecords_twice (card : SoundCard) (settings : WriteSettings)
    (hcheck : settings.check = .ok ()) (ho : Text.Differ settings.ownColumns) (s : Server)
    (ht : s.table = card.table) (model : List String) (r : Record) (id : Value)
    (hc : settings.Admits
      ((writablePaths ⟨card.toCard, settings, s.dialect⟩ model).map Prod.snd))
    (hid : r.id? = some id) (htruthy : id.isTruthy = true) :
    let w : Writer := ⟨card.toCard, settings, s.dialect⟩
    let overlooked := s.Overlooks id (w.changes (w.writablePaths model) r)
    let first := s.perform (w.writeRecords model [r])
    let unmoved := s.counting = .changed ∧ s.clock first.2.count = s.clock (first.2.count - 1)
    let second := first.2.perform (w.writeRecords model [r])
    (overlooked → first.1 = .error Server.duplicate) ∧ (¬ overlooked → first.1 = .ok [r])
      ∧ (unmoved → second.1 = .error Server.duplicate) ∧ (¬ unmoved → second.1 = .ok [r])
      ∧ first.2.Keeps id (w.writablePaths model) r ∧ s.Follows id first.2
      ∧ second.2.Keeps id (w.writablePaths model) r ∧ s.Follows id second.2 := by
  intro w overlooked first unmoved second
  have hn : w.Named (w.writablePaths model) := named_writablePaths hcheck card s.dialect model
  obtain ⟨hfails₁, hgoes₁, s₁, row₁, hfollows₁, hshows₁, hleft₁⟩ :=
    perform_save_of_id_eq (s := s) (w := w) rfl ht hn hc ho hid htruthy
  have hfirst : first = _ := perform_writeRecords_singleton w s model r
  have hstate : first.2 = s₁.put id row₁ := (congrArg Prod.snd hfirst).trans hleft₁
  have hfollows : s.Follows id first.2 := by
    rw [hstate]
    exact hfollows₁.trans (s₁.follows_put id row₁)
  obtain ⟨hfails₂, hgoes₂, s₂, row₂, hfollows₂, hshows₂, hleft₂⟩ :=
    perform_save_of_id_eq (s := first.2) (w := w) hfollows.dialect (hfollows.table.trans ht) hn hc
      ho hid htruthy
  have hsecond : second = _ := perform_writeRecords_singleton w first.2 model r
  have hstate₂ : second.2 = s₂.put id row₂ := (congrArg Prod.snd hsecond).trans hleft₂
  -- the row that the first write left holds everything, so only the clock can make a difference
  have hunmoved : first.2.Overlooks id (w.changes (w.writablePaths model) r) ↔ unmoved := by
    show _ ↔ s.counting = .changed ∧ s.clock first.2.count = s.clock (first.2.count - 1)
    rw [hstate, overlooks_put_iff hshows₁, hfollows₁.counting, hfollows₁.clock]
    rfl
  refine ⟨fun h => ?_, fun h => ?_, fun h => ?_, fun h => ?_, ?_, hfollows, ?_, ?_⟩
  · rw [hfirst, hfails₁ h]
    rfl
  · rw [hfirst, hgoes₁ h]
    rfl
  · rw [hsecond, hfails₂ (hunmoved.2 h)]
    rfl
  · rw [hsecond, hgoes₂ fun hover => h (hunmoved.1 hover)]
    rfl
  · rw [hstate]
    exact keeps_put hshows₁ id
  · rw [hstate₂]
    exact keeps_put hshows₂ id
  · rw [hstate₂]
    exact hfollows.trans (hfollows₂.trans (s₂.follows_put id row₂))

end Writer

/-! ## §3. A person that is written twice. -/

/-- A person. -/
def personRecord : Record := .ofList [("ID", .string "P1"), ("name", .string "Li")]

open Classical in
/-- Written twice while the clock stands still, a person is inserted and then looked for in vain
on a server that reports changed rows; a server that reports the rows it found finds it. -/
theorem perform_person_twice :
    let write := Writer.writeRecords ⟨personCard.toCard, .standard, .mysql⟩ ["name"] [personRecord]
    let reporting (counting : Counting) := Server.empty .mysql "STAFF" counting fun _ => .int 0
    (((reporting .changed).perform write).1 = .ok [personRecord]
      ∧ (((reporting .changed).perform write).2.perform write).1 = .error Server.duplicate)
      ∧ ((reporting .matched).perform write).1 = .ok [personRecord]
      ∧ (((reporting .matched).perform write).2.perform write).1 = .ok [personRecord] := by
  have hcheck : WriteSettings.standard.check = .ok () := by decide +kernel
  have hown : Text.Differ WriteSettings.standard.ownColumns := by decide +kernel
  have hcolumns : WriteSettings.standard.Admits ((Writer.writablePaths
      ⟨personCard.toCard, .standard, .mysql⟩ ["name"]).map Prod.snd) :=
    ⟨by decide +kernel, by decide +kernel⟩
  have hid : personRecord.id? = some (.string "P1") := rfl
  intro write reporting
  have htwice (counting : Counting) := Writer.perform_writeRecords_twice personCard .standard hcheck
    hown (reporting counting) rfl ["name"] personRecord (.string "P1") hcolumns hid rfl
  -- nothing is overlooked in an empty table
  have hempty (counting : Counting) : ¬ (reporting counting).Overlooks (.string "P1")
      (Writer.changes ⟨personCard.toCard, .standard, .mysql⟩ (Writer.writablePaths
        ⟨personCard.toCard, .standard, .mysql⟩ ["name"]) personRecord) := by
    rintro ⟨_, _, hrow, _⟩
    cases hrow
  refine ⟨⟨(htwice .changed).2.1 (hempty _), (htwice .changed).2.2.1 ⟨rfl, rfl⟩⟩,
    (htwice .matched).2.1 (hempty _), (htwice .matched).2.2.2.1 ?_⟩
  rintro ⟨hcounting, _⟩
  cases hcounting

end CardStore
