/-
  CardStore.Proofs.Write.Slots
  ────────────────────────────
  **THE BIND SLOTS OF A WRITE LINE UP WITH ITS PARAMETERS.**

  A write sends columns and their terms as text and the values that are bound
  as a list beside it.  What a server prepares of the native text has one bind
  slot for each value, numbered from left to right, and the slot of a value
  stands opposite to the column that the value belongs to.  Neither quotes nor
  backslashes nor question marks in the texts of actor and department move a
  slot, and these texts are read as they are.

      UPDATE   MC ↦ #1 … MC ↦ #n   RUDAT ↦ clock   RUOPR_ID ↦ actor …   ID = #n+1
      INSERT   ID ↦ #1   MC ↦ #2 … MC ↦ #n+1   ISDEL ↦ #n+2   RCDAT ↦ clock …

  Main statements:
    * `Writer.prepared_update`, `Writer.prepared_insert` — what is prepared for a record.
    * `Writer.Saved.linesUp` — the statements of a record line up with it.
    * `Writer.linesUp_writeRecords` — so do all statements of a write.
-/
import CardStore.Proofs.Cards.Write
import CardStore.Proofs.Sql.Prepared
import CardStore.Proofs.Write.Store

namespace CardStore

open Sql (PreparedTerm PreparedInsert PreparedUpdate)

/-- What is sent in turn is sent for one of the things. -/
theorem InTurn.exists_step_of_mem {ι α : Type}
    {step : ι → IdGenerator → List Exchange → Except Error α → IdGenerator → Prop} {is : List ι}
    {ids ids' : IdGenerator} {es : List Exchange} {outcome : Except Error (List α)}
    (h : InTurn step is ids es outcome ids') {e : Exchange} (he : e ∈ es) :
    ∃ i ∈ is, ∃ ids es answer ids', step i ids es answer ids' ∧ e ∈ es := by
  induction h with
  | done ids => cases he
  | failed hi => exact ⟨_, List.mem_cons_self, _, _, _, _, hi, he⟩
  | next hi _ ih =>
    rcases List.mem_append.1 he with he | he
    · exact ⟨_, List.mem_cons_self, _, _, _, _, hi, he⟩
    · obtain ⟨i, hmem, hstep⟩ := ih he
      exact ⟨i, List.mem_cons_of_mem _ hmem, hstep⟩

namespace Writer

variable (w : Writer) (paths : List (String × String))

/-! ## §1. Columns and what stands opposite to them. -/

/-- The columns of paths with consecutive slots, the first of which has a number. -/
def columnSlots (first : Nat) : List (String × PreparedTerm) :=
  paths.mapIdx fun k p => (p.2, .slot (first + k))

/-- The columns of the last change: the clock, and two texts. -/
def updatedTerms : List (String × PreparedTerm) :=
  [(w.settings.updatedAtColumn, .now), (w.settings.updatedByColumn, .literal w.settings.actor),
    (w.settings.updatedDeptColumn, .literal w.settings.department)]

/-- The columns of the creation. -/
def createdTerms : List (String × PreparedTerm) :=
  [(w.settings.createdAtColumn, .now), (w.settings.createdByColumn, .literal w.settings.actor),
    (w.settings.createdDeptColumn, .literal w.settings.department)]

/-- The marker with the slot behind those of the columns, unless it is one of them. -/
def markerTerms : List (String × PreparedTerm) :=
  if (idPath :: paths.map Prod.snd).any (Text.eqIgnoreCase · w.settings.deletedColumn) then []
  else [(w.settings.deletedColumn, .slot (paths.length + 2))]

/-- The update that a server prepares: the k-th slot sets the k-th column, and the last one is that
of the identifier. -/
def preparedUpdate : PreparedUpdate :=
  ⟨w.card.table, columnSlots paths 1 ++ w.updatedTerms, paths.length + 1⟩

/-- The insertion that a server prepares. -/
def preparedInsert : PreparedInsert :=
  ⟨w.card.table, (idPath, .slot 1) :: columnSlots paths 2 ++ w.markerTerms paths
    ++ (w.createdTerms ++ w.updatedTerms)⟩

theorem numbered_assignments (r : Record) (n : Nat) :
    Sql.numbered n (assignments paths r) = columnSlots paths (n + 1) := by
  have hbound := Sql.numbered_bound (Prod.snd : String × String → String)
    (fun p => (r.get? p.1).getD .null) paths n
  rw [columnSlots, show assignments paths r = paths.map fun p =>
    (p.2, .bound ((r.get? p.1).getD .null)) from rfl, hbound]
  exact List.mapIdx_eq_mapIdx_iff.2 fun k _ => by rw [Nat.add_right_comm]

theorem length_params_assignments (r : Record) :
    ((assignments paths r).flatMap fun a => a.2.params).length = paths.length := by
  show (Sql.Assignments.params (assignments paths r)).length = _
  rw [params_assignments, values, List.length_map]

/-- **What is prepared of an update.** -/
theorem prepared_update (r : Record) (id : Value) :
    (w.update (assignments paths r) id).prepared = w.preparedUpdate paths := by
  have hlength : (w.update (assignments paths r) id).sets.params.length = paths.length := by
    show (Sql.Assignments.params (assignments paths r ++ w.updatedItems)).length = _
    rw [Sql.Assignments.params_append, List.length_append, params_assignments, values,
      List.length_map]
    rfl
  rw [Sql.Update.prepared, hlength]
  show PreparedUpdate.mk _ (Sql.numbered 0 (assignments paths r ++ w.updatedItems)) _ = _
  rw [Sql.numbered_append, numbered_assignments]
  rfl

/-- Whether the marker is set by the record itself, which is a matter of its columns. -/
theorem any_assignments (r : Record) (id : Value) :
    (((idPath, Sql.Term.bound id) :: assignments paths r).any fun item =>
        Text.eqIgnoreCase item.1 w.settings.deletedColumn)
      = (idPath :: paths.map Prod.snd).any (Text.eqIgnoreCase · w.settings.deletedColumn) := by
  rw [List.any_cons, List.any_cons, assignments, List.any_map, List.any_map]
  rfl

theorem numbered_insertItems (r : Record) (id : Value) :
    Sql.numbered 0 (w.insertItems (assignments paths r) id)
      = (idPath, .slot 1) :: columnSlots paths 2 ++ w.markerTerms paths := by
  have hrow : Sql.numbered 0 ((idPath, .bound id) :: assignments paths r)
      = (idPath, .slot 1) :: columnSlots paths 2 := by
    show (idPath, PreparedTerm.slot 1) :: Sql.numbered 1 (assignments paths r) = _
    rw [numbered_assignments]
  have hlength : (((idPath, Sql.Term.bound id) :: assignments paths r).flatMap
      fun a => a.2.params).length = paths.length + 1 := by
    rw [List.flatMap_cons, List.length_append, length_params_assignments]
    exact Nat.add_comm 1 _
  rw [insertItems, markerTerms, any_assignments]
  split
  · rw [hrow, List.append_nil]
  · rw [Sql.numbered_append, hrow, hlength, Nat.zero_add]
    rfl

/-- **What is prepared of an insertion.** -/
theorem prepared_insert (r : Record) (id : Value) :
    (w.insert (assignments paths r) id).prepared = w.preparedInsert paths := by
  show PreparedInsert.mk _ (Sql.numbered 0 (w.insertItems (assignments paths r) id
    ++ w.createdItems ++ w.updatedItems)) = _
  rw [List.append_assoc, Sql.numbered_append, numbered_insertItems]
  rfl

/-! ## §2. Statements of records. -/

/-- **A native text and parameters that line up** as a statement for a record: each bind slot has
its own parameter, and stands opposite to the column or condition that the parameter is for. -/
inductive LinedUp (r : Record) (native : String) (params : List Value) : Prop where
  /-- The values of the record in the order of its columns, and then its identifier. -/
  | update {id : Value} : r.id? = some id → id.isTruthy = true →
    PreparedUpdate.ofText? w.dialect native = some (w.preparedUpdate paths) →
    params = values paths r ++ [id] → LinedUp r native params
  /-- The identifier, a new one if the record has none, the values of the record, and the marker's
  value unless a column of the record is the marker. -/
  | insert {id : Value} :
    (r.id? = some id ∧ id.isTruthy = true
      ∨ r.hasId = false ∧ ∃ ids : IdGenerator, id = .string ids.text) →
    PreparedInsert.ofText? w.dialect native = some (w.preparedInsert paths) →
    params = id :: values paths r ++ w.marker paths → LinedUp r native params

/-- A statement that lines up with a record, and has as many bind slots as parameters. -/
def LinesUp (connection : Nat) (r : Record) (e : Exchange) : Prop :=
  ∃ native params answer, e = .executed connection .transaction native params answer
    ∧ w.dialect.bindNumbers? native = some (List.range' 1 params.length)
    ∧ w.LinedUp paths r native params

variable {w paths} (connection : Nat) {r : Record} {id : Value}

theorem linesUp_updating (hn : w.Named paths) (hid : r.id? = some id) (htruthy : id.isTruthy = true)
    (answer : Except Error Outcome) :
    w.LinesUp paths connection r (w.updating connection paths r id answer) := by
  have hne : (w.update (assignments paths r) id).sets ≠ [] :=
    List.append_ne_nil_of_right_ne_nil _ (List.cons_ne_nil _ _)
  have hbinds := (w.update (assignments paths r) id).bindNumbers?_text w.dialect hn.table
    (hn.update r id)
  have hprepared := PreparedUpdate.ofText?_render w.dialect hn.table (hn.update r id) hne
  rw [text_update, params_update] at hbinds
  rw [text_update, prepared_update] at hprepared
  exact ⟨_, _, answer, rfl, hbinds, .update hid htruthy hprepared rfl⟩

theorem linesUp_inserting (hn : w.Named paths)
    (hid : r.id? = some id ∧ id.isTruthy = true
      ∨ r.hasId = false ∧ ∃ ids : IdGenerator, id = .string ids.text)
    (answer : Except Error Outcome) :
    w.LinesUp paths connection r (w.inserting connection paths r id answer) := by
  have hne : (w.insert (assignments paths r) id).items ≠ [] :=
    List.append_ne_nil_of_right_ne_nil _ (List.cons_ne_nil _ _)
  have hbinds := (w.insert (assignments paths r) id).bindNumbers?_text w.dialect hn.table
    (hn.insert r id) hne
  have hprepared := PreparedInsert.ofText?_render w.dialect hn.table (hn.insert r id) hne
  rw [text_insert, params_insert] at hbinds
  rw [text_insert, prepared_insert] at hprepared
  exact ⟨_, _, answer, rfl, hbinds, .insert hid hprepared rfl⟩

/-- **The statements of a record** line up with it. -/
theorem Saved.linesUp (hn : w.Named paths) {ids ids' : IdGenerator} {es : List Exchange}
    {outcome : Except Error Record} (h : w.Saved connection paths r ids es outcome ids') :
    ∀ e ∈ es, w.LinesUp paths connection r e := by
  intro e he
  cases h with
  | updated hid htruthy _ =>
    rw [List.mem_singleton.1 he]
    exact linesUp_updating connection hn hid htruthy _
  | updateFailed error hid htruthy =>
    rw [List.mem_singleton.1 he]
    exact linesUp_updating connection hn hid htruthy _
  | inserted answer hid htruthy _ =>
    rcases List.mem_cons.1 he with rfl | he
    · exact linesUp_updating connection hn hid htruthy _
    · rw [List.mem_singleton.1 he]
      exact linesUp_inserting connection hn (.inl ⟨hid, htruthy⟩) answer
  | created answer hnone _ =>
    rw [List.mem_singleton.1 he]
    exact linesUp_inserting connection hn (.inr ⟨hnone, ids, rfl⟩) answer

/-- **The statements of records** line up with them. -/
theorem linesUp_of_dialogue {model : List String} {records : List Record}
    {ids ids' : IdGenerator} {es : List Exchange} {outcome : Except Error (List Record)}
    (hn : w.Named (w.writablePaths model))
    (h : Work.Dialogue w.dialect connection (w.writeRecords model records).run ids es outcome
      ids') : ∀ e ∈ es, ∃ r ∈ records, w.LinesUp (w.writablePaths model) connection r e := by
  intro e he
  obtain ⟨r, hr, _, _, _, _, hsaved, hmem⟩ :=
    InTurn.exists_step_of_mem (w.written_of_dialogue connection h) he
  exact ⟨r, hr, hsaved.linesUp connection hn e hmem⟩

end Writer

/-! ## §3. All statements of a write. -/

/-- **Every statement of a write lines up** with one of the records, whatever the settings say as
long as they are accepted, and whatever the backend answers. -/
theorem Writer.linesUp_writeRecords {σ : Type} (b : Backend σ) (x : Executor) {connection : Nat}
    {c : Context (σ × List Exchange)} (hlive : c.connectionOf? x.transaction = some connection)
    {settings : WriteSettings} (hcheck : settings.check = .ok ()) (card : SoundCard)
    (model : List String) (records : List Record) :
    let w : Writer := ⟨card.toCard, settings, x.dialect⟩
    ∃ es, ((x.perform b.recorded (w.writeRecords model records)).run c).2.backend.2
        = c.backend.2 ++ es
      ∧ ∀ e ∈ es, ∃ r ∈ records, w.LinesUp (w.writablePaths model) connection r e := by
  intro w
  obtain ⟨es, hdialogue, htrace, _⟩ :=
    Executor.dialogue_perform b x (w.writeRecords model records) c hlive
  exact ⟨es, htrace, linesUp_of_dialogue connection
    (named_writablePaths hcheck card x.dialect model) hdialogue⟩

/-- A writer for Oracle with quotes, question marks and the clock in the texts of its settings. -/
def quotedWriter : Writer where
  card := personCard.toCard
  settings := { WriteSettings.standard with
    actor := "it's ?", department := "SYSDATE()", notDeletedValue := "N'" }
  dialect := .oracle

theorem check_quotedWriter : quotedWriter.settings.check = .ok () :=
  WriteSettings.check_of_isOk (by decide +kernel)

theorem check_standard : WriteSettings.standard.check = .ok () :=
  WriteSettings.check_of_isOk (by decide +kernel)

/-- A context with a transaction on a connection. -/
def liveContext : Context (Unit × List Exchange) :=
  { Context.ofBackend ((), []) default with transactions := [some 7] }

/-- A person is looked for and inserted, and both statements line up. -/
theorem linesUp_quotedPerson :
    let r := Record.ofList [("ID", .string "P1"), ("name", .string "Li")]
    ∃ es, ((Executor.perform Cards.emptyTables.recorded ⟨"default", .oracle, 0⟩
        (quotedWriter.writeRecords ["name"] [r])).run liveContext).2.backend.2 = es
      ∧ es.length = 2
      ∧ ∀ e ∈ es, quotedWriter.LinesUp (quotedWriter.writablePaths ["name"]) 7 r e := by
  intro r
  have hlive : liveContext.connectionOf? 0 = some 7 := rfl
  have hlength : ((Executor.perform Cards.emptyTables.recorded ⟨"default", .oracle, 0⟩
      (quotedWriter.writeRecords ["name"] [r])).run liveContext).2.backend.2.length = 2 := by
    decide +kernel
  have hwriter : (⟨personCard.toCard, quotedWriter.settings, .oracle⟩ : Writer) = quotedWriter :=
    rfl
  have hnil : liveContext.backend.2 = [] := rfl
  have h := Writer.linesUp_writeRecords Cards.emptyTables ⟨"default", .oracle, 0⟩ hlive
    check_quotedWriter personCard ["name"] [r]
  dsimp only at h
  rw [hwriter, hnil] at h
  obtain ⟨es, htrace, hes⟩ := h
  rw [List.nil_append] at htrace
  rw [htrace] at hlength
  refine ⟨es, htrace, hlength, ?_⟩
  intro e he
  obtain ⟨r', hr', hup⟩ := hes e he
  rw [List.mem_singleton.1 hr'] at hup
  exact hup

end CardStore
