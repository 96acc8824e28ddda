/-
  CardStore.Proofs.Cards.Write
  ────────────────────────────
  **WHAT A WRITE OF SEVERAL GROUPS SENDS.**

  All groups are written in one transaction, one after another, and the
  statements in it are exactly those that the records call for.  The first
  statement that fails is the last one, and the rollback is all that follows.
  A write that succeeds answers the records of all groups in their order.

  Main statements:
    * `Cards.prescribed_of_dialogue` — what is sent for groups.
    * `Cards.sent_trans` — what is sent in the transaction of a write.
    * `Cards.sent_writeMany` — what a backend sees of a write, and what comes of it.
-/
import CardStore.Cards.Write
import CardStore.Proofs.Database.Transaction
import CardStore.Proofs.Query.Joins
import CardStore.Proofs.Write.Save

namespace CardStore.Cards

variable {σ : Type}

/-! ## §1. Groups. -/

/-- **What is sent to write groups**: the records of each group, one group after another. -/
def Prescribed (settings : WriteSettings) (d : Sql.Dialect) (connection : Nat)
    (groups : List (WriteGroup × SoundCard)) :
    IdGenerator → List Exchange → Except Error (List (List Record)) → IdGenerator → Prop :=
  InTurn (fun g => Writer.Written ⟨g.2.toCard, settings, d⟩ connection g.1.model g.1.records) groups

theorem prescribed_of_dialogue (settings : WriteSettings) (d : Sql.Dialect) (connection : Nat) :
    ∀ (groups : List (WriteGroup × SoundCard)) {ids ids' : IdGenerator} {es : List Exchange}
      {outcome : Except Error (List (List Record))},
      Work.Dialogue d connection (writeGroups settings d groups).run ids es outcome ids' →
        Prescribed settings d connection groups ids es outcome ids' := by
  intro groups
  induction groups with
  | nil =>
    intro ids ids' es outcome h
    obtain ⟨rfl, rfl, rfl⟩ := Work.dialogue_pure_iff.1 h
    exact .done _
  | cons g groups ih =>
    intro ids ids' es outcome h
    have hgroup {ids ids' : IdGenerator} {es : List Exchange} {outcome : Except Error (List Record)}
        (hwrite : Work.Dialogue d connection (Writer.writeRecords ⟨g.2.toCard, settings, d⟩
          g.1.model g.1.records).run ids es outcome ids') :
        Writer.Written ⟨g.2.toCard, settings, d⟩ connection g.1.model g.1.records ids es outcome
          ids' := Writer.written_of_dialogue _ _ hwrite
    unfold Prescribed
    refine InTurn.of_dialogue ?_ ih h
    exact hgroup

/-- What comes of groups that were all written. -/
theorem Prescribed.returned {settings : WriteSettings} {d : Sql.Dialect} {connection : Nat}
    {groups : List (WriteGroup × SoundCard)} {ids ids' : IdGenerator} {es : List Exchange}
    {saved : List (List Record)}
    (h : Prescribed settings d connection groups ids es (.ok saved) ids') :
    List.Forall₂ (fun group => List.Forall₂ Record.Returned group.records)
      (groups.map Prod.fst) saved := by
  rw [List.forall₂_map_left_iff]
  refine InTurn.forall₂ ?_ h saved rfl
  intro g ids es records ids' hwritten
  exact Writer.Written.returned _ _ hwritten

/-- Loading cards keeps the groups. -/
theorem map_fst_of_run_loadAll {b : Backend σ} : ∀ {groups : List WriteGroup}
    {loaded : List (WriteGroup × SoundCard)} {c c' : Context σ},
    (loadAll b groups).run c = (.ok loaded, c') → loaded.map Prod.fst = groups := by
  intro groups
  induction groups with
  | nil =>
    intro loaded c c' h
    have hloaded : (.ok [], c) = ((.ok loaded, c') : Except Error _ × Context σ) := h
    rw [Prod.mk.injEq, Except.ok.injEq] at hloaded
    rw [← hloaded.1]
    rfl
  | cons g groups ih =>
    intro loaded c c' h
    obtain ⟨card, c₁, _, hrest⟩ := Action.run_bind_eq_ok_iff.1 h
    obtain ⟨rest, c₂, hothers, hpure⟩ := Action.run_bind_eq_ok_iff.1 hrest
    have hloaded : (.ok ((g, card) :: rest), c₂)
        = ((.ok loaded, c') : Except Error _ × Context σ) := hpure
    rw [Prod.mk.injEq, Except.ok.injEq] at hloaded
    rw [← hloaded.1, List.map_cons, ih hothers]

/-! ## §2. The transaction. -/

/-- **What a backend sees of a write** on a connection, and what comes of it. -/
inductive Sent (settings : WriteSettings) (d : Sql.Dialect) (connection : Nat)
    (groups : List (WriteGroup × SoundCard)) (ids : IdGenerator) :
    List Exchange → Except Error (List (List Record)) → Prop where
  /-- Nothing follows a transaction that cannot be begun. -/
  | refused (e : Error) : Sent settings d connection groups ids
    [.begun connection (.error e)] (.error e)
  /-- What was sent without a failure is committed. -/
  | committed {es : List Exchange} {saved : List (List Record)} {ids' : IdGenerator}
    (answer : Except Error Unit) :
    Prescribed settings d connection groups ids es (.ok saved) ids' →
    Sent settings d connection groups ids
      (.begun connection (.ok ()) :: es ++ [.committed connection answer])
      (answer.map fun _ => saved)
  /-- What failed is rolled back, and nothing follows but that. -/
  | rolledBack {es : List Exchange} {e : Error} {ids' : IdGenerator} (answer : Except Error Unit) :
    Prescribed settings d connection groups ids es (.error e) ids' →
    Sent settings d connection groups ids
      (.begun connection (.ok ()) :: es ++ [.rolledBack connection answer])
      (.error (Database.workError e))

theorem Sent.returned {settings : WriteSettings} {d : Sql.Dialect} {connection : Nat}
    {groups : List (WriteGroup × SoundCard)} {ids : IdGenerator} {es : List Exchange}
    {saved : List (List Record)} (h : Sent settings d connection groups ids es (.ok saved)) :
    List.Forall₂ (fun group => List.Forall₂ Record.Returned group.records)
      (groups.map Prod.fst) saved := by
  generalize houtcome : (Except.ok saved : Except Error (List (List Record))) = outcome at h
  cases h with
  | refused e => cases houtcome
  | committed answer hprescribed =>
    cases answer with
    | error e => cases houtcome
    | ok u =>
      rw [Except.ok.inj houtcome]
      exact hprescribed.returned
  | rolledBack answer hprescribed => cases houtcome

/-- A transaction in which groups are written. -/
theorem sent_of_transacted {settings : WriteSettings} {d : Sql.Dialect} {connection : Nat}
    {groups : List (WriteGroup × SoundCard)} {ids : IdGenerator} {es : List Exchange}
    {answer : Except Error (List (List Record))}
    (h : Database.Transacted d connection (writeGroups settings d groups) ids es answer) :
    Sent settings d connection groups ids es answer := by
  obtain ⟨hdialogue, hlast⟩ := h
  have hprescribed := prescribed_of_dialogue settings d connection groups hdialogue
  cases hlast with
  | committed saved answer => exact .committed answer hprescribed
  | rolledBack e answer => exact .rolledBack answer hprescribed

/-- **A transaction in which groups are written**, on whatever connection is lent to it. -/
theorem sent_trans (b : Backend σ) (db : Database) (settings : WriteSettings)
    (groups : List (WriteGroup × SoundCard)) (c : Context (σ × List Exchange)) :
    let written :=
      (Database.trans b.recorded db fun x => writeGroups settings x.dialect groups).run c
    ∃ pooling es, written.2.backend.2 = c.backend.2 ++ pooling ++ es
      ∧ (∀ e ∈ pooling, e.IsPooling)
      ∧ match ((Database.borrow b.recorded db.name).run c).1 with
        | .error e => es = [] ∧ written.1 = .error e
        | .ok lent => Sent settings db.dialect lent.connection groups c.ids es written.1 := by
  exact Database.seen_trans (P := fun connection => Sent settings db.dialect connection groups c.ids)
    b db (fun x => writeGroups settings x.dialect groups) c (fun _ e => .refused e)
    fun _ _ _ => sent_of_transacted

/-- What such a transaction answers. -/
theorem returned_trans (b : Backend σ) (db : Database) (settings : WriteSettings)
    (groups : List (WriteGroup × SoundCard)) (c : Context (σ × List Exchange))
    {saved : List (List Record)}
    (h : ((Database.trans b.recorded db fun x => writeGroups settings x.dialect groups).run c).1
      = .ok saved) :
    List.Forall₂ (fun group => List.Forall₂ Record.Returned group.records)
      (groups.map Prod.fst) saved := by
  obtain ⟨_, es, _, _, hcases⟩ := sent_trans b db settings groups c
  rw [h] at hcases
  cases hborrow : ((Database.borrow b.recorded db.name).run c).1 with
  | error e =>
    rw [hborrow] at hcases
    cases hcases.2
  | ok lent =>
    rw [hborrow] at hcases
    exact hcases.returned

/-- Groups whose cards are loaded are written in the database of the first card. -/
theorem run_writeMany_of_found {b : Backend σ} {groups : List WriteGroup}
    {first : WriteGroup × SoundCard} {others : List (WriteGroup × SoundCard)}
    {c c₁ : Context σ} {db : Database}
    (h : (loadAll b groups).run c = (.ok (first :: others), c₁))
    (hdb : c₁.database first.2.database = .ok db) :
    ∃ log, (writeMany b groups).run c = (Database.trans b db fun x =>
      writeGroups c₁.settings x.dialect (first :: others)).run { c₁ with log } := by
  -- what is noted changes nothing but the log, and the settings are read behind that
  exact ⟨writeEvent first.1.card groups.length db
    :: (elsewhereEvents db first.2 (others.map (·.2))).reverse ++ c₁.log,
    (Action.run_bind_ok h).trans (Action.run_bind_ok (Registry.run_find hdb))⟩

/-- **What a backend sees of a write of several groups**, and what comes of it. -/
theorem sent_writeMany (b : Backend σ) (groups : List WriteGroup)
    (loaded : List (WriteGroup × SoundCard)) (c c₁ : Context (σ × List Exchange))
    (h : (loadAll b.recorded groups).run c = (.ok loaded, c₁)) :
    let written := (writeMany b.recorded groups).run c
    loaded.map Prod.fst = groups
      ∧ (∀ saved, written.1 = .ok saved →
        List.Forall₂ (fun group => List.Forall₂ Record.Returned group.records) groups saved)
      ∧ match loaded with
        | [] => written = (.ok [], c₁)
        | (_, card) :: _ => match c₁.database card.database with
          | .error e => written = (.error e, c₁)
          | .ok db => ∃ log pooling es,
            written.2.backend.2 = c₁.backend.2 ++ pooling ++ es
              ∧ (∀ e ∈ pooling, e.IsPooling)
              ∧ match ((Database.borrow b.recorded db.name).run { c₁ with log }).1 with
                | .error e => es = [] ∧ written.1 = .error e
                | .ok lent =>
                  Sent c₁.settings db.dialect lent.connection loaded c₁.ids es written.1 := by
  intro written
  have hgroups := map_fst_of_run_loadAll h
  have hwritten : written = _ := Action.run_bind_ok h
  refine ⟨hgroups, ?_⟩
  cases loaded with
  | nil =>
    have hdone : written = (.ok [], c₁) := hwritten
    rw [hdone]
    refine ⟨?_, rfl⟩
    intro saved hsaved
    rw [← Except.ok.inj hsaved, ← hgroups]
    exact .nil
  | cons first others =>
    show _ ∧ match c₁.database first.2.database with
      | .error e => written = (.error e, c₁)
      | .ok db => _
    cases hdb : c₁.database first.2.database with
    | error e =>
      have hfind : (Registry.find first.2.database).run c₁ = (.error e, c₁) := by
        show (c₁.database first.2.database, c₁) = _
        rw [hdb]
      have hdone : written = (.error e, c₁) := hwritten.trans (Action.run_bind_error hfind)
      rw [hdone]
      exact ⟨nofun, rfl⟩
    | ok db =>
      obtain ⟨log, hrun⟩ := run_writeMany_of_found h hdb
      have hrun : written = _ := hrun
      rw [hrun]
      refine ⟨?_, log, sent_trans b db c₁.settings (first :: others) { c₁ with log }⟩
      intro saved hsaved
      rw [← hgroups]
      exact returned_trans b db c₁.settings (first :: others) { c₁ with log } hsaved

/-! ## §3. A new person and a new department. -/

/-- A backend that finds no row to update, and inserts everything. -/
def emptyTables : Backend Unit where
  connect _ s := (.ok 7, s)
  query _ _ _ _ s := (.ok .empty, s)
  execute _ _ sql _ s := (.ok (.ofAffected (if sql.startsWith "UPDATE" then 0 else 1)), s)
  begin _ s := (.ok (), s)
  commit _ s := (.ok (), s)
  rollback _ s := (.ok (), s)
  isValid _ s := (true, s)
  close _ s := (.ok (), s)

/-- A context with the cards of people and departments. -/
def staffContext : Context (Unit × List Exchange) :=
  { Context.ofDatabase ⟨"default", .mysql, .ofConfig .standard⟩ with
    cards := .ofSource (.ofCards staffCards) }

/-- A person with an identifier, and a department that is to get one. -/
def staffGroups : List WriteGroup :=
  [⟨"person", ["name"], [.ofList [("ID", .string "P1"), ("name", .string "Li")]]⟩,
    ⟨"department", ["name"], [.ofList [("ID", .int 0), ("name", .string "Sales")]]⟩]

/-- The person is looked for and inserted, the department is inserted under a new identifier. -/
theorem sent_staffGroups :
    ∃ loaded c₁, (loadAll emptyTables.recorded staffGroups).run staffContext = (.ok loaded, c₁)
      ∧ ∃ saved, ((writeMany emptyTables.recorded staffGroups).run staffContext).1 = .ok saved
        ∧ ((writeMany emptyTables.recorded staffGroups).run staffContext).2.backend.2.length = 6
        ∧ List.Forall₂ (fun group => List.Forall₂ Record.Returned group.records) staffGroups
          saved := by
  have hok : ((loadAll emptyTables.recorded staffGroups).run staffContext).1.isOk = true := by
    decide +kernel
  have hwritten : ((writeMany emptyTables.recorded staffGroups).run staffContext).1.isOk
      = true := by decide +kernel
  cases hrun : (loadAll emptyTables.recorded staffGroups).run staffContext with
  | mk answer c₁ =>
    rw [hrun] at hok
    cases answer with
    | error e => cases hok
    | ok loaded =>
      cases hsaved : ((writeMany emptyTables.recorded staffGroups).run staffContext).1 with
      | error e =>
        rw [hsaved] at hwritten
        cases hwritten
      | ok saved =>
        have hsent := sent_writeMany emptyTables staffGroups loaded staffContext c₁ hrun
        -- a connection, the beginning, an update, two insertions and the commit
        exact ⟨loaded, c₁, rfl, saved, rfl, by decide +kernel, hsent.2.1 saved hsaved⟩

end CardStore.Cards
