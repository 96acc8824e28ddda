/-
  CardStore.Proofs.Cards.Read
  ───────────────────────────
  **IN WHICH DATABASE A READ JOINS.**

  A read is sent to the database of its card.  Cards name their databases each
  for itself, and a reference may lead to a card of another one: the read then
  joins the table of that card where its own card lives.  Only a card from
  which no reference leads out of its database is read within it.

  Main statements:
    * `Cards.run_read_of_compiled` — the statement of a read goes to the database of its card.
    * `Cards.faithful_of_run_compile` — a read joins cards that references lead to.
    * `Cards.exists_run_compile_of_through` — and each such card is joined by a read.
    * `Cards.joinsWithin_iff` — when reads of a card stay within its database.
-/
import CardStore.Cards.Read
import CardStore.Proofs.Cards.Write
import CardStore.Proofs.Query.Tables

namespace CardStore

namespace Cards

variable {σ : Type} {b : Backend σ} {cards : String → Except Error SoundCard}

/-! ## §1. The statement of a read. -/

/-- **A read is sent to the database of its card**, once its card is loaded and its statement is
composed, and answers the rows as records. -/
theorem run_read_of_compiled {c c₁ c₂ : Context σ} {name : String} {root : SoundCard}
    {db : Database} {model : List String} {options : ReadOptions} {q : CompiledQuery}
    (hload : (load b name).run c = (.ok root, c₁)) (hdb : c₁.database root.database = .ok db)
    (hq : (withLoads b (Query.compile root model options.toQuery)).run c₁ = (.ok q, c₂)) :
    (read b name model options).run c
      = (do
          let rows ← Database.query b db (q.text db.dialect) q.params
          return rows.reshape q.model : Action σ (List Record)).run c₂ := by
  rw [read, Action.run_bind_ok hload, Action.run_bind_ok (Registry.run_find hdb),
    Action.run_bind_ok hq]

/-- **A read joins cards that references lead to** from its own card. -/
theorem faithful_of_run_compile {c c' : Context σ} (hsteady : Steady b cards c) {root : SoundCard}
    {model : List String} {options : QueryOptions} {q : CompiledQuery}
    (h : (withLoads b (Query.compile root model options)).run c = (.ok q, c')) :
    q.tables.Faithful cards root := by
  rw [Query.run_compile, Prod.mk.injEq] at h
  obtain ⟨r, hr, hq⟩ := bind_eq_ok_iff.1 h.1
  obtain ⟨condition, order, _, _, rfl⟩ := Query.Resolved.assemble_eq_ok_iff.1 hq
  rw [(hsteady.run_withLoads _).1] at hr
  exact Query.faithful_of_resolveAll hr

/-- **Each card that references lead to** is joined by a read without filter and order. -/
theorem exists_run_compile_of_through {c : Context σ} (hsteady : Steady b cards c)
    {root card : SoundCard} {names : List String} {hops : List Hop}
    (h : Through cards root names hops card) :
    ∃ model q c' position,
      (withLoads b (Query.compile root model .unrestricted)).run c = (.ok q, c')
        ∧ q.tables.root = root ∧ q.tables.cardAt? position = some card := by
  obtain ⟨r, position, hr, hroot, hcard⟩ := Query.exists_resolveAll_of_through h
  have hanswer : ((withLoads b (Query.resolveAll root
      [idPath, Query.pathOf (names ++ [idPath])] [])).run c).1 = .ok r := by
    rw [(hsteady.run_withLoads _).1]
    exact hr
  have hcompile : ((withLoads b (Query.compile root
      [idPath, Query.pathOf (names ++ [idPath])] .unrestricted)).run c).1
        = r.assemble .unrestricted := by
    rw [Query.run_compile]
    show ((withLoads b (Query.resolveAll root _ [])).run c).1 >>= _ = _
    rw [hanswer]
    rfl
  exact ⟨_, _, _, position, Prod.ext (hcompile.trans rfl) rfl, hroot, hcard⟩

/-! ## §2. Reads within a database. -/

/-- **In which database a read joins.** Of a card that lives in a registered database, every read
whose statement is composed sends it there, and joins cards that references lead to.  That all of
these cards live in that database, whatever is read, holds exactly if every card lives there that
references lead to from the card. -/
theorem joinsWithin_iff (b : Backend σ) (cards : String → Except Error SoundCard)
    (c c₁ : Context σ) (name : String) (root : SoundCard) (db : Database)
    (hsteady : Steady b cards c) (hload : (load b name).run c = (.ok root, c₁))
    (hdb : c₁.database root.database = .ok db) :
    (∀ model options q c₂,
        (withLoads b (Query.compile root model (ReadOptions.toQuery options))).run c₁
            = (.ok q, c₂) →
          (read b name model options).run c
              = (do
                  let rows ← Database.query b db (q.text db.dialect) q.params
                  return rows.reshape q.model : Action σ (List Record)).run c₂
            ∧ ∀ j ∈ q.tables.joins, ∃ names hops, Through cards root names hops j.card)
      ∧ ((∀ model options q c₂,
          (withLoads b (Query.compile root model (ReadOptions.toQuery options))).run c₁
              = (.ok q, c₂) →
            ∀ j ∈ q.tables.joins, c₁.database j.card.database = .ok db)
        ↔ ∀ names hops card, Through cards root names hops card →
            c₁.database card.database = .ok db) := by
  have hsteady₁ : Steady b cards c₁ := by
    have hlater := (hsteady.run_load name).2
    rw [hload] at hlater
    exact hlater
  have hthrough {model : List String} {options : ReadOptions} {q : CompiledQuery}
      {c₂ : Context σ}
      (hq : (withLoads b (Query.compile root model options.toQuery)).run c₁ = (.ok q, c₂)) :
      ∀ j ∈ q.tables.joins, ∃ names hops, Through cards root names hops j.card := by
    intro j hj
    obtain ⟨position, hcard⟩ := Tables.exists_cardAt?_of_mem hj
    exact (faithful_of_run_compile hsteady₁ hq).reached position j.card hcard
  refine ⟨fun model options q c₂ hq => ⟨run_read_of_compiled hload hdb hq, hthrough hq⟩, ?_, ?_⟩
  · intro h names hops card hcard
    obtain ⟨model, q, c₂, position, hq, hroot, hat⟩ := exists_run_compile_of_through hsteady₁ hcard
    rcases Tables.eq_root_or_exists_join hat with rfl | ⟨j, hj, rfl⟩
    · rw [hroot]
      exact hdb
    · exact h model (.query .unrestricted) q c₂ hq j hj
  · intro h model options q c₂ hq j hj
    obtain ⟨names, hops, hcard⟩ := hthrough hq j hj
    exact h names hops j.card hcard

/-! ## §3. People and departments in one database. -/

/-- People and departments live in the default database, and so does all that a person is read
with. -/
theorem joinsWithin_staff :
    ∃ cards c₁ db, Steady emptyTables.recorded cards staffContext
      ∧ (load emptyTables.recorded "person").run staffContext = (.ok personCard, c₁)
      ∧ c₁.database personCard.database = .ok db
      ∧ ∀ model options q c₂, (withLoads emptyTables.recorded
          (Query.compile personCard model (ReadOptions.toQuery options))).run c₁ = (.ok q, c₂) →
        ∀ j ∈ q.tables.joins, c₁.database j.card.database = .ok db := by
  have hsource : staffContext.cards.source
      = .descriptors (.ofList (staffCards.map fun c => (c.name, c))) := rfl
  have hsteady := steady_of_descriptors emptyTables.recorded hsource
  have hload : ((load emptyTables.recorded "person").run staffContext).1 = .ok personCard := rfl
  have hdb : ((load emptyTables.recorded "person").run staffContext).2.database
      personCard.database = .ok ⟨"default", .mysql, .ofConfig .standard⟩ := rfl
  have hnone : ∀ d ∈ (OrderedMap.ofList (staffCards.map fun c => (c.name, c))).toList,
      d.2.database = none := by decide +kernel
  refine ⟨_, _, _, hsteady, Prod.ext hload rfl, hdb, ?_⟩
  refine (joinsWithin_iff emptyTables.recorded _ staffContext _ "person" personCard _ hsteady
    (Prod.ext hload rfl) hdb).2.2 ?_
  intro names hops card hthrough
  rcases hthrough.eq_or_exists with rfl | ⟨name, hname⟩
  · exact hdb
  · rw [hnone _ (Card.Store.mem_of_described hname)]
    exact hdb

/-! ## §4. People, and departments in another database. -/

/-- Departments in the archive. -/
def archivedDepartment : SoundCard :=
  ⟨((Card.ofTable "department" "DEPT").withDatabase "archive").withField "name" "MC" "Text",
    by decide +kernel⟩

/-- A context with both databases. -/
def archiveContext : Context (Unit × List Exchange) :=
  { Context.ofBackend ((), []) default with
    cards := .ofSource (.ofCards [personCard.toCard, archivedDepartment.toCard])
    databases := .ofList [("default", ⟨"default", .mysql, .ofConfig .standard⟩),
      ("archive", ⟨"archive", .mysql, .ofConfig .standard⟩)] }

/-- The statement that a backend was asked for. -/
def Exchange.sql? : Exchange → Option String
  | .queried _ _ sql _ _ | .executed _ _ sql _ _ => some sql
  | _ => none

/-- A person is read with the name of the department: the statement goes to the default database,
and joins the table of the archive there. -/
theorem not_joinsWithin_archive :
    ∃ c₁ q c₂ j, (load emptyTables.recorded "person").run archiveContext = (.ok personCard, c₁)
      ∧ (c₁.database personCard.database).toOption.map (·.name) = some "default"
      ∧ (withLoads emptyTables.recorded
          (Query.compile personCard ["department.name"] .unrestricted)).run c₁ = (.ok q, c₂)
      ∧ ((read emptyTables.recorded "person" ["department.name"]
          (.query .unrestricted)).run archiveContext).2.backend.2.filterMap Exchange.sql?
        = ["SELECT T0.ID C0,T1.MC C1 FROM STAFF T0 LEFT JOIN DEPT T1 ON T0.DEPT_ID=T1.ID LIMIT 0,100"]
      ∧ j ∈ q.tables.joins
      ∧ (c₁.database j.card.database).toOption.map (·.name) = some "archive" := by
  have hjoins : ((withLoads emptyTables.recorded (Query.compile personCard ["department.name"]
      .unrestricted)).run ((load emptyTables.recorded "person").run archiveContext).2).1.toOption.map
        (fun q => q.tables.joins) = some [⟨0, "DEPT_ID", archivedDepartment⟩] := by decide +kernel
  obtain ⟨q, c₂, hq, hjoin⟩ := Action.exists_run_of_map hjoins
  have hload : ((load emptyTables.recorded "person").run archiveContext).1 = .ok personCard := rfl
  refine ⟨_, q, c₂, ⟨0, "DEPT_ID", archivedDepartment⟩, Prod.ext hload rfl, ?_, hq, ?_, ?_, ?_⟩
  · decide +kernel
  · decide +kernel
  · rw [hjoin]
    exact List.mem_singleton_self _
  · decide +kernel

end Cards

end CardStore
