/-
  CardStore.Proofs.Cards.TreeRead
  ───────────────────────────────
  **ON WHICH PATHS THE ROOTS OF A TREE READ DEPEND.**

  A tree read looks for its roots among the records that it has read, and a
  path that was not selected counts as null there.  So the roots are those of
  a read that selects the paths of the condition as well, but for the values
  that are missing.

  To select further paths leaves the rows that are read as they are if the
  paths are selected already, whatever the cards and the tables are.  Other
  paths may join tables.  These add no rows where no two rows of a table have
  one identifier, and no path finds a wrong table where the card is unforked.

  Main statements:
    * `Cards.joinAll_treeModel_append` — paths that are selected already join nothing.
    * `Cards.Addable.exists_joinAll` — other paths are resolved over tables with the same rows.
    * `Cards.Addable.exists_queries` — so the records of both queries hold the same values.
    * `Cards.roots_readTree` — the roots of a tree read, next to those of one that selects the
      paths of the condition.
    * `Cards.readTree_depends_on_model` — these need not be the same.
-/
import CardStore.Proofs.Cards.Fault
import CardStore.Proofs.Cards.Read
import CardStore.Proofs.Query.Tables
import CardStore.Proofs.Tree.Roots

namespace CardStore

open List (Forall₂)

/-- A model with the identifier in it stands for itself. -/
theorem Card.normalizeModel_of_mem {card : Card} {model : List String} (h : idPath ∈ model) :
    card.normalizeModel model = model := by
  have hgiven : ¬ (model = [] ∨ model = ["*"]) := by
    rintro (rfl | rfl)
    · cases h
    · exact absurd h (by decide)
  rw [normalizeModel, if_neg hgiven]
  exact if_pos h

namespace Cards

variable {σ : Type} {b : Backend σ} {cards : String → Except Error SoundCard} {e : Engine}
  {contents : Contents}

/-! ## §1. Paths that are added to a model. -/

/-- **Paths that can be added to a model** and leave the rows that are read as they are: the model
has them already, or they lead somewhere from an unforked card, and identifiers tell rows apart. -/
inductive Addable (cards : String → Except Error SoundCard) (e : Engine) (contents : Contents)
    (root : SoundCard) (selected paths : List String) : Prop where
  | selected : (∀ path ∈ paths, path ∈ selected) → Addable cards e contents root selected paths
  | unforked : Unforked cards root → contents.Identified e →
    (∀ path ∈ paths, ∃ d, follow cards root path = .ok d) →
      Addable cards e contents root selected paths

section Models

variable {root : SoundCard} {model paths more : List String} {parentPath : String} {t : Tables}

theorem treeModel_of_mem (h : parentPath ∈ root.normalizeModel model) :
    treeModel root model parentPath = root.normalizeModel model := by
  rw [treeModel, if_pos (List.contains_iff_mem.2 h)]

theorem treeModel_of_not_mem (h : parentPath ∉ root.normalizeModel model) :
    treeModel root model parentPath = root.normalizeModel model ++ [parentPath] := by
  rw [treeModel, if_neg fun hparent => h (List.contains_iff_mem.1 hparent)]

theorem mem_treeModel_iff {path : String} : path ∈ treeModel root model parentPath
    ↔ path ∈ root.normalizeModel model ∨ path = parentPath := by
  by_cases hparent : parentPath ∈ root.normalizeModel model
  · rw [treeModel_of_mem hparent]
    exact ⟨.inl, fun h => h.elim id fun hpath => hpath ▸ hparent⟩
  · rw [treeModel_of_not_mem hparent, List.mem_append, List.mem_singleton]

theorem normalizeModel_treeModel :
    root.normalizeModel (treeModel root model parentPath) = treeModel root model parentPath :=
  Card.normalizeModel_of_mem (mem_treeModel_iff.2 (.inl (root.idPath_mem_normalizeModel model)))

theorem normalizeModel_append :
    root.normalizeModel (root.normalizeModel model ++ paths)
      = root.normalizeModel model ++ paths :=
  Card.normalizeModel_of_mem (List.mem_append_left _ (root.idPath_mem_normalizeModel model))

/-- Paths that a tree read selects already join nothing when they are added to its model. -/
theorem joinAll_treeModel_append (hpaths : ∀ path ∈ paths, path ∈ treeModel root model parentPath)
    (h : Query.joinAll cards ⟨root, []⟩ (treeModel root model parentPath) = .ok t) :
    Query.joinAll cards ⟨root, []⟩
      (treeModel root (root.normalizeModel model ++ paths) parentPath) = .ok t := by
  have hroot := Tables.charted_root root
  by_cases hparent : parentPath ∈ root.normalizeModel model
  · rw [treeModel_of_mem hparent] at h hpaths
    have hparent' : parentPath ∈ root.normalizeModel (root.normalizeModel model ++ paths) := by
      rw [normalizeModel_append]
      exact List.mem_append_left _ hparent
    rw [treeModel_of_mem hparent', normalizeModel_append, ← List.append_nil paths]
    exact Query.joinAll_insert_of_subset hroot hpaths ((List.append_nil _).symm ▸ h)
  · rw [treeModel_of_not_mem hparent] at h
    have hother {path : String} (hpath : path ∈ paths) (hne : path ≠ parentPath) :
        path ∈ root.normalizeModel model :=
      (mem_treeModel_iff.1 (hpaths path hpath)).resolve_right hne
    by_cases hadded : parentPath ∈ paths
    -- the parent path is joined where it comes first among the paths that are added
    · have hparent' : parentPath ∈ root.normalizeModel (root.normalizeModel model ++ paths) := by
        rw [normalizeModel_append]
        exact List.mem_append_right _ hadded
      rw [treeModel_of_mem hparent', normalizeModel_append]
      obtain ⟨front, back, rfl, hfront⟩ := List.eq_append_cons_of_mem hadded
      have hfirst : Query.joinAll cards ⟨root, []⟩
          (root.normalizeModel model ++ (front ++ [parentPath])) = .ok t :=
        Query.joinAll_insert_of_subset hroot (fun path hpath =>
          hother (List.mem_append_left _ hpath) fun hsame => hfront (hsame ▸ hpath)) h
      have hbehind : ∀ path ∈ back,
          path ∈ root.normalizeModel model ++ (front ++ [parentPath]) := by
        intro path hpath
        by_cases hsame : path = parentPath
        · simp [hsame]
        · exact List.mem_append_left _ (hother (by simp [hpath]) hsame)
      have hsplit : root.normalizeModel model ++ (front ++ parentPath :: back)
          = root.normalizeModel model ++ (front ++ [parentPath]) ++ (back ++ []) := by simp
      rw [hsplit]
      exact Query.joinAll_insert_of_subset hroot hbehind (by rw [List.append_nil]; exact hfirst)
    · have hparent' : parentPath ∉ root.normalizeModel (root.normalizeModel model ++ paths) := by
        rw [normalizeModel_append, List.mem_append, not_or]
        exact ⟨hparent, hadded⟩
      rw [treeModel_of_not_mem hparent', normalizeModel_append, List.append_assoc]
      exact Query.joinAll_insert_of_subset hroot
        (fun path hpath => hother hpath fun hsame => hadded (hsame ▸ hpath)) h

/-- **Paths that can be added** to the model of a tree read are resolved next to it, over tables
with the same rows. -/
theorem Addable.exists_joinAll
    (h : Addable cards e contents root (treeModel root model parentPath) paths)
    (hjoin : Query.joinAll cards ⟨root, []⟩ (treeModel root model parentPath ++ more) = .ok t) :
    ∃ t', Query.joinAll cards ⟨root, []⟩
        (treeModel root (root.normalizeModel model ++ paths) parentPath ++ more) = .ok t'
      ∧ t.SameRows e contents t' := by
  cases h with
  | selected hpaths =>
    obtain ⟨t', hmodel, hmore⟩ := Query.joinAll_append_eq_ok_iff.1 hjoin
    exact ⟨t, Query.joinAll_append_eq_ok_iff.2
      ⟨t', joinAll_treeModel_append hpaths hmodel, hmore⟩, Tables.sameRows_refl e contents t⟩
  | unforked hfork hidentified hpaths =>
    have hroot : Tables.Faithful cards root ⟨root, []⟩ := Tables.faithful_root root
    have hleads := (Query.exists_joinAll_iff hfork hroot).1 ⟨t, hjoin⟩
    have hextended : ∀ path ∈
        treeModel root (root.normalizeModel model ++ paths) parentPath ++ more,
          ∃ d, follow cards root path = .ok d := by
      intro path hpath
      rw [List.mem_append, mem_treeModel_iff, normalizeModel_append, List.mem_append] at hpath
      rcases hpath with ((hpath | hpath) | hpath) | hpath
      · exact hleads path (List.mem_append_left _ (mem_treeModel_iff.2 (.inl hpath)))
      · exact hpaths path hpath
      · exact hleads path (List.mem_append_left _ (mem_treeModel_iff.2 (.inr hpath)))
      · exact hleads path (List.mem_append_right _ hpath)
    obtain ⟨t', hjoin'⟩ := (Query.exists_joinAll_iff hfork hroot).2 hextended
    exact ⟨t', hjoin', Tables.sameRows_of_faithful hfork hidentified
      (Query.faithful_of_joinAll hroot hjoin) (Query.faithful_of_joinAll hroot hjoin')⟩

/-- The model of what is composed for a tree read. -/
theorem model_of_assemble {query : QueryOptions} {r : Query.Resolved} {q : CompiledQuery}
    (hr : (Query.resolveAll root (treeModel root model parentPath) query.paths).run.eval cards
      = .ok r) (hq : r.assemble query = .ok q) : q.model = treeModel root model parentPath :=
  (Query.model_of_assemble (hr ▸ Script.yields_eval cards _) hq).trans normalizeModel_treeModel

/-- **The queries of two tree reads**, without and with the paths that are added: if the one is
composed, the other one is, and their records hold the same values. -/
theorem Addable.exists_queries {query : QueryOptions}
    (h : Addable cards e contents root (treeModel root model parentPath) paths)
    (hfault : ¬ Query.Fault cards root (treeModel root model parentPath) query) :
    ∃ r r' q q',
      (Query.resolveAll root (treeModel root model parentPath) query.paths).run.eval cards = .ok r
      ∧ (Query.resolveAll root (treeModel root (root.normalizeModel model ++ paths) parentPath)
          query.paths).run.eval cards = .ok r'
      ∧ r.assemble query = .ok q ∧ r'.assemble query = .ok q'
      ∧ ∀ (d : Sql.Dialect) (answer answer' : RowSet),
        Forall₂ Row.Shows answer.rows (q.select.answer e contents d) →
        Forall₂ Row.Shows answer'.rows (q'.select.answer e contents d) →
          Forall₂ (Record.Narrows q.model q'.model) (answer.reshape q.model)
            (answer'.reshape q'.model) := by
  obtain ⟨⟨r, hr⟩, hwell⟩ := Query.not_fault_iff.1 hfault
  have hjoin := Query.exists_resolveAll_iff.1 ⟨r, hr, rfl⟩
  rw [normalizeModel_treeModel] at hjoin
  obtain ⟨t', hjoin', hrows⟩ := h.exists_joinAll hjoin
  obtain ⟨r', hr', rfl⟩ := Query.exists_resolveAll_iff.2 (normalizeModel_treeModel.symm ▸ hjoin')
  have hyields := hr ▸ Script.yields_eval cards _
  have hyields' := hr' ▸ Script.yields_eval cards _
  obtain ⟨q, hq⟩ := (Query.exists_assemble_iff hyields).2 hwell
  obtain ⟨q', hq'⟩ := (Query.exists_assemble_iff hyields').2 hwell
  exact ⟨r, r', q, q', hr, hr', hq, hq', fun _ _ _ hshows hshows' =>
    Query.forall₂_narrows hyields hyields' hq hq' hrows hshows hshows'⟩

end Models

/-! ## §2. Runs of tree reads. -/

/-- A card that has been loaded is kept. -/
theorem cached?_of_run_load {name : String} {card : SoundCard} {c c' : Context σ}
    (h : (load b name).run c = (.ok card, c')) : c'.cards.cached? name = some card := by
  have hget : (get : Action σ (Context σ)).run c = (.ok c, c) := rfl
  cases hcached : c.cards.cached? name with
  | some earlier =>
    rw [run_load_of_cached b hcached, Prod.mk.injEq, Except.ok.injEq] at h
    rw [← h.1, ← h.2, hcached]
  | none =>
    rw [load, Action.run_bind_ok hget, hcached] at h
    obtain ⟨found, c₁, _, h⟩ := Action.run_bind_eq_ok_iff.1 h
    cases found with
    | none => cases h
    | some found =>
      obtain ⟨sound, c₂, _, h⟩ := Action.run_bind_eq_ok_iff.1 h
      obtain ⟨_, c₃, _, h⟩ := Action.run_bind_eq_ok_iff.1 h
      rw [Action.run_change, Prod.mk.injEq, Except.ok.injEq] at h
      rw [← h.1, ← h.2]
      exact (Card.Store.cached?_keep _ _ _ _).trans (if_pos rfl)

/-- The context in which a tree read reads: a parent path that is not selected has been noted. -/
def treeContext (root : SoundCard) (name : String) (model : List String) (parentPath : String)
    (c : Context σ) : Context σ :=
  if (root.normalizeModel model).contains parentPath then c
  else c.note (parentAddedEvent name parentPath)

theorem exists_treeContext_eq (root : SoundCard) (name : String) (model : List String)
    (parentPath : String) (c : Context σ) :
    ∃ log, treeContext root name model parentPath c = { c with log } := by
  rw [treeContext]
  split
  · exact ⟨c.log, rfl⟩
  · exact ⟨_, rfl⟩

/-- **A tree read nests the records of the read of its model and the parent path.** -/
theorem exists_run_readTree {name : String} {root : SoundCard} {model : List String}
    {parentPath : String} {records : List Record} {c c₁ c₂ : Context σ} (options : TreeOptions)
    (hload : (load b name).run c = (.ok root, c₁))
    (hread : (read b name (treeModel root model parentPath) options.given).run
      (treeContext root name model parentPath c₁) = (.ok records, c₂)) :
    ∃ c₃, (readTree b name model parentPath options).run c
      = (.ok (Tree.assemble records parentPath options.root), c₃) := by
  have hnested {paths : List String} {c' : Context σ}
      (hrun : (read b name paths options.given).run c' = (.ok records, c₂)) :
      (do
        let records ← read b name paths options.given
        Action.noteAll (Tree.events records parentPath options.root)
        return Tree.assemble records parentPath options.root : Action σ (List Record)).run c'
      = (.ok (Tree.assemble records parentPath options.root),
        { c₂ with log := (Tree.events records parentPath options.root).reverse ++ c₂.log }) := by
    rw [Action.run_bind_ok hrun]
    rfl
  rw [readTree, Action.run_bind_ok hload]
  rw [treeContext, treeModel] at hread
  dsimp only
  cases hparent : (root.normalizeModel model).contains parentPath with
  | true =>
    rw [hparent, if_pos rfl, if_pos rfl] at hread
    exact ⟨_, hnested hread⟩
  | false =>
    rw [hparent, if_neg Bool.false_ne_true, if_neg Bool.false_ne_true] at hread
    exact ⟨_, (Action.run_bind_ok (Action.run_note _ c₁)).trans (hnested hread)⟩

/-- **A query is answered** by the rows that its selection means. -/
def Answers (b : Backend σ) (db : Database) (e : Engine) (contents : Contents)
    (q : CompiledQuery) (c : Context σ) : Prop :=
  ∃ answer c', (Database.query b db (q.text db.dialect) q.params).run c = (.ok answer, c')
    ∧ Forall₂ Row.Shows answer.rows (q.select.answer e contents db.dialect)

/-- **A tree read is answered** if the query is that it sends once its card is loaded. -/
def AnswersTree (b : Backend σ) (db : Database) (e : Engine) (contents : Contents)
    (root : SoundCard) (name : String) (parentPath : String) (query : QueryOptions)
    (c : Context σ) (model : List String) : Prop :=
  ∀ q c', (withLoads b (Query.compile root (treeModel root model parentPath) query)).run
    (treeContext root name model parentPath c) = (.ok q, c') → Answers b db e contents q c'

/-- The records that a tree read nests are those of the answer to its query. -/
theorem exists_run_read {name : String} {root : SoundCard} {db : Database} {model : List String}
    {parentPath : String} {given : ReadOptions} {r : Query.Resolved} {q : CompiledQuery}
    {c c₁ : Context σ} (hload : (load b name).run c = (.ok root, c₁))
    (hdb : c₁.database root.database = .ok db) (hsteady : ∀ log, Steady b cards { c₁ with log })
    (hanswers : AnswersTree b db e contents root name parentPath given.toQuery c₁ model)
    (hr : (Query.resolveAll root (treeModel root model parentPath) given.toQuery.paths).run.eval
      cards = .ok r)
    (hq : r.assemble given.toQuery = .ok q) :
    ∃ (answer : RowSet) (c₂ : Context σ), (read b name (treeModel root model parentPath) given).run
        (treeContext root name model parentPath c₁) = (.ok (answer.reshape q.model), c₂)
      ∧ Forall₂ Row.Shows answer.rows (q.select.answer e contents db.dialect) := by
  obtain ⟨log, hcontext⟩ := exists_treeContext_eq root name model parentPath c₁
  rw [AnswersTree, hcontext] at hanswers
  rw [hcontext]
  -- the card is kept since the first load, so the second one changes nothing
  have hcached : c₁.cards.cached? name = some root := cached?_of_run_load hload
  have hagain := run_load_of_cached b (c := { c₁ with log }) hcached
  have hanswer : ((withLoads b (Query.compile root (treeModel root model parentPath)
      given.toQuery)).run { c₁ with log }).1 = .ok q := by
    rw [((hsteady log).run_withLoads _).1]
    exact Script.eval_bind_eq_ok_iff.2 ⟨r, hr, hq⟩
  have hcompile : (withLoads b (Query.compile root (treeModel root model parentPath)
      given.toQuery)).run { c₁ with log } = (.ok q, _) := Prod.ext hanswer rfl
  obtain ⟨answer, c₂, hquery, hshows⟩ := hanswers q _ hcompile
  refine ⟨answer, c₂, ?_, hshows⟩
  rw [run_read_of_compiled hagain hdb hcompile, Action.run_bind_ok hquery]
  rfl

/-! ## §3. The roots of tree reads. -/

/-- **On which paths the roots of a tree read depend.** A tree read whose model is extended by the
paths of the condition on roots has the records for roots that meet the condition.  The tree read
of the model itself has those for roots that meet it with null in place of the paths that it does
not select.  So the roots are the same, in the same order, if it selects all paths of the
condition. -/
theorem roots_readTree (b : Backend σ) (cards : String → Except Error SoundCard) (e : Engine)
    (contents : Contents) (c c₁ : Context σ) (name : String) (root : SoundCard) (db : Database)
    (model : List String) (parentPath : String) (condition : Record) (given : ReadOptions)
    (hload : (load b name).run c = (.ok root, c₁)) (hdb : c₁.database root.database = .ok db)
    (hsteady : ∀ log, Steady b cards { c₁ with log })
    (hfault : ¬ Query.Fault cards root (treeModel root model parentPath) given.toQuery)
    (hanswers : ∀ m ∈ [model, root.normalizeModel model ++ condition.paths],
      AnswersTree b db e contents root name parentPath given.toQuery c₁ m)
    (hpaths : Addable cards e contents root (treeModel root model parentPath) condition.paths) :
    ∃ trees trees' records c₂ c₃ c₄,
      (readTree b name model parentPath ⟨some condition, given⟩).run c = (.ok trees, c₂)
      ∧ (readTree b name (root.normalizeModel model ++ condition.paths) parentPath
          ⟨some condition, given⟩).run c = (.ok trees', c₃)
      ∧ (read b name (treeModel root (root.normalizeModel model ++ condition.paths) parentPath)
          given).run (treeContext root name (root.normalizeModel model ++ condition.paths)
            parentPath c₁) = (.ok records, c₄)
      ∧ trees'.map Record.id? = (records.filter (Tree.isRoot condition)).map Record.id?
      ∧ trees.map Record.id? = (records.filter (Tree.isRootWithin
          (treeModel root model parentPath) condition)).map Record.id?
      ∧ ((∀ path ∈ condition.paths, path ∈ treeModel root model parentPath) →
        trees.map Record.id? = trees'.map Record.id?) := by
  obtain ⟨hanswered, hanswered'⟩ := List.forall_mem_cons.1 hanswers
  obtain ⟨r, r', q, q', hr, hr', hq, hq', hnarrows⟩ := hpaths.exists_queries hfault
  obtain ⟨answer, c₂, hread, hshows⟩ := exists_run_read hload hdb hsteady hanswered hr hq
  obtain ⟨answer', c₃, hread', hshows'⟩ := exists_run_read hload hdb hsteady
    (List.forall_mem_singleton.1 hanswered') hr' hq'
  have hrecords := hnarrows db.dialect answer answer' hshows hshows'
  rw [model_of_assemble hr hq, model_of_assemble hr' hq'] at hrecords
  rw [model_of_assemble hr hq] at hread
  rw [model_of_assemble hr' hq'] at hread'
  obtain ⟨c₄, htrees⟩ := exists_run_readTree ⟨some condition, given⟩ hload hread
  obtain ⟨c₅, htrees'⟩ := exists_run_readTree ⟨some condition, given⟩ hload hread'
  have hid (m : List String) : idPath ∈ treeModel root m parentPath :=
    mem_treeModel_iff.2 (.inl (root.idPath_mem_normalizeModel m))
  have hadded : ∀ path ∈ condition.paths,
      path ∈ treeModel root (root.normalizeModel model ++ condition.paths) parentPath := by
    intro path hpath
    rw [mem_treeModel_iff, normalizeModel_append]
    exact .inl (List.mem_append_right _ hpath)
  have hroots' := Tree.map_id?_assemble
    (answer'.reshape (treeModel root (root.normalizeModel model ++ condition.paths) parentPath))
    parentPath condition
  have hroots := (Tree.map_id?_assemble (answer.reshape (treeModel root model parentPath))
    parentPath condition).trans
      (Tree.map_id?_filter_of_narrows hrecords (hid _) (hid _) hadded)
  refine ⟨_, _, _, _, _, _, htrees, htrees', hread', hroots', hroots, fun hall => ?_⟩
  rw [hroots, Tree.isRootWithin_of_subset hall, hroots']

/-! ## §4. Units under units. -/

/-- A backend that answers the native texts of queries by the rows that their selections mean. -/
def answering (e : Engine) (contents : Contents) (d : Sql.Dialect) (queries : List CompiledQuery) :
    Backend Unit :=
  { emptyTables with
    query := fun _ _ native _ s => (.ok (.ofRows
      (((queries.find? fun q => d.render (q.text d) == native).elim [] fun q =>
        q.select.answer e contents d).map Row.positional)), s) }

theorem query_answering {d : Sql.Dialect} {queries : List CompiledQuery} {q : CompiledQuery}
    (hq : q ∈ queries) (hdistinct : (queries.map fun q => d.render (q.text d)).Nodup)
    (connection : Nat) (scope : Scope) (params : List Value) (s : Unit) :
    (answering e contents d queries).query connection scope (d.render (q.text d)) params s
      = (.ok (.ofRows ((q.select.answer e contents d).map Row.positional)), s) := by
  have hfound : (queries.find? fun p => d.render (p.text d) == d.render (q.text d)) = some q :=
    find?_of_nodup hdistinct hq
  rw [answering]
  dsimp only
  rw [hfound]
  rfl

/-- An engine that compares by text, finds no test true, and leaves rows where they are. -/
def textEngine : Engine where
  refers v id := v.text?.isSome && v.text? == id.text?
  meets _ _ _ := .false
  arrange keys := List.range keys.length

/-- Units, each of which may stand under another one. -/
def unitCard : SoundCard :=
  ⟨((Card.ofTable "unit" "UNIT").withField "name" "MC" "Text").withReference
    "parent" "PARENT_ID" "unit", by decide +kernel⟩

def unitDescriptors : OrderedMap Card := .ofList [("unit", unitCard.toCard)]

/-- The row of a unit. -/
def unitRow (id name : String) (parent : Value) : Cells
  | "ID" => .string id
  | "MC" => .string name
  | "PARENT_ID" => parent
  | _ => .null

/-- A unit, and another one under it. -/
def unitContents (table : String) : List Cells :=
  if table = "UNIT" then [unitRow "1" "A" .null, unitRow "2" "B" (.string "1")] else []

def unitDatabase : Database := ⟨"default", .mysql, .ofConfig .standard⟩

def unitContext : Context Unit :=
  { Context.ofBackend () default with
    cards := .ofSource (.descriptors unitDescriptors)
    databases := .ofList [("default", unitDatabase)] }

/-- The units under `A`. -/
def underA : Record := .ofList [("parent.name", .string "A")]

/-- The queries of the tree reads of names, without and with the paths of the condition. -/
def unitQueries : List CompiledQuery :=
  [["name"], unitCard.normalizeModel ["name"] ++ underA.paths].filterMap fun m =>
    ((Query.compile unitCard (treeModel unitCard m "parent") .unrestricted).run.eval
      (unitContext.cards.described unitDescriptors)).toOption

def unitBackend : Backend Unit := answering textEngine unitContents .mysql unitQueries

/-- The context behind the load of the card. -/
def unitsLoaded : Context Unit := ((load unitBackend "unit").run unitContext).2

theorem run_load_unit : (load unitBackend "unit").run unitContext = (.ok unitCard, unitsLoaded) :=
  Prod.ext rfl rfl

theorem undisturbed_unitsLoaded : unitContext.Undisturbed unitDescriptors unitsLoaded := by
  obtain ⟨c', hrun, hc'⟩ := run_load_of_descriptors unitBackend (c := unitContext) rfl "unit"
  rw [unitsLoaded, hrun]
  exact hc'

theorem nodup_unitQueries :
    (unitQueries.map fun q => Sql.Dialect.mysql.render (q.text .mysql)).Nodup := by
  decide +kernel

/-- Both queries are answered by the rows that they mean. -/
theorem answersTree_units : ∀ m ∈ [["name"], unitCard.normalizeModel ["name"] ++ underA.paths],
    AnswersTree unitBackend unitDatabase textEngine unitContents unitCard "unit" "parent"
      .unrestricted unitsLoaded m := by
  intro m hm q c' hcompile
  obtain ⟨log, hcontext⟩ := exists_treeContext_eq unitCard "unit" m "parent" unitsLoaded
  have hundisturbed := undisturbed_unitsLoaded.withLog log
  rw [hcontext] at hcompile
  obtain ⟨c'', hrun, hc''⟩ := run_withLoads_of_descriptors unitBackend
    (Query.compile unitCard (treeModel unitCard m "parent") .unrestricted) hundisturbed.source
  rw [hrun, Prod.mk.injEq, hundisturbed.described] at hcompile
  obtain ⟨hq, rfl⟩ := hcompile
  have hmem : q ∈ unitQueries := by
    refine List.mem_filterMap.2 ⟨m, hm, ?_⟩
    rw [hq]
    rfl
  have hanswer : ((Database.query unitBackend unitDatabase (q.text .mysql) q.params).run c'').1
      = .ok (.ofRows ((q.select.answer textEngine unitContents .mysql).map Row.positional)) := by
    rw [(hundisturbed.trans hc'').rest]
    exact congrArg Prod.fst (query_answering hmem nodup_unitQueries 0 .alone q.params ())
  refine ⟨_, _, Prod.ext hanswer rfl, ?_⟩
  exact List.forall₂_map_left_iff.2 (List.forall₂_same.2 fun _ _ => Row.shows_positional _)

/-- Every card that is answered is that of units, and it has one reference. -/
theorem unforked_unitCard : Unforked (unitContext.cards.described unitDescriptors) unitCard := by
  refine unforked_of_targets fun card hcard r hr r' hr' _ => ?_
  have hunit : card.toCard = unitCard.toCard := by
    rcases hcard with rfl | ⟨name, hname⟩
    · rfl
    · have hmem : (name, card.toCard) ∈ [("unit", unitCard.toCard)] :=
        Card.Store.mem_of_described hname
      exact (Prod.mk.inj (List.mem_singleton.1 hmem)).2
  have hone : card.references = [⟨none, "parent", "PARENT_ID", "unit", idType⟩] := by
    rw [hunit]
    rfl
  rw [hone] at hr hr'
  rw [List.mem_singleton.1 hr, List.mem_singleton.1 hr']

theorem refers_string_iff {v : Value} {text : String} :
    textEngine.refers v (.string text) = true ↔ v.text? = some text := by
  show (v.text?.isSome && v.text? == some text) = true ↔ _
  cases v.text? with
  | none => simp
  | some s => simp

/-- The two units have different identifiers. -/
theorem identified_unitContents : Contents.Identified unitContents textEngine := by
  intro table v
  rw [unitContents]
  split
  · have hid (id name : String) (parent : Value) : unitRow id name parent idPath = .string id := rfl
    rw [List.filter_cons, List.filter_cons, List.filter_nil, hid, hid]
    split
    · rename_i hfirst
      split
      · rename_i hsecond
        rw [refers_string_iff] at hfirst hsecond
        rw [hfirst] at hsecond
        exact absurd (Option.some.inj hsecond) (by decide)
      · exact Nat.le_refl _
    · split
      · exact Nat.le_refl _
      · exact Nat.zero_le _
  · exact Nat.zero_le _

theorem exists_follow_underA : ∀ path ∈ underA.paths,
    ∃ d, follow (unitContext.cards.described unitDescriptors) unitCard path = .ok d := by
  have hpaths : underA.paths = ["parent.name"] := rfl
  have hok : (follow (unitContext.cards.described unitDescriptors) unitCard "parent.name").isOk
      = true := by decide +kernel
  rw [hpaths]
  exact List.forall_mem_singleton.2 (exists_eq_ok_of_isOk hok)

/-- The tree read of names does not select the path of the condition, so no unit is under `A`. -/
theorem roots_readTree_units :
    ∃ trees trees' records c₂ c₃ c₄,
      (readTree unitBackend "unit" ["name"] "parent" ⟨some underA, .query .unrestricted⟩).run
          unitContext = (.ok trees, c₂)
      ∧ (readTree unitBackend "unit" (unitCard.normalizeModel ["name"] ++ underA.paths) "parent"
          ⟨some underA, .query .unrestricted⟩).run unitContext = (.ok trees', c₃)
      ∧ (read unitBackend "unit" (treeModel unitCard
            (unitCard.normalizeModel ["name"] ++ underA.paths) "parent")
          (.query .unrestricted)).run (treeContext unitCard "unit"
            (unitCard.normalizeModel ["name"] ++ underA.paths) "parent" unitsLoaded)
          = (.ok records, c₄)
      ∧ trees'.map Record.id? = (records.filter (Tree.isRoot underA)).map Record.id?
      ∧ trees.map Record.id? = (records.filter (Tree.isRootWithin
          (treeModel unitCard ["name"] "parent") underA)).map Record.id? := by
  have hsteady (log : List Event) : Steady unitBackend
      (unitContext.cards.described unitDescriptors) { unitsLoaded with log } := by
    rw [← undisturbed_unitsLoaded.described]
    exact steady_of_descriptors unitBackend (c := { unitsLoaded with log })
      undisturbed_unitsLoaded.source
  have hdb : unitsLoaded.database unitCard.database = .ok unitDatabase := rfl
  have hfault : ¬ Query.Fault (unitContext.cards.described unitDescriptors) unitCard
      (treeModel unitCard ["name"] "parent") .unrestricted :=
    Query.exists_eval_compile_iff.1 (exists_eq_ok_of_isOk (by decide +kernel))
  obtain ⟨trees, trees', records, c₂, c₃, c₄, h, h', hread, hroots', hroots, _⟩ :=
    roots_readTree unitBackend _ textEngine unitContents unitContext unitsLoaded "unit" unitCard
      unitDatabase ["name"] "parent" underA (.query .unrestricted) run_load_unit hdb hsteady hfault
      answersTree_units (.unforked unforked_unitCard identified_unitContents exists_follow_underA)
  exact ⟨trees, trees', records, c₂, c₃, c₄, h, h', hread, hroots', hroots⟩

/-- **The roots depend on what is selected.** The path of the condition leads to the name of the
unit above, and both tree reads are answered rightly; but only the one that selects the path has the
unit under `A` for a root. -/
theorem readTree_depends_on_model :
    (∀ path ∈ underA.paths,
        ∃ d, follow (unitContext.cards.described unitDescriptors) unitCard path = .ok d)
      ∧ (∀ m ∈ [["name"], unitCard.normalizeModel ["name"] ++ underA.paths],
        AnswersTree unitBackend unitDatabase textEngine unitContents unitCard "unit" "parent"
          .unrestricted unitsLoaded m)
      ∧ ∃ trees trees' c₂ c₃,
        (readTree unitBackend "unit" ["name"] "parent" ⟨some underA, .query .unrestricted⟩).run
            unitContext = (.ok trees, c₂)
        ∧ (readTree unitBackend "unit" (unitCard.normalizeModel ["name"] ++ underA.paths) "parent"
            ⟨some underA, .query .unrestricted⟩).run unitContext = (.ok trees', c₃)
        ∧ trees = [] ∧ trees'.map (fun r => r.id?.map Value.display) = [some "2"]
        ∧ trees.map Record.id? ≠ trees'.map Record.id? := by
  have hnone : ((readTree unitBackend "unit" ["name"] "parent"
      ⟨some underA, .query .unrestricted⟩).run unitContext).1.toOption.map List.length
        = some 0 := by decide +kernel
  have hone : ((readTree unitBackend "unit" (unitCard.normalizeModel ["name"] ++ underA.paths)
      "parent" ⟨some underA, .query .unrestricted⟩).run unitContext).1.toOption.map
        (fun trees => trees.map fun r => r.id?.map Value.display) = some [some "2"] := by
    decide +kernel
  obtain ⟨trees, c₂, h, hlength⟩ := Action.exists_run_of_map hnone
  obtain ⟨trees', c₃, h', hid⟩ := Action.exists_run_of_map hone
  obtain rfl := List.length_eq_zero_iff.1 hlength
  refine ⟨exists_follow_underA, answersTree_units, [], trees', c₂, c₃, h, h', rfl, hid, ?_⟩
  intro hsame
  rw [List.map_eq_nil_iff.1 hsame.symm] at hid
  cases hid

end Cards

end CardStore
