/-
  CardStore.Proofs.Cards.Fault
  ────────────────────────────
  **FAULTS OF A CALLER.**

  An operation on cards loads its cards, finds their database and composes its
  statement, and borrows a connection only then.  Over a store of descriptors
  none of these steps asks a backend for anything.  A fault of the caller, such
  as a card that is not there, a path that leads nowhere or a triple that is
  malformed, shows in one of them: the call is refused, and nothing has
  happened but to the cards that are kept and to the log.  A call without a
  fault is not refused.

  Main statements:
    * `Query.exists_eval_compile_iff` — a query compiles if it has no fault.
    * `Cards.RefusedFor.read`, `Cards.RefusedFor.writeMany` — how far reads and writes come.
    * `Cards.Call.refusedFor` — a call is refused for its faults, and for nothing else.
    * `Cards.untouched_of_fault` — a call with a fault does nothing to any database.
-/
import CardStore.Cards.Read
import CardStore.Proofs.Cards.Steady
import CardStore.Proofs.Cards.Write
import CardStore.Proofs.Query.Columns

namespace CardStore

variable {σ α β : Type}

/-! ## §1. Undisturbed contexts. -/

namespace Context.Undisturbed

variable {descriptors : OrderedMap Card} {c c' c'' : Context σ}

theorem refl (h : c.cards.source = .descriptors descriptors) : c.Undisturbed descriptors c :=
  ⟨rfl, h, rfl⟩

theorem trans (h : c.Undisturbed descriptors c') (h' : c'.Undisturbed descriptors c'') :
    c.Undisturbed descriptors c'' where
  rest := h'.rest.trans (by rw [h.rest])
  source := h'.source
  described := h'.described.trans h.described

theorem withLog (h : c.Undisturbed descriptors c') (log : List Event) :
    c.Undisturbed descriptors { c' with log } where
  rest := by rw [h.rest]
  source := h.source
  described := h.described

theorem backend_eq (h : c.Undisturbed descriptors c') : c'.backend = c.backend := by
  rw [h.rest]

theorem transactions_eq (h : c.Undisturbed descriptors c') :
    c'.transactions = c.transactions := by
  rw [h.rest]

theorem databases_eq (h : c.Undisturbed descriptors c') : c'.databases = c.databases := by
  rw [h.rest]

theorem database_eq (h : c.Undisturbed descriptors c') (name : Option String) :
    c'.database name = c.database name := by
  rw [Context.database, Context.database, h.databases_eq]

end Context.Undisturbed

namespace Cards

variable {b : Backend σ} {descriptors : OrderedMap Card}

/-- **A script of look-ups** in descriptors yields what it yields against their answers, and
disturbs nothing. -/
theorem run_script_of_descriptors (b : Backend σ) (script : Lookup α) : ∀ {c : Context σ},
    c.cards.source = .descriptors descriptors →
      ∃ c', script.run (fun name c => (load b name).run c) c
          = (script.eval (c.cards.described descriptors), c')
        ∧ c.Undisturbed descriptors c' := by
  induction script with
  | done a =>
    intro c h
    exact ⟨c, rfl, .refl h⟩
  | ask name k ih =>
    intro c h
    obtain ⟨c₁, hload, hfirst⟩ := run_load_of_descriptors b h name
    obtain ⟨c', hrun, hrest⟩ := ih (c.cards.described descriptors name) hfirst.source
    refine ⟨c', ?_, hfirst.trans hrest⟩
    rw [Script.run, Script.eval, hload]
    dsimp only
    rw [hrun, hfirst.described]

theorem run_withLoads_of_descriptors (b : Backend σ) (script : ExceptT Error Lookup α)
    {c : Context σ} (h : c.cards.source = .descriptors descriptors) :
    ∃ c', (withLoads b script).run c = (script.run.eval (c.cards.described descriptors), c')
      ∧ c.Undisturbed descriptors c' :=
  run_script_of_descriptors b script.run h

/-! ## §2. Operations that are refused, and operations that come to a connection. -/

/-- **An operation is refused**: it fails, and disturbs nothing. -/
def Refused (descriptors : OrderedMap Card) (act : Action σ α) (c : Context σ) : Prop :=
  ∃ e c', act.run c = (.error e, c') ∧ c.Undisturbed descriptors c'

/-- **An operation comes to a connection**: it borrows one from a registered database, and has
disturbed nothing until then. -/
def Connects (b : Backend σ) (descriptors : OrderedMap Card) (act : Action σ α)
    (c : Context σ) : Prop :=
  ∃ (db : Database) (go : Lent → Action σ α) (c₁ : Context σ), c.Undisturbed descriptors c₁
    ∧ (∃ name, c.database name = .ok db)
    ∧ act.run c = (Database.borrow b db.name >>= go).run c₁

/-- **An operation is refused for a fault, and for nothing else**: without it, it comes to a
connection. -/
structure RefusedFor (fault : Prop) (b : Backend σ) (descriptors : OrderedMap Card)
    (act : Action σ α) (c : Context σ) : Prop where
  refused : fault → Refused descriptors act c
  connects : ¬ fault → Connects b descriptors act c

namespace RefusedFor

variable {act : Action σ α} {f : α → Action σ β} {a : α} {c c₁ : Context σ} {fault : Prop}

/-- What is done behind an operation does not matter. -/
theorem bind (h : RefusedFor fault b descriptors act c) (f : α → Action σ β) :
    RefusedFor fault b descriptors (act >>= f) c where
  refused := by
    intro hfault
    obtain ⟨e, c', hrun, hc'⟩ := h.refused hfault
    exact ⟨e, c', Action.run_bind_error hrun, hc'⟩
  connects := by
    intro hno
    obtain ⟨db, go, c₁, hc₁, hdb, hrun⟩ := h.connects hno
    refine ⟨db, fun lent => go lent >>= f, c₁, hc₁, hdb, ?_⟩
    rw [← bind_assoc, Action.run_bind, Action.run_bind, hrun]

/-- A step that disturbs nothing may come first. -/
theorem behind (hrun : act.run c = (.ok a, c₁)) (hc₁ : c.Undisturbed descriptors c₁)
    (h : RefusedFor fault b descriptors (f a) c₁) :
    RefusedFor fault b descriptors (act >>= f) c where
  refused := by
    intro hfault
    obtain ⟨e, c', hf, hc'⟩ := h.refused hfault
    exact ⟨e, c', (Action.run_bind_ok hrun).trans hf, hc₁.trans hc'⟩
  connects := by
    intro hno
    obtain ⟨db, go, c₂, hc₂, ⟨name, hdb⟩, hf⟩ := h.connects hno
    rw [hc₁.database_eq] at hdb
    exact ⟨db, go, c₂, hc₁.trans hc₂, ⟨name, hdb⟩, (Action.run_bind_ok hrun).trans hf⟩

/-- So may notes. -/
theorem noted {note : Action σ Unit} {f : Unit → Action σ α}
    (hrun : ∃ log, note.run c = (.ok (), { c with log }))
    (hsource : c.cards.source = .descriptors descriptors)
    (h : ∀ log, RefusedFor fault b descriptors (f ()) { c with log }) :
    RefusedFor fault b descriptors (note >>= f) c := by
  obtain ⟨log, hrun⟩ := hrun
  exact .behind hrun (.withLog (.refl hsource) log) (h log)

/-- A step that fails and disturbs nothing. -/
theorem of_error {e : Error} (hrun : act.run c = (.error e, c₁))
    (hc₁ : c.Undisturbed descriptors c₁) (hfault : fault) :
    RefusedFor fault b descriptors act c :=
  ⟨fun _ => ⟨e, c₁, hrun, hc₁⟩, fun hno => absurd hfault hno⟩

/-- What is done on a connection of a registered database. -/
theorem withConnection (h : c.cards.source = .descriptors descriptors) {name : Option String}
    {db : Database} (hdb : c.database name = .ok db) (act : Lent → Action σ α)
    (hno : ¬ fault) :
    RefusedFor fault b descriptors (Database.withConnection b db.name act) c :=
  ⟨fun hfault => absurd hfault hno, fun _ => ⟨db, _, c, .refl h, ⟨name, hdb⟩, rfl⟩⟩

end RefusedFor

end Cards

/-! ## §3. Faults of a query. -/

namespace Query

/-- **What can be wrong with a query** on a card. -/
inductive Fault (cards : String → Except Error SoundCard) (root : SoundCard)
    (model : List String) (options : QueryOptions) : Prop where
  /-- A path of the model, the filter or the sort keys leads nowhere, or over a reference to a
  card that is not there. -/
  | path (e : Error) : (resolveAll root model options.paths).run.eval cards = .error e →
    Fault cards root model options
  | operator (t : Triple) : t ∈ Filter.allTriples options.filter →
    Operator.parse? t.operator = none → Fault cards root model options
  /-- Membership wants a list, and a range wants two bounds. -/
  | operand (t : Triple) (op : Operator) : t ∈ Filter.allTriples options.filter →
    Operator.parse? t.operator = some op → ¬ op.Takes t.operand → Fault cards root model options

variable {cards : String → Except Error SoundCard} {root : SoundCard} {model : List String}
  {options : QueryOptions}

theorem not_fault_iff : ¬ Fault cards root model options ↔
    (∃ r, (resolveAll root model options.paths).run.eval cards = .ok r)
      ∧ ∀ t ∈ Filter.allTriples options.filter, t.WellFormed := by
  constructor
  · intro h
    constructor
    · cases hresolve : (resolveAll root model options.paths).run.eval cards with
      | error e => exact absurd (.path e hresolve) h
      | ok r => exact ⟨r, rfl⟩
    · intro t ht
      cases hop : Operator.parse? t.operator with
      | none => exact absurd (.operator t ht hop) h
      | some op =>
        refine ⟨op, hop, ?_⟩
        by_contra htakes
        exact h (.operand t op ht hop htakes)
  · rintro ⟨⟨r, hr⟩, hwell⟩ hfault
    cases hfault with
    | path e he =>
      rw [hr] at he
      cases he
    | operator t ht hop =>
      obtain ⟨op, hop', _⟩ := hwell t ht
      rw [hop] at hop'
      cases hop'
    | operand t op ht hop htakes =>
      obtain ⟨op', hop', htakes'⟩ := hwell t ht
      rw [hop] at hop'
      rw [← Option.some.inj hop'] at htakes'
      exact htakes htakes'

/-- **A query compiles if it has no fault**, and only then. -/
theorem exists_eval_compile_iff :
    (∃ q, (compile root model options).run.eval cards = .ok q)
      ↔ ¬ Fault cards root model options := by
  rw [not_fault_iff]
  constructor
  · rintro ⟨q, h⟩
    obtain ⟨r, hr, hq⟩ := Script.eval_bind_eq_ok_iff.1 h
    exact ⟨⟨r, hr⟩, (exists_assemble_iff (hr ▸ Script.yields_eval cards _)).1 ⟨q, hq⟩⟩
  · rintro ⟨⟨r, hr⟩, hwell⟩
    obtain ⟨q, hq⟩ := (exists_assemble_iff (hr ▸ Script.yields_eval cards _)).2 hwell
    exact ⟨q, Script.eval_bind_eq_ok_iff.2 ⟨r, hr, hq⟩⟩

end Query

/-! ## §4. Faults of a call. -/

namespace Cards

/-- The paths that a tree read selects: those of its model, and the parent path. -/
def treeModel (card : SoundCard) (model : List String) (parentPath : String) : List String :=
  if (card.normalizeModel model).contains parentPath then card.normalizeModel model
  else card.normalizeModel model ++ [parentPath]

/-- A call of an operation on cards. -/
inductive Call where
  | read (name : String) (model : List String) (options : ReadOptions)
  | readTree (name : String) (model : List String) (parentPath : String) (options : TreeOptions)
  | write (group : WriteGroup)
  | writeMany (groups : List WriteGroup)
  | delete (name : String) (ids : List Value) (scope : DeleteScope)

namespace Call

/-- What a call is answered. -/
def Answer : Call → Type
  | .read .. => List Record
  | .readTree .. => List Record
  | .write _ => List Record
  | .writeMany _ => List (List Record)
  | .delete .. => List Value

/-- Perform a call. -/
def perform (b : Backend σ) : (call : Call) → Action σ call.Answer
  | .read name model options => Cards.read b name model options
  | .readTree name model parentPath options => Cards.readTree b name model parentPath options
  | .write group => Cards.write b group
  | .writeMany groups => Cards.writeMany b groups
  | .delete name ids scope => Cards.delete b name ids scope

/-- The cards that a call names; the first one decides on the database. -/
def cardNames : Call → List String
  | .read name _ _ => [name]
  | .readTree name _ _ _ => [name]
  | .write group => [group.card]
  | .writeMany groups => groups.map (·.card)
  | .delete name _ _ => [name]

/-- The model and the query of a call that reads, on its card. -/
def query? (root : SoundCard) : Call → Option (List String × QueryOptions)
  | .read _ model options => some (model, options.toQuery)
  | .readTree _ model parentPath options =>
    some (treeModel root model parentPath, options.given.toQuery)
  | _ => none

/-- **What a caller can do wrong.** -/
inductive Fault (cards : String → Except Error SoundCard)
    (database : Option String → Except Error Database) (call : Call) : Prop where
  /-- A card is not there, or is not sound. -/
  | card (name : String) (e : Error) : name ∈ call.cardNames → cards name = .error e →
    Fault cards database call
  | database (name : String) (card : SoundCard) (e : Error) : call.cardNames.head? = some name →
    cards name = .ok card → database card.database = .error e → Fault cards database call
  | query (name : String) (root : SoundCard) (model : List String) (options : QueryOptions) :
    call.cardNames.head? = some name → cards name = .ok root →
    call.query? root = some (model, options) → Query.Fault cards root model options →
    Fault cards database call

/-- A call whose cards and database are there is wrong in its query at most. -/
theorem not_fault {cards : String → Except Error SoundCard}
    {database : Option String → Except Error Database} {call : Call} {name : String}
    {root : SoundCard} {db : Database}
    (hcards : ∀ other ∈ call.cardNames, ∃ card, cards other = .ok card)
    (hhead : call.cardNames.head? = some name) (hcard : cards name = .ok root)
    (hdb : database root.database = .ok db)
    (hquery : ∀ model options, call.query? root = some (model, options) →
      ¬ Query.Fault cards root model options) : ¬ call.Fault cards database := by
  intro hfault
  cases hfault with
  | card other e hmem he =>
    obtain ⟨card, hok⟩ := hcards other hmem
    rw [hok] at he
    cases he
  | database name' card e hhead' hcard' he =>
    rw [hhead, Option.some.injEq] at hhead'
    rw [← hhead', hcard, Except.ok.injEq] at hcard'
    rw [← hcard', hdb] at he
    cases he
  | query name' root' model options hhead' hcard' hq hfault =>
    rw [hhead, Option.some.injEq] at hhead'
    rw [← hhead', hcard, Except.ok.injEq] at hcard'
    rw [← hcard'] at hq hfault
    exact hquery model options hq hfault

end Call

/-! ## §5. How far calls come. -/

section Course

variable {b : Backend σ} {descriptors : OrderedMap Card} {c c₁ : Context σ} {call : Call}

/-- The card of a call is loaded, or the call is refused. -/
theorem RefusedFor.load (hc : c.Undisturbed descriptors c₁) {name : String}
    (hname : name ∈ call.cardNames) {f : SoundCard → Action σ α}
    (hrest : ∀ root c₂, c.cards.described descriptors name = .ok root →
      c.Undisturbed descriptors c₂ →
      RefusedFor (call.Fault (c.cards.described descriptors) c.database) b descriptors (f root) c₂) :
    RefusedFor (call.Fault (c.cards.described descriptors) c.database) b descriptors
      (Cards.load b name >>= f) c₁ := by
  obtain ⟨c₂, hload, hc₂⟩ := run_load_of_descriptors b hc.source name
  rw [hc.described] at hload
  cases hcard : c.cards.described descriptors name with
  | error e =>
    rw [hcard] at hload
    exact .of_error (Action.run_bind_error hload) hc₂ (.card name e hname hcard)
  | ok root =>
    rw [hcard] at hload
    exact .behind hload hc₂ (hrest root c₂ hcard (hc.trans hc₂))

/-- The database of the first card is there, or the call is refused. -/
theorem RefusedFor.find (hc : c.Undisturbed descriptors c₁) {name : String} {root : SoundCard}
    (hhead : call.cardNames.head? = some name)
    (hcard : c.cards.described descriptors name = .ok root) {f : Database → Action σ α}
    (hrest : ∀ db, c.database root.database = .ok db →
      RefusedFor (call.Fault (c.cards.described descriptors) c.database) b descriptors (f db) c₁) :
    RefusedFor (call.Fault (c.cards.described descriptors) c.database) b descriptors
      (Registry.find root.database >>= f) c₁ := by
  have hfind : (Registry.find root.database).run c₁ = (c.database root.database, c₁) :=
    Registry.run_find (hc.database_eq root.database)
  cases hdb : c.database root.database with
  | error e =>
    rw [hdb] at hfind
    exact .of_error (Action.run_bind_error hfind) (.refl hc.source)
      (.database name root e hhead hcard hdb)
  | ok db =>
    rw [hdb] at hfind
    exact .behind hfind (.refl hc.source) (hrest db hdb)

/-- **How far a read comes**, on behalf of a call that makes its query. -/
theorem RefusedFor.read (hc : c.Undisturbed descriptors c₁) {name : String} {model : List String}
    {options : ReadOptions} (hnames : call.cardNames = [name])
    (hquery : ∀ root, c.cards.described descriptors name = .ok root →
      call.query? root = some (model, options.toQuery)) :
    RefusedFor (call.Fault (c.cards.described descriptors) c.database) b descriptors
      (Cards.read b name model options) c₁ := by
  have hhead : call.cardNames.head? = some name := by rw [hnames, List.head?_cons]
  refine .load hc (List.mem_of_head? hhead) fun root c₂ hcard hc₂ => ?_
  refine .find hc₂ hhead hcard fun db hdb => ?_
  obtain ⟨c₃, hq, hc₃⟩ := run_withLoads_of_descriptors b
    (Query.compile root model options.toQuery) hc₂.source
  rw [hc₂.described] at hq
  cases hcompile : (Query.compile root model options.toQuery).run.eval
      (c.cards.described descriptors) with
  | error e =>
    rw [hcompile] at hq
    have hfault : Query.Fault (c.cards.described descriptors) root model options.toQuery := by
      by_contra hno
      obtain ⟨q, hok⟩ := Query.exists_eval_compile_iff.2 hno
      rw [hcompile] at hok
      cases hok
    exact .of_error (Action.run_bind_error hq) hc₃
      (.query name root model _ hhead hcard (hquery root hcard) hfault)
  | ok q =>
    rw [hcompile] at hq
    have hdb₃ : c₃.database root.database = .ok db := by
      rw [(hc₂.trans hc₃).database_eq, hdb]
    refine .behind hq hc₃ (.bind (.withConnection hc₃.source hdb₃ _ ?_) _)
    have hcards : ∀ other ∈ call.cardNames, ∃ card,
        c.cards.described descriptors other = .ok card := by
      rw [hnames]
      exact List.forall_mem_singleton.2 ⟨root, hcard⟩
    apply Call.not_fault hcards hhead hcard hdb
    intro model' options' hquery'
    rw [hquery root hcard, Option.some.injEq, Prod.mk.injEq] at hquery'
    rw [← hquery'.1, ← hquery'.2]
    exact Query.exists_eval_compile_iff.1 ⟨q, hcompile⟩

/-- **How far a tree read comes**: as far as the read of its model and the parent path. -/
theorem RefusedFor.readTree (h : c.cards.source = .descriptors descriptors) (name : String)
    (model : List String) (parentPath : String) (options : TreeOptions) :
    RefusedFor ((Call.readTree name model parentPath options).Fault
      (c.cards.described descriptors) c.database) b descriptors
      (Cards.readTree b name model parentPath options) c := by
  refine .load (.refl h) (List.mem_singleton_self _) fun root c₁ hcard hc₁ => ?_
  have hread {c₂ : Context σ} (hc₂ : c.Undisturbed descriptors c₂) :
      RefusedFor ((Call.readTree name model parentPath options).Fault
        (c.cards.described descriptors) c.database) b descriptors
        (Cards.read b name (treeModel root model parentPath) options.given) c₂ := by
    refine .read hc₂ rfl ?_
    intro root' hroot'
    rw [hcard, Except.ok.injEq] at hroot'
    rw [← hroot']
    rfl
  dsimp only
  split
  · exact .noted ⟨_, rfl⟩ hc₁.source fun log => .bind (hread (hc₁.withLog log)) _
  · exact .bind (hread hc₁) _

/-- Groups are loaded, or one of their cards is not there. -/
theorem course_loadAll (b : Backend σ) : ∀ (groups : List WriteGroup) {c₁ : Context σ},
    c.Undisturbed descriptors c₁ →
      (∃ g ∈ groups, ∃ e, c.cards.described descriptors g.card = .error e)
          ∧ Refused descriptors (loadAll b groups) c₁
        ∨ ∃ loaded c₂, (loadAll b groups).run c₁ = (.ok loaded, c₂)
          ∧ c₁.Undisturbed descriptors c₂
          ∧ ∀ p ∈ loaded, c.cards.described descriptors p.1.card = .ok p.2 := by
  intro groups
  induction groups with
  | nil =>
    intro c₁ hc₁
    exact .inr ⟨[], c₁, rfl, .refl hc₁.source, nofun⟩
  | cons g groups ih =>
    intro c₁ hc₁
    obtain ⟨c₂, hload, hc₂⟩ := run_load_of_descriptors b hc₁.source g.card
    rw [hc₁.described] at hload
    cases hcard : c.cards.described descriptors g.card with
    | error e =>
      rw [hcard] at hload
      exact .inl ⟨⟨g, List.mem_cons_self, e, hcard⟩, e, c₂, Action.run_bind_error hload, hc₂⟩
    | ok card =>
      rw [hcard] at hload
      rcases ih (hc₁.trans hc₂) with ⟨⟨g', hg', he⟩, e, c₃, hrun, hc₃⟩ | ⟨loaded, c₃, hrun, hc₃, hok⟩
      · exact .inl ⟨⟨g', List.mem_cons_of_mem _ hg', he⟩, e, c₃,
          (Action.run_bind_ok hload).trans (Action.run_bind_error hrun), hc₂.trans hc₃⟩
      · exact .inr ⟨(g, card) :: loaded, c₃,
          (Action.run_bind_ok hload).trans (Action.run_bind_ok hrun), hc₂.trans hc₃,
          List.forall_mem_cons.2 ⟨hcard, hok⟩⟩

/-- **A write of groups** is refused for their cards and the database of the first one only; this is
said of any call that names these cards and makes no query. -/
theorem RefusedFor.writeMany (h : c.cards.source = .descriptors descriptors)
    {groups : List WriteGroup} (hne : groups ≠ []) (hnames : call.cardNames = groups.map (·.card))
    (hquery : ∀ root, call.query? root = none) :
    RefusedFor (call.Fault (c.cards.described descriptors) c.database) b descriptors
      (Cards.writeMany b groups) c := by
  rcases course_loadAll b groups (.refl h) with ⟨⟨g, hg, e, he⟩, e', c₁, hrun, hc₁⟩
    | ⟨loaded, c₁, hrun, hc₁, hok⟩
  · refine .of_error (Action.run_bind_error hrun) hc₁ (.card g.card e ?_ he)
    rw [hnames]
    exact List.mem_map_of_mem hg
  · have hgroups := map_fst_of_run_loadAll hrun
    refine .behind hrun hc₁ ?_
    cases loaded with
    | nil => exact absurd hgroups.symm hne
    | cons first others =>
      have hcard := hok first List.mem_cons_self
      have hhead : call.cardNames.head? = some first.1.card := by
        rw [hnames, ← hgroups]
        rfl
      have hcards : ∀ other ∈ call.cardNames, ∃ card,
          c.cards.described descriptors other = .ok card := by
        rw [hnames, ← hgroups, List.map_map]
        intro other hother
        obtain ⟨p, hp, rfl⟩ := List.mem_map.1 hother
        exact ⟨p.2, hok p hp⟩
      refine .find hc₁ hhead hcard fun db hdb => ?_
      have hno : ¬ call.Fault (c.cards.described descriptors) c.database := by
        apply Call.not_fault hcards hhead hcard hdb
        intro model options hq
        rw [hquery] at hq
        cases hq
      have hdb₁ (log : List Event) :
          ({ c₁ with log } : Context σ).database first.2.database = .ok db := by
        rw [(hc₁.withLog log).database_eq, hdb]
      -- the settings are read behind the notes
      have hget (c₂ : Context σ) : (get : Action σ (Context σ)).run c₂ = (.ok c₂, c₂) := rfl
      refine .noted ⟨_, rfl⟩ hc₁.source fun log => ?_
      refine .noted ⟨_, rfl⟩ hc₁.source fun log' => ?_
      exact .behind (hget _) (.refl hc₁.source)
        (.withConnection (hc₁.withLog log').source (hdb₁ log') _ hno)

/-- **A deletion** is refused for its card and its database only. -/
theorem RefusedFor.delete (h : c.cards.source = .descriptors descriptors) (name : String)
    (ids : List Value) (scope : DeleteScope) :
    RefusedFor ((Call.delete name ids scope).Fault (c.cards.described descriptors) c.database) b
      descriptors (Cards.delete b name ids scope) c := by
  refine .load (.refl h) (List.mem_singleton_self _) fun root c₁ hcard hc₁ => ?_
  refine .find hc₁ rfl hcard fun db hdb => ?_
  have hget : (get : Action σ (Context σ)).run c₁ = (.ok c₁, c₁) := rfl
  have hdb₁ : c₁.database root.database = .ok db := by rw [hc₁.database_eq, hdb]
  refine .behind hget (.refl hc₁.source) (.withConnection hc₁.source hdb₁ _ ?_)
  exact Call.not_fault (List.forall_mem_singleton.2 ⟨root, hcard⟩) rfl hcard hdb nofun

/-- **Every call** but the write of no groups is refused for its faults, and for nothing else. -/
theorem Call.refusedFor (b : Backend σ) (h : c.cards.source = .descriptors descriptors)
    (call : Call) (hne : call ≠ .writeMany []) :
    RefusedFor (call.Fault (c.cards.described descriptors) c.database) b descriptors
      (call.perform b) c := by
  cases call with
  | read name model options => exact .read (.refl h) rfl fun _ _ => rfl
  | readTree name model parentPath options => exact .readTree h name model parentPath options
  | write group => exact .bind (.writeMany h (List.cons_ne_nil _ _) rfl fun _ => rfl) _
  | writeMany groups =>
    refine .writeMany h ?_ rfl fun _ => rfl
    rintro rfl
    exact hne rfl
  | delete name ids scope => exact .delete h name ids scope

/-- The write of no groups names no card, so nothing can be wrong with it. -/
theorem Call.not_fault_writeMany_nil (cards : String → Except Error SoundCard)
    (database : Option String → Except Error Database) :
    ¬ (Call.writeMany []).Fault cards database := by
  intro hfault
  cases hfault with
  | card name e hmem _ => cases hmem
  | database name card e hhead _ _ => cases hhead
  | query name root model options hhead _ _ _ => cases hhead

end Course

/-- **A call with a fault does nothing to any database.** Over a store of descriptors, a call that
names a card that is not there, a path that leads nowhere, an operator that is not supported, an
operand of the wrong form or a database that is not registered fails, and no backend has been asked
for anything: no statement was sent, and no transaction was begun.  Any other call comes to a
connection, but for the write of no groups. -/
theorem untouched_of_fault (b : Backend σ) (descriptors : OrderedMap Card) (call : Call)
    (c : Context (σ × List Exchange)) (h : c.cards.source = .descriptors descriptors) :
    (call.Fault (c.cards.described descriptors) c.database →
        ∃ e c', (call.perform b.recorded).run c = (.error e, c')
          ∧ c'.backend = c.backend ∧ c'.databases = c.databases
          ∧ c'.transactions = c.transactions)
      ∧ (¬ call.Fault (c.cards.described descriptors) c.database →
        call = .writeMany [] ∨ Connects b.recorded descriptors (call.perform b.recorded) c) := by
  constructor
  · intro hfault
    have hne : call ≠ .writeMany [] := by
      rintro rfl
      exact Call.not_fault_writeMany_nil _ _ hfault
    obtain ⟨e, c', hrun, hc'⟩ := (Call.refusedFor b.recorded h call hne).refused hfault
    exact ⟨e, c', hrun, hc'.backend_eq, hc'.databases_eq, hc'.transactions_eq⟩
  · intro hno
    by_cases hne : call = .writeMany []
    · exact .inl hne
    · exact .inr ((Call.refusedFor b.recorded h call hne).connects hno)

/-! ## §6. People in a range with one bound. -/

/-- The people of the departments that are headed by someone from one name on, one bound missing. -/
def halfRange : QueryOptions :=
  { QueryOptions.unrestricted with
    filter := some (.group .or [.triple ⟨"name", "=", .string "Li"⟩,
      .nested (.group .and [.triple ⟨"department.head.name", "between", .array [.string "A"]⟩])]) }

/-- The range stands deep in the filter of a tree read, and nothing is asked for its sake. -/
theorem untouched_halfRange :
    ∃ descriptors, staffContext.cards.source = .descriptors descriptors
      ∧ (Call.readTree "person" ["name"] "department" ⟨none, .query halfRange⟩).Fault
          (staffContext.cards.described descriptors) staffContext.database
      ∧ ∃ e c', ((Call.readTree "person" ["name"] "department"
            ⟨none, .query halfRange⟩).perform emptyTables.recorded).run staffContext = (.error e, c')
          ∧ c'.backend = staffContext.backend ∧ c'.databases = staffContext.databases
          ∧ c'.transactions = staffContext.transactions := by
  have hsource : staffContext.cards.source
      = .descriptors (.ofList (staffCards.map fun c => (c.name, c))) := rfl
  have hcard : staffContext.cards.described (.ofList (staffCards.map fun c => (c.name, c)))
      "person" = .ok personCard := rfl
  have htriples : Filter.allTriples halfRange.filter = [⟨"name", "=", .string "Li"⟩,
      ⟨"department.head.name", "between", .array [.string "A"]⟩] := rfl
  have hfault : Query.Fault (staffContext.cards.described
      (.ofList (staffCards.map fun c => (c.name, c)))) personCard
      (treeModel personCard ["name"] "department") halfRange := by
    refine .operand ⟨"department.head.name", "between", .array [.string "A"]⟩ (.between false) ?_
      (by decide) ?_
    · rw [htriples]
      exact List.mem_cons_of_mem _ (List.mem_singleton_self _)
    · rintro ⟨low, high, hitems⟩
      cases hitems
  have hcall : (Call.readTree "person" ["name"] "department" ⟨none, .query halfRange⟩).Fault
      (staffContext.cards.described (.ofList (staffCards.map fun c => (c.name, c))))
      staffContext.database := .query "person" personCard _ _ rfl hcard rfl hfault
  exact ⟨_, hsource, hcall,
    (untouched_of_fault emptyTables _ _ staffContext hsource).1 hcall⟩

end Cards

end CardStore
