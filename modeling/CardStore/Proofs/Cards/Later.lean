/-
  CardStore.Proofs.Cards.Later
  ────────────────────────────
  **CARD OPERATIONS LEAD TO LATER CONTEXTS.**

  Opening a configuration, loading, reading, writing and deleting cards are
  made of statements, of transactions and of things that leave transactions
  alone.  So whatever is done with cards, a transaction that has ended stays
  ended.

  Main statements:
    * `advances_read`, `advances_readTree` — reads.
    * `advances_writeMany`, `advances_delete` — changes.
    * `advances_openConfigured`, `advances_close` — the databases behind them.
-/
import CardStore.Cards.Open
import CardStore.Cards.Read
import CardStore.Cards.Write
import CardStore.Proofs.Database.Transaction

namespace CardStore

open CardStore.Action (Advances)

variable {σ α : Type} (b : Backend σ)

/-! ## §1. Databases. -/

namespace Registry

theorem advances_find (name : Option String) : (find name : Action σ Database).Advances :=
  fun _ => .refl

theorem advances_register (name : String) (dialect : Sql.Dialect) (config : PoolConfig) :
    (register b name dialect config).Advances := by
  intro c
  -- a pool is started, and no transaction is looked at
  apply Context.Later.of_transactions_eq
  unfold register
  rw [ExceptT.run_mk]
  split
  · rfl
  · rfl

theorem transactions_closeAll : ∀ (names : List String) (c : Context σ),
    (closeAll b names c).transactions = c.transactions := by
  intro names
  induction names with
  | nil =>
    intro c
    rfl
  | cons name names ih =>
    intro c
    rw [closeAll, ih, Context.transactions_onPool]

theorem advances_close : (close b).Advances :=
  Action.advances_change fun c => transactions_closeAll b _ c

theorem advances_registerEntries (entries : List (String × DatabaseEntry)) :
    (registerEntries b entries).Advances := by
  induction entries with
  | nil => exact Action.advances_pure ()
  -- each entry is checked, registered and noted, and then it is the turn of the others
  | cons entry entries ih =>
    apply Advances.bind (Action.advances_ofExcept _)
    intro checked
    apply Advances.bind (advances_register b _ _ _)
    intro registered
    exact Advances.bind (Action.advances_note _) fun _ => ih

end Registry

/-! ## §2. Loading cards. -/

theorem CardTables.advances_find (db : Database) (name : String) :
    (CardTables.find b db name).Advances := by
  apply Advances.bind (Database.advances_query b db _ _)
  intro cards
  split
  · exact Action.advances_pure none
  · apply Advances.bind (Action.advances_ofExcept _)
    intro card
    apply Advances.bind (Database.advances_query b db _ _)
    intro fields
    apply Advances.bind (Action.advances_ofExcept _)
    intro fields
    apply Advances.bind (Database.advances_query b db _ _)
    intro references
    apply Advances.bind (Action.advances_ofExcept _)
    intro references
    exact Action.advances_pure _

namespace Cards

theorem advances_lookUp (name : String) : (lookUp b name).Advances := by
  apply Advances.bind Action.advances_get
  intro c
  split
  · exact Advances.bind (Action.advances_modify fun _ => rfl) fun _ => Action.advances_pure _
  · exact Advances.bind (Registry.advances_find _) fun db => CardTables.advances_find b db name

theorem advances_load (name : String) : (load b name).Advances := by
  apply Advances.bind Action.advances_get
  intro c
  split
  · exact Action.advances_pure _
  · apply Advances.bind (advances_lookUp b name)
    intro found
    split
    · exact Action.advances_throw _
    · apply Advances.bind (Action.advances_ofExcept _)
      intro card
      exact Advances.bind (Action.advances_note _) fun _ => Action.advances_change fun _ => rfl

theorem advances_withLoads (script : ExceptT Error Lookup α) : (withLoads b script).Advances :=
  Action.advances_script (fun name c => advances_load b name c) script.run

/-! ## §3. Reads and changes. -/

theorem advances_read (name : String) (model : List String) (options : ReadOptions) :
    (read b name model options).Advances := by
  apply Advances.bind (advances_load b name)
  intro card
  apply Advances.bind (Registry.advances_find _)
  intro db
  apply Advances.bind (advances_withLoads b _)
  intro q
  exact Advances.bind (Database.advances_query b db _ _) fun _ => Action.advances_pure _

theorem advances_readTree (name : String) (model : List String) (parentPath : String)
    (options : TreeOptions) : (readTree b name model parentPath options).Advances := by
  have hrest : ∀ paths : List String, Advances (do
      let records ← read b name paths options.given
      Action.noteAll (Tree.events records parentPath options.root)
      return Tree.assemble records parentPath options.root) := by
    intro paths
    apply Advances.bind (advances_read b name paths _)
    intro records
    exact Advances.bind (Action.advances_noteAll _) fun _ => Action.advances_pure _
  apply Advances.bind (advances_load b name)
  intro card
  -- with or without a warning, the same read follows
  dsimp only
  split
  · exact Advances.bind (Action.advances_note _) fun _ => hrest _
  · exact hrest _

theorem advances_loadAll (groups : List WriteGroup) : (loadAll b groups).Advances := by
  induction groups with
  | nil => exact Action.advances_pure []
  | cons g groups ih =>
    apply Advances.bind (advances_load b g.card)
    intro card
    exact Advances.bind ih fun _ => Action.advances_pure _

/-- **Writes.** -/
theorem advances_writeMany (groups : List WriteGroup) : (writeMany b groups).Advances := by
  apply Advances.bind (advances_loadAll b groups)
  intro loaded
  split
  · exact Action.advances_pure []
  · apply Advances.bind (Registry.advances_find _)
    intro db
    apply Advances.bind (Action.advances_noteAll _)
    intro noted
    apply Advances.bind (Action.advances_note _)
    intro noted
    -- the settings are those of the context in which the transaction begins
    exact Advances.bind Action.advances_get fun _ => Database.advances_trans b db _

theorem advances_write (group : WriteGroup) : (write b group).Advances :=
  Advances.bind (advances_writeMany b [group]) fun _ => Action.advances_pure _

/-- **Deletions.** -/
theorem advances_delete (name : String) (ids : List Value) (scope : DeleteScope) :
    (delete b name ids scope).Advances := by
  apply Advances.bind (advances_load b name)
  intro card
  apply Advances.bind (Registry.advances_find _)
  intro db
  exact Advances.bind Action.advances_get fun _ => Database.advances_trans b db _

/-- **Opening.** -/
theorem advances_openConfigured (config : Config) : (openConfigured b config).Advances := by
  apply Advances.bind (Action.advances_ofExcept _)
  intro checked
  apply Advances.bind (Registry.advances_registerEntries b _)
  intro registered
  apply Advances.bind (Registry.advances_find _)
  intro db
  apply Advances.bind (Action.advances_change fun _ => rfl)
  intro changed
  apply Advances.bind (Action.advances_change fun _ => rfl)
  intro count
  exact Action.advances_note _

end Cards

end CardStore
