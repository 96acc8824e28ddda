/-
  CardStore.Proofs.Server
  ───────────────────────
  **A SERVER WITH ONE TABLE.**

  The server keeps the rows of a table by their identifiers, and values as
  they are.  It reads the text of a statement by the literal rules of its
  dialect and does what the statement says: an update sets columns of the row
  with an identifier if there is one, an insertion adds a row and fails when
  there is one with its identifier, and a selection answers the row with an
  identifier.  Column names are compared without regard to case.

  Updates report the rows that they found, or only those that they changed:
  servers differ in this.  What the clock reads may differ from statement to
  statement.

  Main statements:
    * `assign_of_mem` — what a row holds when its columns are set one after another.
    * `Server.query_find` — selections by identifier are answered from the row.
    * `Server.execute_update`, `Server.execute_insert` — changes are done as they say.
    * `Server.update_cases`, `Server.insert_cases` — what a change can do.
    * `Server.perform_bind` — one computation behind another.
-/
import CardStore.Proofs.Script
import CardStore.Proofs.Sql.Statement
import CardStore.Work
import CardStore.Write.FreshId
import Mathlib.Logic.Function.Basic

namespace CardStore

/-! ## §1. Rows. -/

/-- What a row holds in its columns, their names lowered. -/
abbrev Stored := List Char → Value

/-- Set columns of a row, one after another. -/
def assign (row : Stored) (values : List (List Char × Value)) : Stored :=
  values.foldl (fun row v => Function.update row v.1 v.2) row

theorem assign_append (row : Stored) (values values' : List (List Char × Value)) :
    assign row (values ++ values') = assign (assign row values) values' := List.foldl_append

theorem assign_of_not_mem {column : List Char} : ∀ {values : List (List Char × Value)}
    {row : Stored}, column ∉ values.map Prod.fst → assign row values column = row column := by
  intro values
  induction values with
  | nil =>
    intro row _
    rfl
  | cons v values ih =>
    intro row h
    rw [List.map_cons, List.mem_cons, not_or] at h
    show assign (Function.update row v.1 v.2) values column = row column
    rw [ih h.2, Function.update_of_ne h.1]

/-- **A column that is set once** holds what it is set to. -/
theorem assign_of_mem {column : List Char} {value : Value} : ∀ {values : List (List Char × Value)}
    {row : Stored}, (values.map Prod.fst).Nodup → (column, value) ∈ values →
      assign row values column = value := by
  intro values
  induction values with
  | nil =>
    intro row _ h
    cases h
  | cons v values ih =>
    intro row hnodup h
    rw [List.map_cons, List.nodup_cons] at hnodup
    show assign (Function.update row v.1 v.2) values column = value
    rcases List.mem_cons.1 h with rfl | h
    · rw [assign_of_not_mem hnodup.1, Function.update_self]
    · exact ih hnodup.2 h

/-- The columns of assignments, their names lowered. -/
def Sql.Assignments.columns (as : Sql.Assignments) : List (List Char) :=
  as.map fun a => Text.lowered a.1

/-! ## §2. The server. -/

/-- Which rows an update reports. -/
inductive Counting where
  /-- Those that it found. -/
  | matched
  /-- Those in which a column has another value than before. -/
  | changed
  deriving DecidableEq

/-- A server with one table. -/
structure Server where
  dialect : Sql.Dialect
  /-- The name of the table. -/
  table : String
  /-- The rows by their identifiers. -/
  rows : Value → Option Stored
  counting : Counting
  /-- What the clock reads for each statement that changes data. -/
  clock : Nat → Value
  /-- The number of statements so far that changed data. -/
  count : Nat
  ids : IdGenerator

namespace Server

/-- The error of a statement that a server does not accept. -/
def refusal : Error := .statement "statement refused" none none

/-- The error of an insertion under an identifier that is taken. -/
def duplicate : Error := .statement "duplicate identifier" none none

/-- A server whose table has no rows yet. -/
def empty (d : Sql.Dialect) (table : String) (counting : Counting) (clock : Nat → Value) : Server :=
  ⟨d, table, fun _ => none, counting, clock, 0, .start 0 0 0⟩

/-- Read a statement from its text and its parameters. -/
def read? {α : Type} (s : Server) (reader : List Sql.Token → List Value → Option α) (sql : String)
    (params : List Value) : Option α := (s.dialect.tokens? sql).bind (reader · params)

/-! ## §3. Selections. -/

/-- What a column is called behind the name of its table. -/
def column? (name column : String) : Option (List Char) :=
  match column.toList.splitOn '.' with
  | [table, column] => if table = name.toList then some (column.map Char.toLower) else none
  | _ => none

/-- What the row with an identifier holds in a column. -/
def cell (id : Value) (row : Stored) (column : List Char) : Value :=
  if column = Text.lowered idPath then id else row column

/-- Answer a selection by identifier. -/
def find (s : Server) (f : Sql.Find) : Except Error RowSet :=
  match f.columns.mapM fun c => column? f.name c.1 with
  | none => .error refusal
  | some columns =>
    if f.table = s.table ∧ column? f.name f.column = some (Text.lowered idPath) then
      .ok ⟨f.columns.map Prod.snd, (s.rows f.value).toList.map fun row =>
        ⟨f.columns.map Prod.snd, columns.map (cell f.value row)⟩⟩
    else .error refusal

/-- Answer a query. -/
def query (s : Server) (sql : String) (params : List Value) : Except Error RowSet :=
  match s.read? Sql.Find.read? sql params with
  | some f => s.find f
  | none => .error refusal

/-- A column behind the name of its table. -/
theorem column?_qualified {name column : String} (hn : Sql.IsWord name) (hc : Sql.IsWord column) :
    column? name (name ++ "." ++ column) = some (Text.lowered column) := by
  have hpoint {s : String} (hs : Sql.IsWord s) : '.' ∉ s.toList := by
    intro hmem
    exact absurd (hs.2 '.' hmem) (by decide)
  have hsplit : (name ++ "." ++ column).toList.splitOn '.' = [name.toList, column.toList] := by
    have hpoints : ".".toList = ['.'] := by decide
    have hjoined : (name ++ "." ++ column).toList
        = ['.'].intercalate [name.toList, column.toList] := by
      rw [String.toList_append, String.toList_append, hpoints, List.intercalate_cons_cons,
        List.intercalate_singleton]
    rw [hjoined]
    apply List.splitOn_intercalate
    · intro part hpart
      rcases List.mem_cons.1 hpart with rfl | hpart
      · exact hpoint hn
      · rw [List.mem_singleton.1 hpart]
        exact hpoint hc
    · exact List.cons_ne_nil _ _
  rw [column?, hsplit]
  exact if_pos rfl

/-- **A selection by identifier** is answered. -/
theorem query_find (s : Server) {f : Sql.Find} (h : f.Named) (hc : f.columns ≠ []) :
    s.query f.text [f.value] = s.find f := by
  have hread : s.read? Sql.Find.read? f.text [f.value] = some f :=
    Sql.Find.read?_text s.dialect h hc
  rw [query, hread]

/-! ## §4. Changes. -/

/-- The server after a statement that may change data. -/
def counted (s : Server) : Server := { s with count := s.count + 1 }

/-- The server after it has been asked for a new identifier. -/
def renewed (s : Server) : Server := { s with ids := s.ids.next.2 }

/-- What a term stands for. -/
def value (s : Server) : Sql.Term → Value
  | .bound v => v
  | .now => s.clock s.count
  | .literal text => .string text

/-- The columns and values of assignments. -/
def values (s : Server) (as : Sql.Assignments) : List (List Char × Value) :=
  as.map fun a => (Text.lowered a.1, s.value a.2)

theorem values_append (s : Server) (as as' : Sql.Assignments) :
    s.values (as ++ as') = s.values as ++ s.values as' := List.map_append

theorem map_fst_values (s : Server) (as : Sql.Assignments) :
    (s.values as).map Prod.fst = as.columns := List.map_map

/-- Nothing but the row with an identifier has changed, and what the server is has not. -/
structure Follows (s : Server) (id : Value) (s' : Server) : Prop where
  dialect : s'.dialect = s.dialect
  table : s'.table = s.table
  counting : s'.counting = s.counting
  clock : s'.clock = s.clock
  others : ∀ other, other ≠ id → s'.rows other = s.rows other

theorem Follows.trans {s s' s'' : Server} {id : Value} (h : s.Follows id s')
    (h' : s'.Follows id s'') : s.Follows id s'' where
  dialect := h'.dialect.trans h.dialect
  table := h'.table.trans h.table
  counting := h'.counting.trans h.counting
  clock := h'.clock.trans h.clock
  others other hother := (h'.others other hother).trans (h.others other hother)

theorem follows_refl (s : Server) (id : Value) : s.Follows id s :=
  ⟨rfl, rfl, rfl, rfl, fun _ _ => rfl⟩

theorem follows_renewed (s : Server) (id : Value) : s.Follows id s.renewed :=
  ⟨rfl, rfl, rfl, rfl, fun _ _ => rfl⟩

theorem follows_counted (s : Server) (id : Value) : s.Follows id s.counted :=
  ⟨rfl, rfl, rfl, rfl, fun _ _ => rfl⟩

variable [DecidableEq Value]

/-- Put a row under an identifier. -/
def put (s : Server) (id : Value) (row : Stored) : Server :=
  { s.counted with rows := Function.update s.rows id (some row) }

theorem rows_put_self (s : Server) (id : Value) (row : Stored) :
    (s.put id row).rows id = some row := Function.update_self _ _ _

theorem follows_put (s : Server) (id : Value) (row : Stored) : s.Follows id (s.put id row) :=
  ⟨rfl, rfl, rfl, rfl, fun _ hother => Function.update_of_ne hother _ _⟩

/-- What is reported of a row whose columns are set. -/
def reported (s : Server) (row : Stored) (values : List (List Char × Value)) : Nat :=
  match s.counting with
  | .matched => 1
  | .changed => if ∀ v ∈ values, assign row values v.1 = row v.1 then 0 else 1

/-- Update the row with an identifier, which itself cannot be set. -/
def update (s : Server) (u : Sql.Update) : Except Error Outcome × Server :=
  if u.table = s.table ∧ Text.lowered idPath ∉ u.sets.columns then
    match s.rows u.id with
    | none => (.ok (.ofAffected 0), s.counted)
    | some row =>
      (.ok (.ofAffected (s.reported row (s.values u.sets))),
        s.put u.id (assign row (s.values u.sets)))
  else (.error refusal, s)

/-- Insert a row, whose columns are set once each, under the identifier that one of them is set
to. -/
def insert (s : Server) (i : Sql.Insert) : Except Error Outcome × Server :=
  if i.table = s.table ∧ i.items.columns.Nodup then
    match (s.values i.items).lookup (Text.lowered idPath) with
    | none => (.error refusal, s)
    | some id =>
      if (s.rows id).isSome then (.error duplicate, s)
      else (.ok (.ofAffected 1), s.put id (assign (fun _ => .null) (s.values i.items)))
  else (.error refusal, s)

/-- Run a statement that changes data. -/
def execute (s : Server) (sql : String) (params : List Value) : Except Error Outcome × Server :=
  match s.read? (Sql.Update.read? s.dialect) sql params with
  | some u => s.update u
  | none => match s.read? (Sql.Insert.read? s.dialect) sql params with
    | some i => s.insert i
    | none => (.error refusal, s)

/-- **An update** is done as it says. -/
theorem execute_update (s : Server) {u : Sql.Update} (ht : Sql.IsWord u.table)
    (hs : u.sets.Named) (hne : u.sets ≠ []) :
    s.execute (u.text s.dialect) u.params = s.update u := by
  have hread : s.read? (Sql.Update.read? s.dialect) (u.text s.dialect) u.params = some u :=
    Sql.Update.read?_text s.dialect ht hs hne
  rw [execute, hread]

/-- **An insertion** is done as it says. -/
theorem execute_insert (s : Server) {i : Sql.Insert} (ht : Sql.IsWord i.table)
    (hs : i.items.Named) (hne : i.items ≠ []) :
    s.execute (i.text s.dialect) i.params = s.insert i := by
  have hread : s.read? (Sql.Insert.read? s.dialect) (i.text s.dialect) i.params = some i :=
    Sql.Insert.read?_text s.dialect ht hs hne
  have hother : s.read? (Sql.Update.read? s.dialect) (i.text s.dialect) i.params = none :=
    Sql.Insert.update?_text s.dialect ht hs i.params
  rw [execute, hother, hread]

theorem dialect_update (s : Server) (u : Sql.Update) : (s.update u).2.dialect = s.dialect := by
  unfold update
  split
  · split <;> rfl
  · rfl

/-- **What an update does**: it is refused, or finds no row, or sets columns of the row. -/
theorem update_cases (s : Server) (u : Sql.Update) :
    s.update u = (.error refusal, s)
      ∨ (s.rows u.id = none ∧ s.update u = (.ok (.ofAffected 0), s.counted))
      ∨ ∃ row, s.rows u.id = some row
        ∧ s.update u = (.ok (.ofAffected (s.reported row (s.values u.sets))),
          s.put u.id (assign row (s.values u.sets))) := by
  unfold update
  split
  · cases hrow : s.rows u.id with
    | none => exact .inr (.inl ⟨rfl, rfl⟩)
    | some row => exact .inr (.inr ⟨row, rfl, rfl⟩)
  · exact .inl rfl

/-- **What an insertion does**: it fails and changes nothing, or puts a row where there was none. -/
theorem insert_cases (s : Server) (i : Sql.Insert) :
    (∃ e, s.insert i = (.error e, s))
      ∨ (i.items.columns.Nodup ∧ ∃ id, (s.values i.items).lookup (Text.lowered idPath) = some id
        ∧ s.rows id = none
        ∧ s.insert i
          = (.ok (.ofAffected 1), s.put id (assign (fun _ => .null) (s.values i.items)))) := by
  unfold insert
  split
  · rename_i haccepted
    cases hid : (s.values i.items).lookup (Text.lowered idPath) with
    | none => exact .inl ⟨refusal, rfl⟩
    | some id =>
      dsimp only
      split
      · exact .inl ⟨duplicate, rfl⟩
      · rename_i hrow
        exact .inr ⟨haccepted.2, id, rfl, Option.not_isSome_iff_eq_none.1 hrow, rfl⟩
  · exact .inl ⟨refusal, rfl⟩

/-! ## §5. Units of work. -/

/-- Answer a request of a unit of work. -/
def answer : (r : Work.Request) → Server → Work.Answer r × Server
  | .query sql params, s => (s.query sql params, s)
  | .execute sql params, s => s.execute sql params
  | .freshId, s => (s.ids.next.1, s.renewed)
  | .note _, s => ((), s)

/-- Do a unit of work. -/
def perform {α : Type} (s : Server) (work : Work α) : Except Error α × Server :=
  work.run.run answer s

variable {α β : Type} (s : Server)

/-- **One computation behind another**, which is not begun if the first one fails. -/
theorem perform_bind (work : Work α) (f : α → Work β) :
    s.perform (work >>= f) = match s.perform work with
      | (.ok a, s) => s.perform (f a)
      | (.error e, s) => (.error e, s) := by
  rw [perform, Script.run_bind, Script.run_andThen]
  show _ = match work.run.run answer s with
    | (.ok a, s) => s.perform (f a)
    | (.error e, s) => (.error e, s)
  cases work.run.run answer s with
  | mk outcome s' =>
    cases outcome with
    | ok a => rfl
    | error e => rfl

theorem perform_execute (sql : String) (params : List Value) :
    s.perform (Work.execute sql params) = s.execute sql params := rfl

theorem perform_note_bind (e : Event) (f : Unit → Work α) :
    s.perform (Work.note e >>= f) = s.perform (f ()) := rfl

/-- A new identifier is the next one. -/
theorem perform_freshId_bind (f : String → Work α) :
    s.perform (Work.freshId >>= f) = s.renewed.perform (f s.ids.text) := rfl

end Server

end CardStore
