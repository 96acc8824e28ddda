/-
  CardStore.Proofs.Query.Answer
  ─────────────────────────────
  **THE ROWS THAT A SELECTION MEANS.**

  A selection is answered from the contents of tables.  Each join keeps every
  row, next to those it refers to or next to nothing; what passes the
  condition is put into order, cut to the window, and shown column by column.
  The condition is the one that its text is read as.

  What an engine makes of single values is left to it: to which identifiers a
  value refers, what a test says of a value, and in which order rows with
  some sort keys come.

  Main statements:
    * `JoinedRow.valueOf_columnText` — a column text finds its table and column.
    * `Select.forall₂_rows` — selections that treat related rows alike have related answers.
    * `Filter.passes_of_condition` — a row passes by the values of the filter's paths alone.
    * `Query.map_value_orderColumns` — and is sorted by those of the sort keys.
-/
import CardStore.Proofs.Filter.Meaning
import CardStore.Proofs.Lists
import CardStore.Proofs.Query.Joins
import CardStore.Query.Compile

namespace CardStore

open List (Forall₂)
open Sql (Dialect Predicate Truth)

/-! ## §1. Tables and engines. -/

/-- The values of a stored row by column. -/
abbrev Cells := String → Value

/-- The rows of each table, in the order in which they are found. -/
abbrev Contents := String → List Cells

/-- **What an engine makes of values.** -/
structure Engine where
  /-- Whether a value refers to an identifier. -/
  refers : Value → Value → Bool
  /-- The truth of an operator with its operands for a value. -/
  meets : Operator → List Value → Value → Truth
  /-- The positions of rows with some sort keys, in the order in which the rows come. -/
  arrange : List (List (Value × Direction)) → List Nat

/-- A row of joined tables: a row of each table, or nothing where no row is referred to. -/
abbrev JoinedRow := List (Option Cells)

/-- The column that a text names if it is one of the table at a position. -/
def columnOf? (position : Nat) (text : String) : Option String :=
  ((columnText position "").toList.isPrefixOf? text.toList).map String.ofList

namespace JoinedRow

/-- The value of a column; nothing has nothing but null. -/
def value (row : JoinedRow) (position : Nat) (column : String) : Value :=
  (row[position]?.join.map (· column)).getD .null

/-- The value of the column that a text names, the first table standing at a position. -/
def valueFrom (text : String) : Nat → JoinedRow → Value
  | _, [] => .null
  | position, cells :: row => match columnOf? position text with
    | some column => (cells.map (· column)).getD .null
    | none => valueFrom text (position + 1) row

/-- The value of the column that a text names. -/
def valueOf (row : JoinedRow) (text : String) : Value := valueFrom text 0 row

end JoinedRow

theorem columnOf?_columnText (position table : Nat) (column : String) :
    columnOf? position (columnText table column)
      = if position = table then some column else none := by
  have hfront (n : Nat) (name : String) :
      (columnText n name).toList = (columnText n "").toList ++ name.toList := by
    simp [columnText]
  split
  · rename_i hsame
    rw [hsame, columnOf?, hfront table column,
      List.isPrefixOf?_eq_some_iff_append_eq.2 rfl, Option.map_some, String.ofList_toList]
  · rename_i hother
    rw [columnOf?, Option.map_eq_none_iff]
    cases hfound : (columnText position "").toList.isPrefixOf?
        (columnText table column).toList with
    | none => rfl
    | some rest =>
      -- a text that begins with another alias would name a column of that table
      have hrest := List.isPrefixOf?_eq_some_iff_append_eq.1 hfound
      rw [← String.toList_ofList (l := rest), ← hfront position] at hrest
      exact absurd (columnText_inj (String.toList_inj.1 hrest)).1 hother

namespace JoinedRow

theorem valueFrom_columnText (table : Nat) (column : String) : ∀ (row : JoinedRow) (position : Nat),
    position ≤ table →
      valueFrom (columnText table column) position row = row.value (table - position) column := by
  intro row
  induction row with
  | nil =>
    intro position _
    rfl
  | cons cells row ih =>
    intro position hle
    rw [valueFrom, columnOf?_columnText]
    rcases Nat.lt_or_eq_of_le hle with hlt | rfl
    · rw [if_neg (Nat.ne_of_lt hlt)]
      dsimp only
      have hnext : table - position = table - (position + 1) + 1 := by omega
      rw [ih (position + 1) hlt, hnext, value, value, List.getElem?_cons_succ]
    · rw [if_pos rfl, Nat.sub_self]
      rfl

/-- **A column text** finds its table and column. -/
theorem valueOf_columnText (row : JoinedRow) (table : Nat) (column : String) :
    row.valueOf (columnText table column) = row.value table column :=
  valueFrom_columnText table column row 0 (Nat.zero_le _)

end JoinedRow

/-! ## §2. Answers. -/

/-- A row next to each row that it refers to, or next to nothing if there is none. -/
def Join.extend (e : Engine) (contents : Contents) (j : Join) (row : JoinedRow) :
    List JoinedRow :=
  match (contents j.card.table).filter fun cells =>
      e.refers (row.value j.parent j.column) (cells idPath) with
  | [] => [row ++ [none]]
  | partners => partners.map fun cells => row ++ [some cells]

/-- The rows of joined tables. -/
def Tables.joined (e : Engine) (contents : Contents) (t : Tables) : List JoinedRow :=
  t.joins.foldl (fun rows j => rows.flatMap (j.extend e contents))
    ((contents t.root.table).map fun cells => [some cells])

/-- The truth of a predicate on a single column. -/
def Sql.Predicate.test (e : Engine) (value : String → Value) : Predicate → Truth
  | .compare column c operand => e.meets (.compare c) [operand] (value column)
  | .isNull column negated => e.meets .is [.bool negated] (value column)
  | .isIn column negated items => e.meets (.isIn negated) items (value column)
  | .like column negated pattern => e.meets (.like negated) [.string pattern] (value column)
  | .between column negated low high => e.meets (.between negated) [low, high] (value column)
  | .parens _ | .joined _ _ => .unknown

/-- The truth of the predicates on single columns by their positions. -/
def Sql.Predicate.tests (e : Engine) (value : String → Value) (leaves : List Predicate) (n : Nat) :
    Truth := (leaves.map (Predicate.test e value))[n]?.getD .unknown

namespace Sql

/-- Whether the condition is true, as its text is read; a row passes if there is none. -/
def passes (e : Engine) (d : Dialect) (value : String → Value) : Option Predicate → Bool
  | none => true
  | some p => (p.expr d).truth (Predicate.tests e value p.leaves) 0 == .true

/-- The rows of a window. -/
def cut {α : Type} (rows : List α) : Option Window → List α
  | none => rows
  | some w => (rows.drop w.offset).take w.limit

namespace Select

/-- What a row is sorted by. -/
def sortKeys (s : Select) (row : JoinedRow) : List (Value × Direction) :=
  s.order.map fun key => (row.valueOf key.1, key.2)

/-- The rows that are selected. -/
def rows (e : Engine) (contents : Contents) (d : Dialect) (s : Select) : List JoinedRow :=
  let passing := (s.tables.joined e contents).filter fun row => passes e d row.valueOf s.condition
  let arranged := (e.arrange (passing.map s.sortKeys)).filterMap (passing[·]?)
  cut arranged s.window

/-- **The rows that a selection means**, column by column. -/
def answer (e : Engine) (contents : Contents) (d : Dialect) (s : Select) : List (List Value) :=
  (s.rows e contents d).map fun row => s.columns.map row.valueOf

/-- **Selections that treat related rows alike** have related rows. -/
theorem forall₂_rows {e : Engine} {contents : Contents} {d : Dialect} {s s' : Select}
    {R : JoinedRow → JoinedRow → Prop}
    (hjoined : Forall₂ R (s.tables.joined e contents) (s'.tables.joined e contents))
    (hpasses : ∀ row row', R row row' →
      passes e d row.valueOf s.condition = passes e d row'.valueOf s'.condition)
    (hkeys : ∀ row row', R row row' → s.sortKeys row = s'.sortKeys row')
    (hwindow : s.window = s'.window) :
    Forall₂ R (s.rows e contents d) (s'.rows e contents d) := by
  have hfilter := List.rel_filter (R := R) (p := fun row => passes e d row.valueOf s.condition)
    (q := fun row => passes e d row.valueOf s'.condition)
    (fun row row' h => Bool.eq_iff_iff.1 (hpasses row row' h)) hjoined
  rw [rows, rows, hwindow]
  generalize List.filter _ (s.tables.joined e contents) = passing at hfilter ⊢
  generalize List.filter _ (s'.tables.joined e contents) = passing' at hfilter ⊢
  have hsorted : passing.map s.sortKeys = passing'.map s'.sortKeys := by
    rw [← List.forall₂_eq_eq_eq]
    exact List.rel_map (fun row row' h => hkeys row row' h) hfilter
  have harranged : Forall₂ R ((e.arrange (passing.map s.sortKeys)).filterMap (passing[·]?))
      ((e.arrange (passing'.map s'.sortKeys)).filterMap (passing'[·]?)) := by
    rw [hsorted]
    refine List.rel_filterMap (R := Eq) ?_ (List.forall₂_refl _)
    rintro i _ rfl
    exact rel_getElem?_of_forall₂ hfilter i
  cases s'.window with
  | none => exact harranged
  | some w => exact List.forall₂_take _ (List.forall₂_drop _ harranged)

end Select

end Sql

/-! ## §3. What compiled conditions and sort keys see of a row. -/

variable {columns columns' : ColumnMap} {value value' : String → Value}

/-- The truth of a triple depends on the value of its column alone. -/
theorem Triple.test_of_predicateOf (e : Engine) {t : Triple} {op : Operator}
    {column column' : String} {p p' : Predicate} (h : t.predicateOf op column = .ok p)
    (h' : t.predicateOf op column' = .ok p') (hvalue : value column = value' column') :
    p.test e value = p'.test e value' := by
  cases op with
  | compare c =>
    obtain rfl := Except.ok.inj h
    obtain rfl := Except.ok.inj h'
    rw [Predicate.test, Predicate.test, hvalue]
  | is =>
    obtain rfl := Except.ok.inj h
    obtain rfl := Except.ok.inj h'
    rw [Predicate.test, Predicate.test, hvalue]
  | like negated =>
    obtain rfl := Except.ok.inj h
    obtain rfl := Except.ok.inj h'
    rw [Predicate.test, Predicate.test, hvalue]
  | isIn negated =>
    rw [predicateOf] at h h'
    split at h
    · rename_i items hitems
      rw [hitems] at h'
      obtain rfl := Except.ok.inj h
      obtain rfl := Except.ok.inj h'
      rw [Predicate.test, Predicate.test, hvalue]
    · cases h
  | between negated =>
    rw [predicateOf] at h h'
    split at h
    · rename_i low high hitems
      rw [hitems] at h'
      obtain rfl := Except.ok.inj h
      obtain rfl := Except.ok.inj h'
      rw [Predicate.test, Predicate.test, hvalue]
    · cases h

/-- Two readings of a path find the same value in its columns. -/
def ColumnMap.AgreeOn (columns columns' : ColumnMap) (value value' : String → Value)
    (path : String) : Prop :=
  ∀ column column', columns.get path = .ok column → columns'.get path = .ok column' →
    value column.text = value' column'.text

namespace Filter

/-- **A row passes** a compiled filter if the filter is true of it, or has no condition. -/
theorem passes_eq (e : Engine) (d : Dialect) (hq : columns.IsQualified) {f : Filter}
    {answer : Option Predicate} (h : f.predicate columns = .ok answer) :
    Sql.passes e d value answer
      = ((f.truth (Predicate.tests e value (answer.toList.flatMap Predicate.leaves)) 0).map
          (· == Truth.true)).getD true := by
  rw [(truth_of_predicates hq d _).1 f answer h 0]
  cases answer with
  | none => rfl
  | some p =>
    rw [Option.toList_some, List.flatMap_cons, List.flatMap_nil, List.append_nil]
    rfl

/-- The predicates of triples whose paths have the same values have the same truth. -/
theorem map_test_of_compiles (e : Engine) {ts : List Triple} {qs qs' : List Predicate}
    (h : Forall₂ (Compiles columns) ts qs) (h' : Forall₂ (Compiles columns') ts qs')
    (hvalues : ∀ t ∈ ts, columns.AgreeOn columns' value value' t.path) :
    qs.map (Predicate.test e value) = qs'.map (Predicate.test e value') := by
  induction h generalizing qs' with
  | nil =>
    rw [List.forall₂_nil_left_iff.1 h']
    rfl
  | @cons t q ts qs hq _ ih =>
    obtain ⟨q', rest', hq', hrest', rfl⟩ := List.forall₂_cons_left_iff.1 h'
    obtain ⟨hvalue, hvalues⟩ := List.forall_mem_cons.1 hvalues
    obtain ⟨op, column, hop, hcolumn, hp⟩ := Triple.predicate_eq_ok_iff.1 hq
    obtain ⟨op', column', hop', hcolumn', hp'⟩ := Triple.predicate_eq_ok_iff.1 hq'
    obtain rfl : op = op' := Option.some.inj (hop.symm.trans hop')
    have hhead := Triple.test_of_predicateOf e hp hp' (hvalue column column' hcolumn hcolumn')
    rw [List.map_cons, List.map_cons, hhead, ih hrest' hvalues]

/-- **A row passes** a compiled filter by the values under its paths alone. -/
theorem passes_of_condition (e : Engine) (d : Dialect) (hq : columns.IsQualified)
    (hq' : columns'.IsQualified) {filter : Option Filter} {answer answer' : Option Predicate}
    (h : condition columns filter = .ok answer) (h' : condition columns' filter = .ok answer')
    (hvalues : ∀ t ∈ allTriples filter, columns.AgreeOn columns' value value' t.path) :
    Sql.passes e d value answer = Sql.passes e d value' answer' := by
  cases filter with
  | none =>
    obtain rfl : none = answer := Except.ok.inj h
    obtain rfl : none = answer' := Except.ok.inj h'
    rfl
  | some f =>
    have hall : allTriples (some f) = f.triples := List.append_nil _
    rw [hall] at hvalues
    have htests : Predicate.tests e value (answer.toList.flatMap Predicate.leaves)
        = Predicate.tests e value' (answer'.toList.flatMap Predicate.leaves) := by
      funext n
      rw [Predicate.tests, Predicate.tests, map_test_of_compiles e (leaves_of_predicate h)
        (leaves_of_predicate h') hvalues]
    rw [passes_eq e d hq h, passes_eq e d hq' h', htests]

end Filter

/-- **A row is sorted** by the values under the paths of the sort keys alone. -/
theorem Query.map_value_orderColumns : ∀ {order : Order} {keys keys' : List (String × Direction)},
    orderColumns columns order = .ok keys → orderColumns columns' order = .ok keys' →
      (∀ key ∈ order, columns.AgreeOn columns' value value' key.1) →
      keys.map (fun key => (value key.1, key.2)) = keys'.map fun key => (value' key.1, key.2) := by
  intro order
  induction order with
  | nil =>
    intro keys keys' h h' _
    obtain rfl : [] = keys := Except.ok.inj h
    obtain rfl : [] = keys' := Except.ok.inj h'
    rfl
  | cons key order ih =>
    intro keys keys' h h' hvalues
    obtain ⟨hvalue, hvalues⟩ := List.forall_mem_cons.1 hvalues
    rw [orderColumns] at h h'
    obtain ⟨column, hcolumn, h⟩ := bind_eq_ok_iff.1 h
    obtain ⟨rest, hrest, h⟩ := bind_eq_ok_iff.1 h
    obtain ⟨column', hcolumn', h'⟩ := bind_eq_ok_iff.1 h'
    obtain ⟨rest', hrest', h'⟩ := bind_eq_ok_iff.1 h'
    obtain rfl : (column.text, key.2) :: rest = keys := Except.ok.inj h
    obtain rfl : (column'.text, key.2) :: rest' = keys' := Except.ok.inj h'
    rw [List.map_cons, List.map_cons, ih hrest hrest' hvalues,
      hvalue column column' hcolumn hcolumn']

end CardStore
