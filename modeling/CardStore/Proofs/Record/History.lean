/-
  CardStore.Proofs.Record.History
  ───────────────────────────────
  **A RECORD IS THE ORDERED MAP OF WHAT WAS SET.**

  However a record is made, paths are set one after another: one by one, from
  a list of pairs, from the members of an object, or from the cells of a row.
  What was set, in this order and with all repetitions, is the history of the
  record.  Children are no part of it.

      read       {"b":1,"children":[{}],"a":2,"b":3}
      history    b = 1    a = 2    b = 3
      record     b = 3    a = 2                         and one child

  The entries of a record depend on nothing but its history: they are those
  that it gives when it is set from the beginning, path after path.

  Main statements:
    * `entries_of_readMembers` — what is read has the members of its object set.
    * `entries_of_made` — the entries of a record are those of its history.
    * `orderedMapOf_of_made` — every record is the ordered map of its history.
-/
import CardStore.Proofs.Json.Nesting
import CardStore.Proofs.OrderedMap
import CardStore.Proofs.Query.Reshape
import CardStore.Record.Wire
import Mathlib

namespace CardStore.Record

open Json (Node Origin)

/-! ## §1. What an object sets. -/

/-- What a member of an object sets: the value that it holds, unless its key is that of children. -/
def setting? : Except Json.Fault String × Node → Option (String × Value)
  | (.ok key, n) =>
    -- an object is refused if one of these members holds no value
    if key = childrenKey then none else some (key, (Value.read .memory n).toOption.getD .null)
  | (.error _, _) => none

/-- What an object sets, member by member, repeated keys included. -/
def settings : Node → List (String × Value)
  | .object members _ => members.filterMap setting?
  | _ => []

/-- A value does not depend on where it is read. -/
theorem setting?_of_read {o : Origin} {key : String} {n : Node} {v : Value}
    (hkey : key ≠ childrenKey) (h : Value.read o n = .ok v) :
    setting? (.ok key, n) = some (key, v) := by
  obtain ⟨j, hn, -, hv⟩ := Value.read_eq_ok_iff.1 h
  have hmemory : Value.read .memory n = .ok v := Value.read_eq_ok_iff.2 ⟨j, hn, trivial, hv⟩
  rw [setting?, if_neg hkey, hmemory]
  rfl

/-- **What is read has the members of its object set**, one after another; children are put
elsewhere. -/
theorem entries_of_readMembers {o : Origin} (ms : List (Except Json.Fault String × Node)) :
    ∀ {r s : Record}, readMembers o r ms = .ok s →
      s.entries = r.entries.setAll (ms.filterMap setting?) := by
  induction ms with
  | nil =>
    intro r s h
    cases h
    rfl
  | cons m ms ih =>
    intro r s h
    obtain ⟨key, n⟩ := m
    rw [readMembers] at h
    obtain ⟨k, hk, hrest⟩ := bind_eq_ok_iff.1 h
    obtain rfl := Json.ofText_eq_ok_iff.1 hk
    split at hrest
    · rename_i hchildren
      obtain ⟨children, -, hs⟩ := bind_eq_ok_iff.1 hrest
      have hnone : setting? (.ok k, n) = none := if_pos hchildren
      rw [List.filterMap_cons_none hnone]
      exact ih (r := r.withChildren children) hs
    · rename_i hkey
      obtain ⟨v, hv, hs⟩ := bind_eq_ok_iff.1 hrest
      rw [List.filterMap_cons_some (setting?_of_read hkey hv)]
      exact ih hs

/-! ## §2. How records are made. -/

/-- **A record and its history**, by all the ways in which records are made and changed. -/
inductive Made : Record → List (String × Value) → Prop where
  | new : Made .empty []
  /-- The record of a list of paths and values. -/
  | collected (es : List (String × Value)) : Made (.ofList es) es
  /-- A record that is read: from a text, from a value in memory, or as a child of another one. -/
  | read {o : Origin} {n : Node} {r : Record} : Record.read o n = .ok r → Made r (settings n)
  /-- The record of a row of a result. -/
  | reshaped {rows : RowSet} {model : List String} {i : Nat} {row : Row} {r : Record} :
    rows.rows[i]? = some row → (rows.reshape model)[i]? = some r → Made r (row.cells model)
  /-- A path is set, of a record that is there or while it is being built. -/
  | set {r : Record} {history : List (String × Value)} (path : String) (value : Value) :
    Made r history → Made (r.set path value) (history ++ [(path, value)])
  | pushChild {r : Record} {history : List (String × Value)} (child : Record) :
    Made r history → Made (r.pushChild child) history
  | withChildren {r : Record} {history : List (String × Value)} (children : Option (List Record)) :
    Made r history → Made (r.withChildren children) history

theorem entries_of_read {o : Origin} {n : Node} {r : Record} (h : read o n = .ok r) :
    r.entries = .ofList (settings n) := by
  cases n with
  | object members stop =>
    rw [read] at h
    obtain ⟨i, r', -, hr', -, rfl⟩ := Json.container_eq_ok_iff.1 h
    exact entries_of_readMembers members hr'
  | number n => rcases n with _ | ⟨_ | _⟩ <;> cases h
  | string s => cases s <;> cases h
  | _ => cases h

/-- **The entries of a record** are those that its history gives, set from the beginning. -/
theorem entries_of_made {r : Record} {history : List (String × Value)} (h : Made r history) :
    r.entries = .ofList history := by
  induction h with
  | new => rfl
  | collected es => rfl
  | read h => exact entries_of_read h
  | reshaped hrow hr =>
    rw [RowSet.reshape, List.getElem?_map, hrow, Option.map_some, Option.some.injEq] at hr
    rw [← hr, Row.toRecord_eq_ofList]
    rfl
  | @set r history path value _ ih =>
    rw [OrderedMap.ofList_concat, ← ih]
    rfl
  | pushChild child _ ih => exact ih
  | withChildren children _ ih => exact ih

/-! ## §3. Ordered maps. -/

/-- **The ordered map of a history.** -/
structure OrderedMapOf (r : Record) (history : List (String × Value)) : Prop where
  distinct : r.paths.Nodup
  /-- The paths are those that were set. -/
  mem_paths : ∀ path, path ∈ r.paths ↔ path ∈ Pairs.keys history
  /-- Of two paths the one that was first set earlier stands in front. -/
  ordered : r.paths.Pairwise fun path path' =>
    (Pairs.keys history).idxOf path < (Pairs.keys history).idxOf path'
  /-- A path has the value to which it was last set. -/
  get?_eq_some : ∀ path value, r.get? path = some value ↔ Pairs.LastSet history path value
  /-- Only a path that was never set has none. -/
  get?_eq_none : ∀ path, r.get? path = none ↔ path ∉ Pairs.keys history
  contains_eq_true : ∀ path, r.contains path = true ↔ path ∈ Pairs.keys history
  size_eq : r.size = (Pairs.keys history).toFinset.card

/-- **Every record is the ordered map of its history.**  However it is made, from whatever and in
whatever order, its paths are those that were set, each once and in the order in which they were
first set; each has the value to which it was last set, and no other path has any. -/
theorem orderedMapOf_of_made {r : Record} {history : List (String × Value)}
    (h : Made r history) : r.OrderedMapOf history := by
  have hentries := entries_of_made h
  have hpaths : r.paths = (Pairs.keys history).eraseDups := by
    rw [paths, hentries, OrderedMap.keys_ofList]
  have hmem (path : String) : path ∈ r.paths ↔ path ∈ Pairs.keys history := by
    rw [hpaths, List.mem_eraseDups]
  constructor
  case distinct =>
    rw [hpaths]
    exact nodup_eraseDups _
  case mem_paths => exact hmem
  case ordered =>
    rw [hpaths]
    exact pairwise_idxOf_eraseDups _
  case get?_eq_some =>
    intro path value
    rw [get?, hentries]
    exact OrderedMap.get?_ofList_eq_some_iff
  case get?_eq_none =>
    intro path
    rw [← hmem]
    exact r.entries.get?_eq_none_iff path
  case contains_eq_true =>
    intro path
    rw [← hmem]
    exact List.contains_iff_mem
  case size_eq =>
    rw [size, hentries]
    exact OrderedMap.size_ofList history

/-- A text that repeats a path, with children between its entries. -/
def repeatedText : String := "\x7b\"ID\":\"A\",\"name\":\"Li\",\"children\":[\x7b\"ID\":\"B\"\x7d],"
  ++ "\"ID\":\"C\"\x7d"

/-- What is set of it, and then of the record. -/
def repeatedHistory : List (String × Value) :=
  [("ID", .string "A"), ("name", .string "Li"), ("ID", .string "C"), ("name", .string "Wu"),
    ("age", .int 30)]

/-- A record is read from it, loses its children, and is given another name and a further path. -/
theorem orderedMapOf_repeated : ∃ r, ofText repeatedText = .ok r
    ∧ Made (((r.withChildren none).set "name" (.string "Wu")).set "age" (.int 30)) repeatedHistory
    ∧ OrderedMapOf (((r.withChildren none).set "name" (.string "Wu")).set "age" (.int 30))
      repeatedHistory := by
  obtain ⟨r, hr⟩ : ∃ r, ofText repeatedText = .ok r := exists_eq_ok_of_isOk (by decide +kernel)
  have hsettings : settings (Json.scan repeatedText).node
      = [("ID", .string "A"), ("name", .string "Li"), ("ID", .string "C")] := by cbv
  have hread : Made r [("ID", .string "A"), ("name", .string "Li"), ("ID", .string "C")] :=
    hsettings ▸ .read (Json.readText_eq_ok_iff.1 hr).1
  have hmade := ((hread.withChildren none).set "name" (.string "Wu")).set "age" (.int 30)
  exact ⟨r, hr, hmade, orderedMapOf_of_made hmade⟩

end CardStore.Record
