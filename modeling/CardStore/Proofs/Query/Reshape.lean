/-
  CardStore.Proofs.Query.Reshape
  ──────────────────────────────
  **WHAT A RECORD HOLDS THAT WAS READ FROM A ROW.**

  The columns of a result are found by their positional names, in whatever
  order and letter case a backend returns them.  No two of these names are the
  same then, so each path of a model gets the value of its own column; a path
  that is repeated keeps the place of its first occurrence.

  Main statements:
    * `Sql.eqIgnoreCase_resultName_iff` — positional names tell positions apart.
    * `Row.selected_of_shows` — the value at a position, in whatever order the columns come.
    * `Row.toRecord_eq_ofList` — a record is made of the cells of its row.
    * `Row.paths_toRecord` — the paths of a record.
    * `Row.get?_toRecord_of_forall` — the value of a path of a record.
-/
import CardStore.Proofs.OrderedMap
import CardStore.Proofs.Query.Joins
import CardStore.Query.Reshape

namespace CardStore

open List (Forall₂)

/-! ## §1. Positional names. -/

/-- Digits have no letter case. -/
theorem Text.map_toLower_digitChars (n : Nat) :
    (Text.digitChars n).map Char.toLower = Text.digitChars n := by
  have hdigit : ∀ d < 10, (Text.digitChar d).toLower = Text.digitChar d := by decide
  refine (List.map_congr_left fun c hc => ?_).trans (List.map_id _)
  obtain ⟨d, hd, rfl⟩ := Text.exists_digit_of_mem_digitChars hc
  exact hdigit d hd

/-- **Positional names** tell positions apart, the case of letters aside. -/
theorem Sql.eqIgnoreCase_resultName_iff {i j : Nat} :
    Text.eqIgnoreCase (Sql.resultName i) (Sql.resultName j) = true ↔ i = j := by
  have hlowered (n : Nat) : Text.lowered (Sql.resultName n) = 'c' :: Text.digitChars n := by
    have hc : "C".toList = ['C'] := by decide
    show ("C" ++ Text.ofNat n).toList.map Char.toLower = _
    rw [String.toList_append, hc, Text.ofNat, String.toList_ofList, List.map_append,
      Text.map_toLower_digitChars]
    rfl
  rw [Text.eqIgnoreCase_iff, hlowered, hlowered]
  constructor
  · intro h
    exact Text.digitChars_injective (List.cons.inj h).2
  · rintro rfl
    rfl

namespace Row

/-! ## §2. Values at positions. -/

/-- The value at a position is the one that stands under every column of that name. -/
theorem selected_of_columns {row : Row} {i : Nat} {value : Value}
    (hname : ∃ name ∈ row.columns, Text.eqIgnoreCase name (Sql.resultName i) = true)
    (hvalue : ∀ (k : Nat) (name : String), row.columns[k]? = some name →
      Text.eqIgnoreCase name (Sql.resultName i) = true → row.values[k]? = some value) :
    row.selected i = value := by
  obtain ⟨k, hk⟩ : ∃ k, row.columns.findIdx? (Text.eqIgnoreCase · (Sql.resultName i)) = some k :=
    Option.isSome_iff_exists.1 (List.findIdx?_isSome.trans (List.any_eq_true.2 hname))
  obtain ⟨hlt, hsame, _⟩ := List.findIdx?_eq_some_iff_getElem.1 hk
  have hat : row.at? k = some value := hvalue k _ (List.getElem?_eq_getElem hlt) hsame
  rw [selected, get?, hk, Option.bind_some, hat]
  rfl

/-- **The value at a position** of a row whose columns have positional names. -/
theorem selected_of_positional {α : Type} {columns : List α} {values : List Value} {i : Nat}
    {value : Value} (hi : i < columns.length) (hvalue : values[i]? = some value) :
    selected ⟨columns.mapIdx fun i _ => Sql.resultName i, values⟩ i = value := by
  refine selected_of_columns ⟨Sql.resultName i, ?_, Text.eqIgnoreCase_self _⟩ ?_
  · exact List.mem_mapIdx.2 ⟨i, hi, rfl⟩
  · intro k name hname hsame
    obtain ⟨_, _, rfl⟩ := Option.map_eq_some_iff.1 (List.getElem?_mapIdx.symm.trans hname)
    rw [Sql.eqIgnoreCase_resultName_iff.1 hsame]
    exact hvalue

/-- **A row that shows values**: they stand under their positional names, in any order and any
letter case. -/
def Shows (row : Row) (values : List Value) : Prop :=
  ∃ cells : List (String × Value),
    cells.Perm (values.mapIdx fun i value => (Sql.resultName i, value))
      ∧ Forall₂ (fun name cell => Text.eqIgnoreCase name cell.1 = true) row.columns cells
      ∧ row.values = cells.map Prod.snd

/-- The row that shows values in their order. -/
def positional (values : List Value) : Row :=
  let cells := values.mapIdx fun i value => (Sql.resultName i, value)
  ⟨cells.map Prod.fst, cells.map Prod.snd⟩

theorem shows_positional (values : List Value) : (positional values).Shows values := by
  refine ⟨_, .refl _, ?_, rfl⟩
  rw [positional, List.forall₂_map_left_iff]
  exact List.forall₂_same.2 fun _ _ => Text.eqIgnoreCase_self _

/-- **The value at a position** of a row that shows values. -/
theorem selected_of_shows {row : Row} {values : List Value} (h : row.Shows values) {i : Nat}
    {value : Value} (hvalue : values[i]? = some value) : row.selected i = value := by
  obtain ⟨cells, hperm, hnames, hvalues⟩ := h
  -- a cell is the value at a position, under the name of that position
  have hcell (cell : String × Value) : cell ∈ cells ↔
      ∃ j, values[j]? = some cell.2 ∧ Sql.resultName j = cell.1 := by
    obtain ⟨name, shown⟩ := cell
    rw [hperm.mem_iff, List.mem_iff_getElem?]
    simp only [List.getElem?_mapIdx, Option.map_eq_some_iff, Prod.mk.injEq,
      exists_eq_right_right]
  apply selected_of_columns
  · have hmem : (Sql.resultName i, value) ∈ cells := (hcell _).2 ⟨i, hvalue, rfl⟩
    obtain ⟨k, hk⟩ := List.mem_iff_getElem?.1 hmem
    obtain ⟨name, hname, hsame⟩ := exists_getElem?_of_forall₂ hnames.flip hk
    exact ⟨name, List.mem_of_getElem? hname, hsame⟩
  · intro k name hname hsame
    obtain ⟨cell, hk, hown⟩ := exists_getElem?_of_forall₂ hnames hname
    obtain ⟨j, hj, hposition⟩ := (hcell cell).1 (List.mem_of_getElem? hk)
    -- the name of the column is that of both positions
    have hij : i = j := by
      rw [← Sql.eqIgnoreCase_resultName_iff, hposition]
      exact Text.eqIgnoreCase_trans ((Text.eqIgnoreCase_comm _ _).trans hsame) hown
    rw [hvalues, List.getElem?_map, hk, ← hvalue, hij, hj]
    rfl

/-! ## §3. Records. -/

variable (row : Row)

/-- The cells of a row for a model: each path beside the value at its position. -/
def cells (model : List String) : List (String × Value) :=
  model.mapIdx fun i path => (path, row.selected i)

theorem keys_cells (model : List String) : Pairs.keys (row.cells model) = model := by
  apply List.ext_getElem?
  intro i
  rw [Pairs.keys, cells, List.getElem?_map, List.getElem?_mapIdx, Option.map_map]
  exact Option.map_id'

theorem setPaths_eq_setAll (paths : List String) (position : Nat) (r : Record) :
    row.setPaths position paths r
      = ⟨r.entries.setAll (paths.mapIdx fun i path => (path, row.selected (position + i))),
        r.children⟩ := by
  induction paths generalizing position r with
  | nil =>
    cases r
    rfl
  | cons path paths ih =>
    have hshift (i : Nat) : position + 1 + i = position + (i + 1) := by omega
    rw [setPaths, ih, List.mapIdx_cons]
    simp only [hshift]
    rfl

/-- **A record is made of the cells of its row**, one after another. -/
theorem toRecord_eq_ofList (model : List String) :
    row.toRecord model = .ofList (row.cells model) := by
  rw [toRecord, setPaths_eq_setAll]
  simp only [Nat.zero_add]
  rfl

/-- **The paths of a record** are those of the model, in the order of first occurrences. -/
theorem paths_toRecord (model : List String) : (row.toRecord model).paths = model.eraseDups := by
  rw [toRecord_eq_ofList]
  show (OrderedMap.ofList (row.cells model)).keys = _
  rw [OrderedMap.keys_ofList, keys_cells]

/-- **A record** holds under a path the value that stands at all positions of the path. -/
theorem get?_toRecord_of_forall {model : List String} {path : String} {value : Value}
    (hmem : path ∈ model) (h : ∀ i, model[i]? = some path → row.selected i = value) :
    (row.toRecord model).get? path = some value := by
  rw [← row.keys_cells model] at hmem
  obtain ⟨last, hlast⟩ := Pairs.exists_lastSet hmem
  -- the last cell of the path is the one at one of its positions
  obtain ⟨i, hi, hcell⟩ := List.mem_mapIdx.1 hlast.mem
  obtain ⟨hpath, rfl⟩ := Prod.mk.inj hcell
  rw [toRecord_eq_ofList, ← h i (hpath ▸ List.getElem?_eq_getElem hi)]
  exact OrderedMap.get?_ofList_of_lastSet hlast

/-- Where no path is repeated, this is the value at the position of the path. -/
theorem get?_toRecord {model : List String} {path : String} {i : Nat} (hnodup : model.Nodup)
    (h : model[i]? = some path) : (row.toRecord model).get? path = some (row.selected i) := by
  refine row.get?_toRecord_of_forall (List.mem_of_getElem? h) fun j hj => ?_
  rw [(List.getElem?_inj (List.getElem?_eq_some_iff.1 hj).1 hnodup).1 (hj.trans h.symm)]

end Row

end CardStore
