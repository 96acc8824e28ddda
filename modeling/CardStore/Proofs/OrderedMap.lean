/-
  CardStore.Proofs.OrderedMap
  ───────────────────────────
  **MAPS THAT ARISE BY SETTING KEY AFTER KEY.**

  A list of pairs is a history: its keys are set in their order, each to the
  value that stands with it.  A key keeps the place at which it was first set
  and has the value to which it was last set.

      set      b = 1    a = 2    b = 3
      map      b = 3    a = 2

  Main statements:
    * `keys_ofList` — the keys are those that were set, in the order of first occurrences.
    * `size_ofList` — there are as many pairs as keys that were set.
    * `get?_ofList_eq_some_iff` — a key has the value to which it was last set.
    * `get?_ofList_of_not_mem` — every other key has none.
-/
import CardStore.OrderedMap
import CardStore.Proofs.Lists
import Mathlib.Data.Finset.Card

namespace CardStore

variable {α : Type}

/-! ## §1. The last pair with a key. -/

namespace Pairs

/-- **A key was last set to a value**: it is not set again behind that pair. -/
def LastSet (es : List (String × α)) (key : String) (value : α) : Prop :=
  ∃ before after, es = before ++ (key, value) :: after ∧ key ∉ keys after

/-- What was set at all was set for a last time. -/
theorem exists_lastSet {key : String} {es : List (String × α)} (h : key ∈ keys es) :
    ∃ value, LastSet es key value := by
  induction es with
  | nil => cases h
  | cons e es ih =>
    by_cases hlater : key ∈ keys es
    · obtain ⟨value, before, after, rfl, hafter⟩ := ih hlater
      exact ⟨value, e :: before, after, rfl, hafter⟩
    · rcases List.mem_cons.1 h with rfl | hmem
      · exact ⟨e.2, [], es, rfl, hlater⟩
      · exact absurd hmem hlater

theorem LastSet.mem {key : String} {value : α} {es : List (String × α)}
    (h : LastSet es key value) : (key, value) ∈ es := by
  obtain ⟨before, after, rfl, -⟩ := h
  simp

end Pairs

/-! ## §2. One key after another. -/

namespace OrderedMap

open Pairs (LastSet)

variable {key : String} {value : α} {es : List (String × α)}

theorem setAll_append (m : OrderedMap α) (es fs : List (String × α)) :
    m.setAll (es ++ fs) = (m.setAll es).setAll fs :=
  List.foldl_append

/-- One key is set behind the others. -/
theorem ofList_concat (es : List (String × α)) (key : String) (value : α) :
    ofList (es ++ [(key, value)]) = (ofList es).set key value :=
  setAll_append empty es [(key, value)]

/-- **The keys are those that were set**, in the order of first occurrences. -/
theorem keys_ofList (es : List (String × α)) : (ofList es).keys = (Pairs.keys es).eraseDups := by
  induction es using List.reverseRecOn with
  | nil => rfl
  | append_singleton es e ih =>
    have hkeys : Pairs.keys (es ++ [e]) = Pairs.keys es ++ [e.1] := List.map_append
    rw [ofList_concat, keys_set, ih, hkeys, eraseDups_concat]
    simp only [List.mem_eraseDups]

/-- **There are as many pairs** as keys that were set, those set again being counted once. -/
theorem size_ofList (es : List (String × α)) : (ofList es).size = (Pairs.keys es).toFinset.card := by
  have hsize : (ofList es).size = (Pairs.keys es).eraseDups.length := by
    rw [← keys_ofList]
    exact (List.length_map _).symm
  have hsame : (Pairs.keys es).eraseDups.toFinset = (Pairs.keys es).toFinset := by
    ext key
    rw [List.mem_toFinset, List.mem_toFinset, List.mem_eraseDups]
  rw [hsize, ← hsame, List.toFinset_card_of_nodup (nodup_eraseDups _)]

/-- A key that is not set keeps what it had. -/
theorem get?_setAll_of_not_mem : ∀ {es : List (String × α)} (m : OrderedMap α),
    key ∉ Pairs.keys es → (m.setAll es).get? key = m.get? key := by
  intro es
  induction es with
  | nil =>
    intro m _
    rfl
  | cons e es ih =>
    intro m h
    rw [Pairs.keys, List.map_cons, List.mem_cons, not_or] at h
    show ((m.set e.1 e.2).setAll es).get? key = _
    rw [ih _ h.2, get?_set, if_neg h.1]

/-- **A key that was not set** has no value. -/
theorem get?_ofList_of_not_mem (h : key ∉ Pairs.keys es) : (ofList es).get? key = none :=
  get?_setAll_of_not_mem empty h

theorem get?_ofList_of_lastSet (h : LastSet es key value) : (ofList es).get? key = some value := by
  obtain ⟨before, after, rfl, hafter⟩ := h
  rw [ofList, setAll_append]
  show (((empty.setAll before).set key value).setAll after).get? key = _
  rw [get?_setAll_of_not_mem _ hafter, get?_set, if_pos rfl]

/-- **A key has the value to which it was last set.** -/
theorem get?_ofList_eq_some_iff : (ofList es).get? key = some value ↔ LastSet es key value := by
  constructor
  · intro h
    have hmem : key ∈ Pairs.keys es := by
      by_contra hnew
      rw [get?_ofList_of_not_mem hnew] at h
      cases h
    obtain ⟨last, hlast⟩ := Pairs.exists_lastSet hmem
    rw [get?_ofList_of_lastSet hlast] at h
    exact Option.some.inj h ▸ hlast
  · exact get?_ofList_of_lastSet

end OrderedMap

end CardStore
