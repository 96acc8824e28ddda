/-
  CardStore.OrderedMap
  ────────────────────
  **MAPS THAT KEEP THE ORDER OF THEIR KEYS.**

  A map from text keys that remembers in which order its keys came in.
  Setting a key that is there replaces its value in place; a new key goes to
  the end.  The type holds the invariant that the keys are pairwise distinct.

      set     replaces in place or appends
      get?    the value of a key
      erase   drops a key, the others keep their order

  Main statements:
    * `keys_set` — the keys after setting one.
    * `get?_set` — setting a key changes what that key yields, and nothing else.
    * `get?_erase` — an erased key yields nothing, every other key what it did.
    * `ofList_toList` — a map is rebuilt from its pairs.
-/

namespace CardStore

/-! ## §1. Lists of pairs. -/

namespace Pairs

variable {α : Type}

/-- The keys in order. -/
def keys (es : List (String × α)) : List String := es.map Prod.fst

/-- The value of the first pair with the key. -/
def get? (key : String) : List (String × α) → Option α
  | [] => none
  | (k, v) :: es => if k = key then some v else get? key es

/-- Replace the value of the first pair with the key, or append a pair. -/
def set (key : String) (value : α) : List (String × α) → List (String × α)
  | [] => [(key, value)]
  | (k, v) :: es => if k = key then (k, value) :: es else (k, v) :: set key value es

/-- Drop the first pair with the key. -/
def erase (key : String) : List (String × α) → List (String × α)
  | [] => []
  | (k, v) :: es => if k = key then es else (k, v) :: erase key es

/-- Drop the first pair with the key; the last pair takes its place. -/
def swapErase (key : String) : List (String × α) → List (String × α)
  | [] => []
  | (k, v) :: es =>
    if k = key then match es.getLast? with
      | none => []
      | some e => e :: es.dropLast
    else (k, v) :: swapErase key es

theorem keys_set (key : String) (value : α) (es : List (String × α)) :
    keys (set key value es) = if key ∈ keys es then keys es else keys es ++ [key] := by
  induction es with
  | nil => rfl
  | cons e es ih =>
    obtain ⟨k, v⟩ := e
    rw [set]
    split
    · rename_i h
      subst h
      simp [keys]
    · rename_i h
      simp only [keys, List.map_cons, List.mem_cons, Ne.symm h, false_or] at ih ⊢
      rw [ih]
      split <;> simp_all

theorem set_of_not_mem (key : String) (value : α) (es : List (String × α))
    (h : key ∉ keys es) : set key value es = es ++ [(key, value)] := by
  induction es with
  | nil => rfl
  | cons e es ih =>
    obtain ⟨k, v⟩ := e
    simp only [keys, List.map_cons, List.mem_cons, not_or] at h ih
    rw [set, if_neg (Ne.symm h.1), ih h.2]
    rfl

theorem get?_set (key other : String) (value : α) (es : List (String × α)) :
    get? other (set key value es) = if other = key then some value else get? other es := by
  induction es with
  | nil => simp only [set, get?, eq_comm]
  | cons e es ih =>
    obtain ⟨k, v⟩ := e
    rw [set]
    -- the pair at the front is the one that is set, or the one that is asked for, or neither
    by_cases hk : k = key
    · subst hk
      by_cases ho : other = k
      · subst ho
        simp [get?]
      · simp [get?, ho, Ne.symm ho]
    · simp only [hk, if_false, get?, ih]
      by_cases ho : other = key
      · subst ho
        simp [hk]
      · simp [ho]

theorem get?_eq_none_iff (key : String) (es : List (String × α)) :
    get? key es = none ↔ key ∉ keys es := by
  induction es with
  | nil => simp [get?, keys]
  | cons e es ih =>
    obtain ⟨k, v⟩ := e
    by_cases hk : k = key
    · subst hk
      simp [get?, keys]
    · simp only [keys] at ih
      simp [get?, keys, hk, Ne.symm hk, ih]

/-- What a key yields stands in the list. -/
theorem mem_of_get? {key : String} {value : α} {es : List (String × α)}
    (h : get? key es = some value) : (key, value) ∈ es := by
  induction es with
  | nil => cases h
  | cons e es ih =>
    obtain ⟨k, v⟩ := e
    rw [get?] at h
    split at h
    · rename_i hk
      rw [hk, Option.some.inj h]
      exact List.mem_cons_self
    · exact List.mem_cons_of_mem _ (ih h)

/-- Where keys are distinct, a key yields the value that stands with it. -/
theorem get?_of_mem {key : String} {value : α} {es : List (String × α)} (hkeys : (keys es).Nodup)
    (h : (key, value) ∈ es) : get? key es = some value := by
  induction es with
  | nil => cases h
  | cons e es ih =>
    obtain ⟨k, v⟩ := e
    simp only [keys, List.map_cons, List.nodup_cons] at hkeys
    rw [get?]
    rcases List.mem_cons.1 h with heq | hmem
    · rw [Prod.mk.injEq] at heq
      rw [if_pos heq.1.symm, heq.2]
    · have hne : k ≠ key := fun hk => hkeys.1 (hk ▸ List.mem_map_of_mem hmem)
      rw [if_neg hne]
      exact ih hkeys.2 hmem

theorem mem_or_eq_of_mem_set {key : String} {value : α} {es : List (String × α)} {e : String × α}
    (h : e ∈ set key value es) : e ∈ es ∨ e = (key, value) := by
  induction es with
  | nil => exact Or.inr (List.mem_singleton.1 h)
  | cons e' es ih =>
    obtain ⟨k, v⟩ := e'
    rw [set] at h
    split at h
    · rename_i hk
      rcases List.mem_cons.1 h with rfl | hmem
      · exact Or.inr (hk ▸ rfl)
      · exact Or.inl (List.mem_cons_of_mem _ hmem)
    · rcases List.mem_cons.1 h with rfl | hmem
      · exact Or.inl List.mem_cons_self
      · exact (ih hmem).imp_left (List.mem_cons_of_mem _)

theorem nodup_keys_set (key : String) (value : α) (es : List (String × α))
    (h : (keys es).Nodup) : (keys (set key value es)).Nodup := by
  rw [keys_set]
  split
  · exact h
  · rename_i hk
    exact List.nodup_append.2 ⟨h, by simp, by
      intro a ha b hb
      rw [List.mem_singleton] at hb
      subst hb
      exact fun hab => hk (hab ▸ ha)⟩

theorem keys_erase_sublist (key : String) (es : List (String × α)) :
    (keys (erase key es)).Sublist (keys es) := by
  induction es with
  | nil => exact List.Sublist.refl _
  | cons e es ih =>
    obtain ⟨k, v⟩ := e
    rw [erase]
    split
    · exact List.sublist_cons_self _ _
    · exact ih.cons_cons k

theorem get?_erase (key other : String) (es : List (String × α)) (h : (keys es).Nodup) :
    get? other (erase key es) = if other = key then none else get? other es := by
  induction es with
  | nil => simp [erase, get?]
  | cons e es ih =>
    obtain ⟨k, v⟩ := e
    simp only [keys, List.map_cons, List.nodup_cons] at h
    rw [erase]
    by_cases hk : k = key
    · subst hk
      by_cases ho : other = k
      -- keys are distinct, so that no other pair with the key is left behind the first one
      · subst ho
        simp only [if_true]
        exact (get?_eq_none_iff other es).2 h.1
      · simp [get?, ho, Ne.symm ho]
    · by_cases ho : other = key
      · subst ho
        simp [get?, hk, ih h.2]
      · simp [get?, hk, ho, ih h.2]

end Pairs

/-! ## §2. The type. -/

/-- A map from text keys that keeps the order of its keys. -/
structure OrderedMap (α : Type) where
  toList : List (String × α)
  nodup : (Pairs.keys toList).Nodup

namespace OrderedMap

variable {α : Type}

def empty : OrderedMap α := ⟨[], List.nodup_nil⟩

instance : Inhabited (OrderedMap α) := ⟨empty⟩

def keys (m : OrderedMap α) : List String := Pairs.keys m.toList

def size (m : OrderedMap α) : Nat := m.toList.length

def isEmpty (m : OrderedMap α) : Bool := m.toList.isEmpty

/-- The value of a key. -/
def get? (m : OrderedMap α) (key : String) : Option α := Pairs.get? key m.toList

def contains (m : OrderedMap α) (key : String) : Bool := m.keys.contains key

/-- Set a key, in place if it is there. -/
def set (m : OrderedMap α) (key : String) (value : α) : OrderedMap α :=
  ⟨Pairs.set key value m.toList, Pairs.nodup_keys_set key value _ m.nodup⟩

/-- Drop a key. -/
def erase (m : OrderedMap α) (key : String) : OrderedMap α :=
  ⟨Pairs.erase key m.toList, (Pairs.keys_erase_sublist key _).nodup m.nodup⟩

/-- Set the pairs of a list one after another. -/
def setAll (m : OrderedMap α) (es : List (String × α)) : OrderedMap α :=
  es.foldl (fun m e => m.set e.1 e.2) m

/-- The map that arises by setting the pairs of a list one after another. -/
def ofList (es : List (String × α)) : OrderedMap α := empty.setAll es

theorem eq_of_toList {m m' : OrderedMap α} (h : m.toList = m'.toList) : m = m' := by
  cases m
  cases m'
  cases h
  rfl

/-- Pairs with keys of their own are set at the end. -/
theorem toList_setAll (m : OrderedMap α) (es : List (String × α))
    (h : (Pairs.keys (m.toList ++ es)).Nodup) : (m.setAll es).toList = m.toList ++ es := by
  induction es generalizing m with
  | nil => exact (List.append_nil _).symm
  | cons e es ih =>
    have hnew : e.1 ∉ Pairs.keys m.toList := by
      rw [Pairs.keys, List.map_append, List.nodup_append] at h
      exact fun hmem => h.2.2 e.1 hmem e.1 (by simp) rfl
    have hset : (m.set e.1 e.2).toList = m.toList ++ [e] := Pairs.set_of_not_mem e.1 e.2 _ hnew
    show ((m.set e.1 e.2).setAll es).toList = _
    rw [ih _ (by rw [hset, List.append_assoc]; exact h), hset, List.append_assoc]
    rfl

/-- A map is rebuilt from its pairs. -/
theorem ofList_toList (m : OrderedMap α) : ofList m.toList = m :=
  eq_of_toList (toList_setAll empty m.toList m.nodup)

theorem keys_set (m : OrderedMap α) (key : String) (value : α) :
    (m.set key value).keys = if key ∈ m.keys then m.keys else m.keys ++ [key] :=
  Pairs.keys_set key value m.toList

theorem get?_set (m : OrderedMap α) (key other : String) (value : α) :
    (m.set key value).get? other = if other = key then some value else m.get? other :=
  Pairs.get?_set key other value m.toList

theorem get?_erase (m : OrderedMap α) (key other : String) :
    (m.erase key).get? other = if other = key then none else m.get? other :=
  Pairs.get?_erase key other m.toList m.nodup

theorem get?_of_mem (m : OrderedMap α) {key : String} {value : α} (h : (key, value) ∈ m.toList) :
    m.get? key = some value :=
  Pairs.get?_of_mem m.nodup h

theorem get?_empty (key : String) : (empty : OrderedMap α).get? key = none := rfl

theorem get?_eq_none_iff (m : OrderedMap α) (key : String) :
    m.get? key = none ↔ key ∉ m.keys :=
  Pairs.get?_eq_none_iff key m.toList

end OrderedMap

end CardStore
