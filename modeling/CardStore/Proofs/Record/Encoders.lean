/-
  CardStore.Proofs.Record.Encoders
  ────────────────────────────────
  **TWO WAYS TO WRITE A RECORD.**

  A record is written in one pass, its entries first and its children behind
  them, or its JSON form is built and written.  In the JSON form no key is
  repeated: children take the place of an entry under their key.  In one pass
  such an entry is written as well, so that the key stands there twice.

      entries  children = 1        one pass   {"children":1,"children":[{}]}
      children one empty record    JSON form  {"children":[{}]}

  In one pass nothing is ever written shorter, and something longer wherever
  that happens.  Hence the two agree exactly if it happens nowhere in the tree.

  Main statements:
    * `distinct_toJson` — the JSON form repeats no key.
    * `writeJson_eq_chars` — the two ways agree where keys are apart.
    * `length_chars_le` — in one pass more is written where they are not.
    * `jsonText_eq_text_iff` — hence when the two agree.
-/
import CardStore.Proofs.Json.Equality
import CardStore.Proofs.Value.Normal
import CardStore.Record.Wire

namespace CardStore

/-! ## §1. The JSON form repeats no key. -/

namespace Value

mutual

theorem distinct_toJson : (v : Value) → v.toJson.distinct = true
  | .null => rfl
  | .bool _ => rfl
  | .int _ => rfl
  | .float x => by
    by_cases hx : x.isFinite = true
    · rw [toJson_float hx]
      rfl
    · rw [toJson, Json.Number.ofDouble?, dif_neg hx]
      rfl
  | .decimal _ => rfl
  | .string _ => rfl
  | .bytes bs => by
    show Json.itemsDistinct (bs.map fun b => .number (.ofByte b)) = true
    induction bs with
    | nil => rfl
    | cons b bs ih => exact ih
  | .date _ => rfl
  | .dateTime _ => rfl
  | .array items => itemsDistinct_toJson items
  | .json d => d.distinct

theorem itemsDistinct_toJson : (vs : List Value) → Json.itemsDistinct (itemsToJson vs) = true
  | [] => rfl
  | v :: vs => by
    rw [itemsToJson, Json.itemsDistinct, distinct_toJson v, itemsDistinct_toJson vs, Bool.and_self]

end

end Value

namespace Record

theorem keys_entryMembers (es : List (String × Value)) :
    Pairs.keys (entryMembers es) = Pairs.keys es := by
  unfold Pairs.keys entryMembers
  rw [List.map_map]
  rfl

theorem membersDistinct_entryMembers (es : OrderedMap Value) :
    Json.membersDistinct (entryMembers es.toList) = true := by
  rw [Json.membersDistinct_iff, keys_entryMembers]
  refine ⟨es.nodup, fun e he => ?_⟩
  obtain ⟨entry, -, rfl⟩ := List.mem_map.1 he
  exact Value.distinct_toJson entry.2

mutual

/-- **The JSON form** repeats no key. -/
theorem distinct_toJson : (r : Record) → r.toJson.distinct = true
  | ⟨es, none⟩ => membersDistinct_entryMembers es
  | ⟨es, some rs⟩ => Json.membersDistinct_set childrenKey (.array (listToJson rs)) _
      (itemsDistinct_listToJson rs) (membersDistinct_entryMembers es)

theorem itemsDistinct_listToJson : (rs : List Record) →
    Json.itemsDistinct (listToJson rs) = true
  | [] => rfl
  | r :: rs => by
    rw [listToJson, Json.itemsDistinct, distinct_toJson r, itemsDistinct_listToJson rs,
      Bool.and_self]

end

/-! ## §2. The text of members. -/

/-- The characters of members that stand behind others or at the front. -/
def memberChars (first : Bool) : List (String × Json) → List Char
  | [] => []
  | (k, v) :: es => separated first (Json.stringChars k ++ ':' :: v.chars) ++ memberChars false es

theorem memberChars_append (first : Bool) (es fs : List (String × Json)) :
    memberChars first (es ++ fs)
      = memberChars first es ++ memberChars (first && es.isEmpty) fs := by
  induction es generalizing first with
  | nil => simp [memberChars]
  | cons e es ih =>
    obtain ⟨k, v⟩ := e
    simp [memberChars, ih]

theorem separated_append (first : Bool) (cs ds : List Char) :
    separated first cs ++ ds = separated first (cs ++ ds) := by
  cases first <;> rfl

theorem length_separated (first : Bool) (cs : List Char) :
    (separated first cs).length = cs.length + if first then 0 else 1 := by
  cases first <;> rfl

theorem moreMembers_eq (es : List (String × Json)) :
    Json.moreMembers es = memberChars false es ++ ['}'] := by
  induction es with
  | nil => rfl
  | cons e es ih =>
    obtain ⟨k, v⟩ := e
    simp [Json.moreMembers, memberChars, separated, ih]

theorem chars_object (es : List (String × Json)) :
    (Json.object es).chars = '{' :: (memberChars true es ++ ['}']) := by
  cases es with
  | nil => rfl
  | cons e es =>
    obtain ⟨k, v⟩ := e
    simp [Json.chars, memberChars, separated, moreMembers_eq]

theorem writeEntries_eq (first : Bool) (es : List (String × Value)) (rest : Bool → List Char) :
    writeEntries first es rest
      = memberChars first (entryMembers es) ++ rest (first && es.isEmpty) := by
  induction es generalizing first with
  | nil => simp [writeEntries, entryMembers, memberChars]
  | cons e es ih =>
    obtain ⟨path, value⟩ := e
    show separated first
        (Json.stringChars path ++ ':' :: (value.writeJson ++ writeEntries false es rest)) = _
    rw [ih, Value.writeJson_eq_chars]
    simp [entryMembers, memberChars, separated_append]

/-- At least one character is written too much where something is amiss. -/
def surplus (fine : Bool) : Nat := if fine then 0 else 1

theorem surplus_and_le (a b : Bool) : surplus (a && b) ≤ surplus a + surplus b := by
  cases a <;> cases b <;> decide

/-- Members whose key is set are written no longer than with a member for the key behind them,
and shorter if the key was there. -/
theorem length_memberChars_set (first : Bool) (k : String) (v : Json) (es : List (String × Json)) :
    (memberChars first (Pairs.set k v es)).length + surplus (!(Pairs.keys es).contains k)
      ≤ (memberChars first (es ++ [(k, v)])).length := by
  induction es generalizing first with
  | nil => exact le_rfl
  | cons e es ih =>
    obtain ⟨l, w⟩ := e
    have hkeys : Pairs.keys ((l, w) :: es) = l :: Pairs.keys es := rfl
    rw [Pairs.set, hkeys, List.contains_cons, List.cons_append]
    by_cases hl : l = k
    -- what stood there is written too much, and at least the colon of the member behind
    · subst hl
      simp only [if_true, memberChars, memberChars_append, List.length_append, length_separated,
        List.length_cons, BEq.rfl, Bool.true_or, Bool.not_true, surplus]
      simp only [Bool.false_eq_true, if_false]
      omega
    · have hne : (k == l) = false := beq_false_of_ne (Ne.symm hl)
      have hrest := ih false
      simp only [if_neg hl, memberChars, List.length_append, hne, Bool.false_or] at hrest ⊢
      omega

/-! ## §3. Where the two ways agree. -/

mutual

/-- Whether no record of the tree has both children and an entry under their key. -/
def apart : Record → Bool
  | ⟨_, none⟩ => true
  | ⟨es, some rs⟩ => !es.contains childrenKey && allApart rs

def allApart : List Record → Bool
  | [] => true
  | r :: rs => apart r && allApart rs

end

theorem contains_childrenKey (es : OrderedMap Value) :
    es.contains childrenKey = (Pairs.keys (entryMembers es.toList)).contains childrenKey := by
  rw [keys_entryMembers]
  rfl

theorem writeJson_none (es : OrderedMap Value) :
    writeJson ⟨es, none⟩ = (toJson ⟨es, none⟩).chars := by
  show '{' :: writeEntries true es.toList (fun _ => ['}'])
    = (Json.object (entryMembers es.toList)).chars
  rw [writeEntries_eq, chars_object]

/-- A record with children is written as an object with one more member. -/
theorem writeJson_some (es : OrderedMap Value) (rs : List Record) :
    writeJson ⟨es, some rs⟩ = '{' :: (memberChars true (entryMembers es.toList)
      ++ (separated es.toList.isEmpty
        (Json.stringChars childrenKey ++ ':' :: '[' :: writeList true rs) ++ ['}'])) := by
  show '{' :: writeEntries true es.toList (fun first => separated first
    (Json.stringChars childrenKey ++ ':' :: '[' :: writeList true rs) ++ ['}']) = _
  rw [writeEntries_eq, Bool.true_and]

/-- The members of a JSON form with a member for the children behind them. -/
theorem memberChars_children (es : OrderedMap Value) (j : Json) :
    memberChars true (entryMembers es.toList ++ [(childrenKey, j)])
      = memberChars true (entryMembers es.toList)
        ++ separated es.toList.isEmpty (Json.stringChars childrenKey ++ ':' :: j.chars) := by
  rw [memberChars_append, Bool.true_and]
  simp [memberChars, entryMembers]

theorem writeList_true (r : Record) (rs : List Record) :
    writeList true (r :: rs) = writeJson r ++ writeList false rs := rfl

mutual

/-- **The two ways agree** where keys are apart. -/
theorem writeJson_eq_chars : (r : Record) → r.apart = true → r.writeJson = r.toJson.chars
  | ⟨es, none⟩, _ => writeJson_none es
  | ⟨es, some rs⟩, h => by
    rw [apart, Bool.and_eq_true, Bool.not_eq_true', contains_childrenKey, List.contains_eq_mem,
      decide_eq_false_iff_not] at h
    have hlist : '[' :: writeList true rs = (Json.array (listToJson rs)).chars := by
      cases rs with
      | nil => rfl
      | cons r rs =>
        rw [allApart, Bool.and_eq_true] at h
        rw [writeList_true, writeJson_eq_chars r h.2.1, writeList_eq_moreItems rs h.2.2]
        rfl
    rw [writeJson_some, toJson, chars_object, Pairs.set_of_not_mem _ _ _ h.1, memberChars_children,
      hlist, List.append_assoc]

theorem writeList_eq_moreItems : (rs : List Record) → allApart rs = true →
    writeList false rs = Json.moreItems (listToJson rs)
  | [], _ => rfl
  | r :: rs, h => by
    rw [allApart, Bool.and_eq_true] at h
    show ',' :: (writeJson r ++ writeList false rs) = _
    rw [writeJson_eq_chars r h.1, writeList_eq_moreItems rs h.2]
    rfl

end

/-! ## §4. Where they do not. -/

mutual

/-- In one pass nothing is written shorter, and something longer where keys are not apart. -/
theorem length_chars_le : (r : Record) →
    r.toJson.chars.length + surplus r.apart ≤ r.writeJson.length
  | ⟨es, none⟩ => by
    rw [writeJson_none]
    exact le_rfl
  | ⟨es, some rs⟩ => by
    have hlist : (Json.array (listToJson rs)).chars.length + surplus (allApart rs)
        ≤ ('[' :: writeList true rs).length := by
      cases rs with
      | nil => exact le_rfl
      | cons r rs =>
        have hr := length_chars_le r
        have hrs := length_moreItems_le rs
        have hand := surplus_and_le r.apart (allApart rs)
        rw [writeList_true, allApart]
        simp only [listToJson, Json.chars, List.length_cons, List.length_append]
        omega
    -- the member of the children is written behind the entries, or in the place of one of them
    have hset := length_memberChars_set true childrenKey (.array (listToJson rs))
      (entryMembers es.toList)
    have hand := surplus_and_le (!es.contains childrenKey) (allApart rs)
    rw [memberChars_children, ← contains_childrenKey] at hset
    rw [writeJson_some, toJson, chars_object, apart]
    simp only [List.length_append, List.length_cons, length_separated] at hset hlist ⊢
    omega

theorem length_moreItems_le : (rs : List Record) →
    (Json.moreItems (listToJson rs)).length + surplus (allApart rs)
      ≤ (writeList false rs).length
  | [] => le_rfl
  | r :: rs => by
    have hr := length_chars_le r
    have hrs := length_moreItems_le rs
    have hand := surplus_and_le r.apart (allApart rs)
    show _ ≤ (',' :: (writeJson r ++ writeList false rs)).length
    rw [allApart]
    simp only [listToJson, Json.moreItems, List.length_cons, List.length_append]
    omega

end

/-- **The two ways of writing a record agree** exactly if no record of the tree has both children
and an entry under their key; the JSON form repeats no key in any case. -/
theorem jsonText_eq_text_iff (r : Record) :
    r.toJson.distinct = true ∧ (r.jsonText = r.toJson.text ↔ r.apart = true) := by
  refine ⟨distinct_toJson r, fun h => ?_, fun h => ?_⟩
  · have hchars : r.writeJson = r.toJson.chars := String.ofList_injective h
    have hle := length_chars_le r
    rw [hchars] at hle
    cases hapart : r.apart with
    | true => rfl
    | false =>
      rw [hapart, surplus, if_neg Bool.false_ne_true] at hle
      omega
  · unfold jsonText Json.text
    rw [writeJson_eq_chars r h]

/-- A record with an entry under the key of its children. -/
def clash : Record := (Record.empty.set childrenKey (.int 1)).pushChild .empty

/-- In one pass the key of the children is written twice, in the JSON form once. -/
theorem not_written_alike_clash :
    clash.jsonText = "\x7b\"children\":1,\"children\":[\x7b\x7d]\x7d"
      ∧ clash.toJson.text = "\x7b\"children\":[\x7b\x7d]\x7d"
      ∧ clash.jsonText ≠ clash.toJson.text := by
  have hpass : clash.jsonText = "\x7b\"children\":1,\"children\":[\x7b\x7d]\x7d" := by
    decide +kernel
  have hform : clash.toJson.text = "\x7b\"children\":[\x7b\x7d]\x7d" := by decide +kernel
  refine ⟨hpass, hform, ?_⟩
  rw [hpass, hform]
  decide

end Record

end CardStore
