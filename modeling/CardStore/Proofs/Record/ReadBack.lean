/-
  CardStore.Proofs.Record.ReadBack
  ────────────────────────────────
  **RECORDS, READ BACK FROM THEIR TEXT.**

  A record that was read carries values that were taken from JSON, none of
  them under the key of children, and its containers nest no deeper than the
  text allowed.  Each member that is read keeps this, and so does the record
  as a whole, down to the children of its children.

      read      {"a":1,"children":null,"a":[],"children":[{},{"b":2}]}
      written   {"a":[],"children":[{},{"b":2}]}

  What is written has every key once, entries in their order and children
  last.  Read again it sets the same entries and then the same children, so
  that absent, empty and null children are told apart as before.

  Main statements:
    * `readable_of_read` — what a record that was read is like.
    * `read_toJson` — the JSON form of such a record is read as the record.
    * `ofText_jsonText` — records are read back from their text.
-/
import CardStore.Proofs.Json.ReadBack
import CardStore.Proofs.Record.Encoders
import CardStore.Proofs.Value.Equality

namespace CardStore

/-! ## §1. Values that were taken from JSON. -/

namespace Value

open Json (Origin)

mutual

theorem hasNaN_ofJson : (j : Json) → (ofJson j).hasNaN = false
  | .null => rfl
  | .bool _ => rfl
  | .number (.int n hn) => by
    by_cases h : n < 2 ^ 63
    · rw [ofJson, ofNumber_of_lt h]
      rfl
    · obtain ⟨hfinite, -⟩ := exists_toJson_ofNumber_of_le hn (not_lt.1 h)
      rw [ofJson, ofNumber_of_le (not_lt.1 h)]
      exact Double.isNaN_of_isFinite hfinite
  | .number (.float _ hx) => Double.isNaN_of_isFinite hx
  | .string _ => rfl
  | .array items => itemsHaveNaN_ofJson items
  | .object _ => rfl

theorem itemsHaveNaN_ofJson : (js : List Json) → itemsHaveNaN (itemsOfJson js) = false
  | [] => rfl
  | j :: js => by
    rw [itemsOfJson, itemsHaveNaN, hasNaN_ofJson j, itemsHaveNaN_ofJson js]
    rfl

end

/-- The JSON form of a value that was taken from JSON is read as the value. -/
theorem read_toJson {o : Origin} {j : Json} (h : o.Admits j.depth) :
    read o (.ofJson (toJson (ofJson j))) = .ok (ofJson j) :=
  read_eq_ok_iff.2 ⟨_, rfl, h.mono (depth_toJson_ofJson_le j), (ofJson_toJson_ofJson j).symm⟩

end Value

namespace Record

open Json (Origin Node)

/-! ## §2. Records that can be read. -/

/-- An entry that can be read at a place. -/
def EntryReadable (o : Origin) (e : String × Value) : Prop :=
  e.1 ≠ childrenKey ∧ ∃ j : Json, o.Admits j.depth ∧ e.2 = .ofJson j

mutual

/-- A record that can be read at a place. -/
def Readable (o : Origin) : Record → Prop
  | ⟨es, children⟩ => ∃ i, o.enter = .ok i ∧ (∀ e ∈ es.toList, EntryReadable i e)
      ∧ ChildrenReadable i children

def ChildrenReadable (o : Origin) : Option (List Record) → Prop
  | none => True
  | some rs => ∃ i, o.enter = .ok i ∧ AllReadable i rs

def AllReadable (o : Origin) : List Record → Prop
  | [] => True
  | r :: rs => Readable o r ∧ AllReadable o rs

end

/-- A record whose members can be read at a place. -/
structure MembersReadable (o : Origin) (r : Record) : Prop where
  entries : ∀ e ∈ r.entries.toList, EntryReadable o e
  children : ChildrenReadable o r.children

theorem readable_iff {o : Origin} {r : Record} :
    Readable o r ↔ ∃ i, o.enter = .ok i ∧ MembersReadable i r := by
  obtain ⟨es, children⟩ := r
  constructor
  · rintro ⟨i, hi, hes, hchildren⟩
    exact ⟨i, hi, hes, hchildren⟩
  · rintro ⟨i, hi, hes, hchildren⟩
    exact ⟨i, hi, hes, hchildren⟩

/-! ## §3. What is read. -/

variable {o : Origin} {r : Record}

theorem membersReadable_empty (o : Origin) : MembersReadable o .empty where
  entries _ h := by cases h
  children := trivial

/-- A path that is set can be read if its value can. -/
theorem MembersReadable.set (h : MembersReadable o r) {k : String} (hk : k ≠ childrenKey)
    {j : Json} (hj : o.Admits j.depth) : MembersReadable o (r.set k (.ofJson j)) := by
  refine ⟨fun e he => ?_, h.children⟩
  rcases Pairs.mem_or_eq_of_mem_set he with hmem | rfl
  · exact h.entries e hmem
  · exact ⟨hk, j, hj, rfl⟩

mutual

/-- **A record that was read** carries values from JSON, none under the key of children. -/
theorem readable_of_read (o : Origin) : (n : Node) → {r : Record} → read o n = .ok r →
    Readable o r
  | .object members stop, r, h => by
    rw [read] at h
    obtain ⟨i, r', hi, hr', -, rfl⟩ := Json.container_eq_ok_iff.1 h
    exact readable_iff.2 ⟨i, hi,
      membersReadable_of_readMembers i members (membersReadable_empty i) hr'⟩
  | .null, _, h => by cases h
  | .bool _, _, h => by cases h
  | .number none, _, h => by cases h
  | .number (some (.int _ _)), _, h => by cases h
  | .number (some (.float _ _)), _, h => by cases h
  | .string (.ok _), _, h => by cases h
  | .string (.error _), _, h => by cases h
  | .array _ _, _, h => by cases h
  | .stop _, _, h => by cases h

theorem membersReadable_of_readMembers (o : Origin) :
    (ms : List (Except Json.Fault String × Node)) → {r s : Record} → MembersReadable o r →
    readMembers o r ms = .ok s → MembersReadable o s
  | [], _, _, hr, h => by
    cases h
    exact hr
  | (key, n) :: ms, r, s, hr, h => by
    rw [readMembers] at h
    obtain ⟨k, -, h⟩ := bind_eq_ok_iff.1 h
    split at h
    -- children replace those of an earlier member, an entry that of the same path
    · obtain ⟨children, hchildren, h⟩ := bind_eq_ok_iff.1 h
      have hreadable := childrenReadable_of_readChildren o n hchildren
      exact membersReadable_of_readMembers o ms (r := r.withChildren children)
        ⟨hr.entries, hreadable⟩ h
    · rename_i hk
      obtain ⟨v, hv, h⟩ := bind_eq_ok_iff.1 h
      obtain ⟨j, -, hj, rfl⟩ := Value.read_eq_ok_iff.1 hv
      exact membersReadable_of_readMembers o ms (hr.set hk hj) h

theorem childrenReadable_of_readChildren (o : Origin) : (n : Node) →
    {children : Option (List Record)} → readChildren o n = .ok children →
    ChildrenReadable o children
  | .null, _, h => by
    cases h
    trivial
  | .array items stop, _, h => by
    rw [readChildren] at h
    obtain ⟨i, rs, hi, hrs, -, rfl⟩ := Json.container_eq_ok_iff.1 h
    exact ⟨i, hi, allReadable_of_readItems i items hrs⟩
  | .bool _, _, h => by cases h
  | .number none, _, h => by cases h
  | .number (some (.int _ _)), _, h => by cases h
  | .number (some (.float _ _)), _, h => by cases h
  | .string (.ok _), _, h => by cases h
  | .string (.error _), _, h => by cases h
  | .object _ _, _, h => by cases h
  | .stop _, _, h => by cases h

theorem allReadable_of_readItems (o : Origin) : (ns : List Node) → {rs : List Record} →
    readItems o ns = .ok rs → AllReadable o rs
  | [], _, h => by
    cases h
    trivial
  | n :: ns, _, h => by
    rw [readItems] at h
    obtain ⟨r, hr, h⟩ := bind_eq_ok_iff.1 h
    obtain ⟨rs, hrs, h⟩ := bind_eq_ok_iff.1 h
    cases h
    exact ⟨readable_of_read o n hr, allReadable_of_readItems o ns hrs⟩

end

/-! ## §4. Reading what was read. -/

/-- The member of the children, if there are any. -/
def childMembers : Option (List Record) → List (String × Json)
  | none => []
  | some rs => [(childrenKey, .array (listToJson rs))]

theorem ofMembers_append (es fs : List (String × Json)) :
    Node.ofMembers (es ++ fs) = Node.ofMembers es ++ Node.ofMembers fs := by
  induction es with
  | nil => rfl
  | cons e es ih =>
    obtain ⟨k, j⟩ := e
    rw [List.cons_append, Node.ofMembers, Node.ofMembers, ih, List.cons_append]

theorem not_mem_keys {es : List (String × Value)} (h : ∀ e ∈ es, EntryReadable o e) :
    childrenKey ∉ Pairs.keys es := by
  intro hmem
  obtain ⟨e, he, hkey⟩ := List.mem_map.1 hmem
  exact (h e he).1 hkey

/-- The children of a record that can be read are written behind its entries. -/
theorem MembersReadable.toJson_eq (h : MembersReadable o r) :
    r.toJson = .object (entryMembers r.entries.toList ++ childMembers r.children) := by
  obtain ⟨es, children⟩ := r
  cases children with
  | none => rw [toJson, childMembers, List.append_nil]
  | some rs =>
    have hnew : childrenKey ∉ Pairs.keys (entryMembers es.toList) := by
      rw [keys_entryMembers]
      exact not_mem_keys h.entries
    rw [toJson, childMembers, Pairs.set_of_not_mem _ _ _ hnew]

/-- Entries are set again, one after another. -/
theorem readMembers_entryMembers (es : List (String × Value)) (h : ∀ e ∈ es, EntryReadable o e)
    (r : Record) (ms : List (Except Json.Fault String × Node)) :
    readMembers o r (Node.ofMembers (entryMembers es) ++ ms)
      = readMembers o ⟨r.entries.setAll es, r.children⟩ ms := by
  induction es generalizing r with
  | nil =>
    cases r
    rfl
  | cons e es ih =>
    obtain ⟨path, value⟩ := e
    obtain ⟨hpath, j, hj, hvalue⟩ := h (path, value) List.mem_cons_self
    dsimp only at hpath hvalue
    subst hvalue
    have hread : readMembers o r
        ((.ok path, .ofJson (Value.ofJson j).toJson) :: (Node.ofMembers (entryMembers es) ++ ms))
        = readMembers o (r.set path (.ofJson j)) (Node.ofMembers (entryMembers es) ++ ms) := by
      rw [readMembers, Value.read_toJson hj]
      exact if_neg hpath
    exact hread.trans (ih (fun e he => h e (List.mem_cons_of_mem _ he)) _)

/-- A record is read as its entries and then its children are. -/
theorem read_of_children {i : Origin} (hi : o.enter = .ok i) (h : MembersReadable i r)
    (hchildren : readMembers i ⟨r.entries, none⟩ (Node.ofMembers (childMembers r.children))
      = .ok r) :
    read o (.ofJson r.toJson) = .ok r := by
  rw [h.toJson_eq, Node.ofJson, ofMembers_append, read]
  refine Json.container_eq_ok_iff.2 ⟨i, r, hi, ?_, rfl, rfl⟩
  rw [readMembers_entryMembers _ h.entries]
  -- an ordered map is what setting its own entries one after another gives
  show readMembers i ⟨.ofList r.entries.toList, none⟩ _ = _
  rw [OrderedMap.ofList_toList]
  exact hchildren

mutual

/-- **The JSON form of a record that can be read** is read as the record. -/
theorem read_toJson (o : Origin) : (r : Record) → Readable o r →
    read o (.ofJson r.toJson) = .ok r
  | ⟨es, none⟩, h => by
    obtain ⟨i, hi, hmembers⟩ := readable_iff.1 h
    exact read_of_children hi hmembers rfl
  | ⟨es, some rs⟩, h => by
    obtain ⟨i, hi, hmembers⟩ := readable_iff.1 h
    obtain ⟨k, hk, hrs⟩ := hmembers.children
    have hlist : readChildren i (.ofJson (.array (listToJson rs))) = .ok (some rs) := by
      rw [Node.ofJson, readChildren]
      exact Json.container_eq_ok_iff.2 ⟨k, rs, hk, readItems_listToJson k rs hrs, rfl, rfl⟩
    refine read_of_children hi hmembers ?_
    show readMembers i ⟨es, none⟩ [(.ok childrenKey, .ofJson (.array (listToJson rs)))] = _
    rw [readMembers]
    refine bind_eq_ok_iff.2 ⟨childrenKey, rfl, ?_⟩
    rw [if_pos rfl, hlist]
    rfl

theorem readItems_listToJson (o : Origin) : (rs : List Record) → AllReadable o rs →
    readItems o (Node.ofItems (listToJson rs)) = .ok rs
  | [], _ => rfl
  | r :: rs, h => by
    rw [listToJson, Node.ofItems, readItems]
    exact bind_eq_ok_iff.2 ⟨r, read_toJson o r h.1,
      bind_eq_ok_iff.2 ⟨rs, readItems_listToJson o rs h.2, rfl⟩⟩

end

/-! ## §5. Written and read again. -/

mutual

/-- A record that can be read is written as its JSON form is. -/
theorem apart_of_readable (o : Origin) : (r : Record) → Readable o r → r.apart = true
  | ⟨_, none⟩, _ => rfl
  | ⟨es, some rs⟩, h => by
    obtain ⟨i, -, hmembers⟩ := readable_iff.1 h
    obtain ⟨k, -, hrs⟩ := hmembers.children
    have hnew : es.contains childrenKey = false := by
      unfold OrderedMap.contains OrderedMap.keys
      rw [List.contains_eq_mem, decide_eq_false_iff_not]
      exact not_mem_keys hmembers.entries
    rw [apart, hnew, allApart_of_allReadable k rs hrs]
    rfl

theorem allApart_of_allReadable (o : Origin) : (rs : List Record) → AllReadable o rs →
    allApart rs = true
  | [], _ => rfl
  | r :: rs, h => by
    rw [allApart, apart_of_readable o r h.1, allApart_of_allReadable o rs h.2]
    rfl

end

theorem entriesEq_self {es : List (String × Value)} (h : ∀ e ∈ es, EntryReadable o e) :
    entriesEq es es = true := by
  induction es with
  | nil => rfl
  | cons e es ih =>
    obtain ⟨k, v⟩ := e
    obtain ⟨-, j, -, hv⟩ := h (k, v) List.mem_cons_self
    dsimp only at hv
    rw [entriesEq, hv, Value.strictEq_self, Value.hasNaN_ofJson,
      ih fun e he => h e (List.mem_cons_of_mem _ he), beq_self_eq_true]
    rfl

mutual

/-- A record that can be read is equal to itself: none of its numbers is not a number. -/
theorem strictEq_self (o : Origin) : (r : Record) → Readable o r → r.strictEq r = true
  | ⟨_, none⟩, h => by
    obtain ⟨i, -, hmembers⟩ := readable_iff.1 h
    exact entriesEq_self hmembers.entries
  | ⟨_, some rs⟩, h => by
    obtain ⟨i, -, hmembers⟩ := readable_iff.1 h
    obtain ⟨k, -, hrs⟩ := hmembers.children
    rw [strictEq, entriesEq_self hmembers.entries, listEq_self k rs hrs]
    rfl

theorem listEq_self (o : Origin) : (rs : List Record) → AllReadable o rs → listEq rs rs = true
  | [], _ => rfl
  | r :: rs, h => by
    rw [listEq, strictEq_self o r h.1, listEq_self o rs h.2]
    rfl

end

/-- **Records are read back from their text.**  A record that was read from a text is written as
a text that is read as the very same record, its paths in their order and children present where
they were, and that is written once more. -/
theorem ofText_jsonText {text : String} {r : Record} (h : ofText text = .ok r)
    (hdoubles : ∀ x ∈ r.toJson.doubles, x.ReadsBack) :
    ofText r.jsonText = .ok r ∧ r.strictEq r = true
      ∧ (ofText r.jsonText).map jsonText = .ok r.jsonText := by
  have hreadable := readable_of_read _ _ (Json.readText_eq_ok_iff.1 h).1
  have hback : ofText r.jsonText = .ok r := by
    rw [(jsonText_eq_text_iff r).2.2 (apart_of_readable _ r hreadable)]
    refine Json.readText_eq_ok_iff.2 ?_
    rw [Json.scan_text hdoubles]
    exact ⟨read_toJson _ r hreadable, rfl⟩
  refine ⟨hback, strictEq_self _ r hreadable, ?_⟩
  rw [hback]
  rfl

/-- A text that repeats keys, of a path and of children, and nests children. -/
def familyText : String := "\x7b\"a\":1,\"children\":null,\"b\":2.5,\"a\":[],"
  ++ "\"children\":[\x7b\x7d,\x7b\"children\":[]\x7d,\x7b\"children\":null\x7d]\x7d"

/-- What is written of it. -/
def familyWritten : String := "\x7b\"a\":[],\"b\":2.5,"
  ++ "\"children\":[\x7b\x7d,\x7b\"children\":[]\x7d,\x7b\x7d]\x7d"

/-- Each key is written once, and children are present where they were. -/
theorem ofText_jsonText_family : ∃ r, ofText familyText = .ok r ∧ r.jsonText = familyWritten
    ∧ r.toJson.doubles ≠ [] ∧ (∀ x ∈ r.toJson.doubles, x.ReadsBack)
    ∧ ofText r.jsonText = .ok r ∧ r.strictEq r = true
    ∧ (ofText r.jsonText).map jsonText = .ok r.jsonText := by
  have htext : (ofText familyText).map jsonText = .ok familyWritten := by decide +kernel
  have hnumbers : (ofText familyText).toOption.all (fun r =>
      r.toJson.doubles ≠ [] ∧ ∀ x ∈ r.toJson.doubles, x.ReadsBack) = true := by decide +kernel
  obtain ⟨r, hr⟩ : ∃ r, ofText familyText = .ok r := exists_eq_ok_of_isOk (by decide +kernel)
  rw [hr] at htext hnumbers
  obtain ⟨hne, hdoubles⟩ := of_decide_eq_true hnumbers
  exact ⟨r, hr, Except.ok.inj htext, hne, hdoubles, ofText_jsonText hr hdoubles⟩

end Record

end CardStore
