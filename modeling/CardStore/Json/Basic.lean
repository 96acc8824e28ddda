/-
  CardStore.Json.Basic
  ────────────────────
  **JSON VALUES.**

  A JSON number is an integer of 64 bits, signed or unsigned, or a finite
  binary64 number.  Objects keep the order of their members.  A `Document` is
  a JSON value in which no object repeats a key; `Document.ofJson` settles
  repeated keys: the last value wins, at the place of the first.

  Main statements:
    * `distinct_settled` — settling leaves no repeated key.
    * `settled_eq_self` — it changes nothing where no key is repeated.
-/
import CardStore.Number.Double
import CardStore.OrderedMap

namespace CardStore

/-! ## §1. Numbers. -/

/-- A JSON number. -/
inductive Json.Number where
  | int (n : Int) (inRange : -2 ^ 63 ≤ n ∧ n < 2 ^ 64)
  | float (x : Double) (finite : x.isFinite = true)
  deriving DecidableEq

namespace Json.Number

/-- An integer as a JSON number, if 64 bits hold it. -/
def ofInt? (n : Int) : Option Json.Number :=
  if h : -2 ^ 63 ≤ n ∧ n < 2 ^ 64 then some (.int n h) else none

/-- A binary64 number as a JSON number, if it is finite. -/
def ofDouble? (x : Double) : Option Json.Number :=
  if h : x.isFinite = true then some (.float x h) else none

/-- A signed integer of 64 bits as a JSON number. -/
def ofInt64 (n : Int64) : Json.Number :=
  .int n.toInt ⟨Int64.le_toInt n, Int.lt_trans (Int64.toInt_lt n) (by decide)⟩

/-- A byte as a JSON number. -/
def ofByte (b : UInt8) : Json.Number :=
  .int b.toNat ⟨by omega, by have := b.toNat_lt; omega⟩

/-- Numeric equality of numbers of the same form; an integer never equals a binary64 number. -/
def strictEq : Json.Number → Json.Number → Bool
  | .int n _, .int m _ => n == m
  | .float x _, .float y _ => x.numEq y
  | _, _ => false

end Json.Number

/-! ## §2. Values. -/

/-- A JSON value. -/
inductive Json where
  | null
  | bool (b : Bool)
  | number (n : Json.Number)
  | string (s : String)
  | array (items : List Json)
  | object (members : List (String × Json))

namespace Json

instance : Inhabited Json := ⟨.null⟩

mutual

/-- Equality, the order of object members aside. -/
def strictEq : Json → Json → Bool
  | .null, .null => true
  | .bool a, .bool b => a == b
  | .number n, .number m => n.strictEq m
  | .string s, .string t => s == t
  | .array xs, .array ys => itemsEq xs ys
  | .object es, .object fs => es.length == fs.length && membersEq es fs
  | _, _ => false

/-- Equality item by item. -/
def itemsEq : List Json → List Json → Bool
  | [], [] => true
  | x :: xs, y :: ys => strictEq x y && itemsEq xs ys
  | _, _ => false

/-- Whether every member has an equal value under its key in another list of members. -/
def membersEq : List (String × Json) → List (String × Json) → Bool
  | [], _ => true
  | (k, v) :: es, fs =>
    (match Pairs.get? k fs with
      | some w => strictEq v w
      | none => false) && membersEq es fs

end

/-! ## §3. Repeated keys. -/

mutual

/-- Whether no object repeats a key. -/
def distinct : Json → Bool
  | .array items => itemsDistinct items
  | .object members => membersDistinct members
  | _ => true

def itemsDistinct : List Json → Bool
  | [] => true
  | j :: js => distinct j && itemsDistinct js

def membersDistinct : List (String × Json) → Bool
  | [] => true
  | (k, v) :: es => !(Pairs.keys es).contains k && distinct v && membersDistinct es

end

mutual

/-- The value with repeated keys settled: the last value wins, at the place of the first. -/
def settled : Json → Json
  | .array items => .array (itemsSettled items)
  | .object members => .object (membersSettled [] members)
  | j => j

def itemsSettled : List Json → List Json
  | [] => []
  | j :: js => settled j :: itemsSettled js

/-- Set the members of a list, settled, one after another. -/
def membersSettled (done : List (String × Json)) : List (String × Json) → List (String × Json)
  | [] => done
  | (k, v) :: es => membersSettled (Pairs.set k (settled v) done) es

end

theorem membersDistinct_set (k : String) (v : Json) (es : List (String × Json))
    (hv : distinct v = true) (h : membersDistinct es = true) :
    membersDistinct (Pairs.set k v es) = true := by
  induction es with
  | nil => simp [Pairs.set, membersDistinct, Pairs.keys, hv]
  | cons e es ih =>
    obtain ⟨k', v'⟩ := e
    simp only [membersDistinct, Bool.and_eq_true, Bool.not_eq_true', List.contains_eq_mem,
      decide_eq_false_iff_not] at h
    rw [Pairs.set]
    split
    · rename_i hk
      subst hk
      simp [membersDistinct, h, hv]
    · rename_i hk
      have hne : ¬ k' ∈ Pairs.keys (Pairs.set k v es) := by
        rw [Pairs.keys_set]
        split
        · exact h.1.1
        · simp [h.1.1, hk]
      simp [membersDistinct, h.1.2, ih h.2, hne]

mutual

/-- Settling leaves no repeated key. -/
theorem distinct_settled : (j : Json) → distinct (settled j) = true
  | .null => rfl
  | .bool _ => rfl
  | .number _ => rfl
  | .string _ => rfl
  | .array items => by
    rw [settled, distinct]
    exact itemsDistinct_settled items
  | .object members => by
    rw [settled, distinct]
    exact membersDistinct_settled members [] rfl

theorem itemsDistinct_settled : (js : List Json) → itemsDistinct (itemsSettled js) = true
  | [] => rfl
  | j :: js => by
    rw [itemsSettled, itemsDistinct, distinct_settled j, itemsDistinct_settled js]
    rfl

theorem membersDistinct_settled : (es done : List (String × Json)) →
    membersDistinct done = true → membersDistinct (membersSettled done es) = true
  | [], _, h => by
    rw [membersSettled]
    exact h
  | (k, v) :: es, done, h => by
    rw [membersSettled]
    exact membersDistinct_settled es _ (membersDistinct_set k _ done (distinct_settled v) h)

end

mutual

/-- Settling changes nothing where no key is repeated. -/
theorem settled_eq_self : (j : Json) → distinct j = true → settled j = j
  | .null, _ => rfl
  | .bool _, _ => rfl
  | .number _, _ => rfl
  | .string _, _ => rfl
  | .array items, h => by
    rw [distinct] at h
    rw [settled, itemsSettled_eq_self items h]
  | .object members, h => by
    rw [distinct] at h
    rw [settled, membersSettled_eq_append members [] h (by simp [Pairs.keys])]
    rfl

theorem itemsSettled_eq_self : (js : List Json) → itemsDistinct js = true → itemsSettled js = js
  | [], _ => rfl
  | j :: js, h => by
    rw [itemsDistinct, Bool.and_eq_true] at h
    rw [itemsSettled, settled_eq_self j h.1, itemsSettled_eq_self js h.2]

theorem membersSettled_eq_append : (es done : List (String × Json)) →
    membersDistinct es = true → (∀ k ∈ Pairs.keys es, k ∉ Pairs.keys done) →
    membersSettled done es = done ++ es
  | [], done, _, _ => by
    rw [membersSettled, List.append_nil]
  | (k, v) :: es, done, h, hd => by
    simp only [membersDistinct, Bool.and_eq_true, Bool.not_eq_true', List.contains_eq_mem,
      decide_eq_false_iff_not] at h
    simp only [Pairs.keys, List.map_cons, List.mem_cons, forall_eq_or_imp] at hd h
    rw [membersSettled, settled_eq_self v h.1.2, Pairs.set_of_not_mem k v done hd.1,
      membersSettled_eq_append es _ h.2]
    · simp
    · intro k' hk'
      simp only [Pairs.keys, List.map_append, List.map_cons, List.map_nil, List.mem_append,
        List.mem_singleton, not_or]
      exact ⟨hd.2 k' hk', fun he => h.1.1 (he ▸ hk')⟩

end

/-- A JSON value in which no object repeats a key. -/
structure Document where
  json : Json
  distinct : json.distinct = true

/-- The document of a value, repeated keys settled. -/
def Document.ofJson (j : Json) : Document := ⟨j.settled, distinct_settled j⟩

theorem Document.json_ofJson (d : Document) : (Document.ofJson d.json).json = d.json :=
  settled_eq_self d.json d.distinct

end Json

end CardStore
