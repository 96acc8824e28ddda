/-
  CardStore.Proofs.Value.Normal
  ─────────────────────────────
  **VALUES AND THEIR JSON FORM.**

  A JSON value that is taken as a column value and given out again is the same
  but for integers that need the 64th bit: these become binary64 numbers, in
  lists at any depth, and stay what they are inside of objects, which are kept
  whole.

      j                        1   18446744073709551615   {"a":18446744073709551615}
      (ofJson j).toJson        1   1.8446744073709552e19  {"a":18446744073709551615}

  What comes out is taken back as the same value, so that one conversion is as
  good as two.

  Main statements:
    * `ofJson_toJson_ofJson` — a second conversion changes nothing.
    * `toJson_ofJson_iff` — which JSON values are given out as they were taken.
    * `writeJson_eq_chars` — the text of a value is the text of its JSON form.
    * `normal_after_ofJson` — all three together.
-/
import CardStore.Proofs.Number.Nearest
import CardStore.Value.Wire

namespace CardStore

/-! ## §1. Integers that need the 64th bit. -/

namespace Json

mutual

/-- Whether there is, outside of objects, an integer that no signed 64 bits hold. -/
def hasWide : Json → Bool
  | .number (.int n _) => 2 ^ 63 ≤ n
  | .array items => itemsHaveWide items
  | _ => false

def itemsHaveWide : List Json → Bool
  | [] => false
  | j :: js => hasWide j || itemsHaveWide js

end

theorem Document.ofJson_json (d : Document) : Document.ofJson d.json = d := by
  obtain ⟨json, hdistinct⟩ := d
  unfold Document.ofJson
  congr 1
  exact settled_eq_self json hdistinct

end Json

namespace Value

open Json (Number)

theorem toJson_int (n : Int64) : toJson (.int n) = .number (.ofInt64 n) := rfl

theorem toJson_float {x : Double} (hx : x.isFinite = true) :
    toJson (.float x) = .number (.float x hx) := by
  rw [toJson, Json.Number.ofDouble?, dif_pos hx]

theorem ofNumber_of_lt {n : Int} {hn : -2 ^ 63 ≤ n ∧ n < 2 ^ 64} (h : n < 2 ^ 63) :
    ofNumber (.int n hn) = .int (.ofInt n) := if_pos h

theorem ofNumber_of_le {n : Int} {hn : -2 ^ 63 ≤ n ∧ n < 2 ^ 64} (h : 2 ^ 63 ≤ n) :
    ofNumber (.int n hn) = .float (.ofInt n) := if_neg (not_lt.2 h)

/-- A signed integer of 64 bits is given out as it was taken. -/
theorem toJson_ofNumber_of_lt {n : Int} {hn : -2 ^ 63 ≤ n ∧ n < 2 ^ 64} (h : n < 2 ^ 63) :
    toJson (ofNumber (.int n hn)) = .number (.int n hn) := by
  have hback : (Int64.ofInt n).toInt = n := Int64.toInt_ofInt_of_le hn.1 h
  rw [ofNumber_of_lt h, toJson_int, Json.Number.ofInt64]
  congr 2

/-- A larger one is given out as the binary64 number nearest to it. -/
theorem exists_toJson_ofNumber_of_le {n : Int} (hn : -2 ^ 63 ≤ n ∧ n < 2 ^ 64)
    (h : 2 ^ 63 ≤ n) : ∃ hfinite,
      toJson (ofNumber (.int n hn)) = .number (.float (.ofInt n) hfinite) := by
  have hfinite : (Double.ofInt n).isFinite = true :=
    (Double.nearest_ofInt (by omega : n.natAbs < 2 ^ 96)).isFinite
  exact ⟨hfinite, by rw [ofNumber_of_le h, toJson_float hfinite]⟩

/-! ## §2. One conversion and two. -/

theorem ofJson_document {d : Json.Document} {members : List (String × Json)}
    (h : d.json = .object members) : ofJson d.json = .json d := by
  rw [h]
  show json (.ofJson (.object members)) = _
  rw [← h, Json.Document.ofJson_json]

theorem ofNumber_toJson_ofNumber (n : Number) : ofJson (toJson (ofNumber n)) = ofNumber n := by
  cases n with
  | int n hn =>
    by_cases h : n < 2 ^ 63
    · rw [toJson_ofNumber_of_lt h]
      rfl
    · obtain ⟨hfinite, hjson⟩ := exists_toJson_ofNumber_of_le hn (not_lt.1 h)
      rw [hjson, ofNumber_of_le (not_lt.1 h)]
      rfl
  | float x hx =>
    show ofJson (toJson (.float x)) = .float x
    rw [toJson_float hx]
    rfl

mutual

/-- **A second conversion changes nothing.** -/
theorem ofJson_toJson_ofJson : (j : Json) → ofJson (toJson (ofJson j)) = ofJson j
  | .null => rfl
  | .bool _ => rfl
  | .number n => ofNumber_toJson_ofNumber n
  | .string _ => rfl
  | .array items => congrArg array (itemsOfJson_toJson_ofJson items)
  | .object members =>
    ofJson_document (d := .ofJson (.object members)) rfl

theorem itemsOfJson_toJson_ofJson : (js : List Json) →
    itemsOfJson (itemsToJson (itemsOfJson js)) = itemsOfJson js
  | [] => rfl
  | j :: js => congrArg₂ List.cons (ofJson_toJson_ofJson j) (itemsOfJson_toJson_ofJson js)

end

theorem toJson_ofNumber_iff (n : Number) :
    toJson (ofNumber n) = .number n ↔ (Json.number n).hasWide = false := by
  cases n with
  | int n hn =>
    show _ ↔ decide (2 ^ 63 ≤ n) = false
    rw [decide_eq_false_iff_not, not_le]
    constructor
    -- what no signed 64 bits hold is given out as a number of the other form
    · intro h
      by_contra hle
      obtain ⟨hfinite, hjson⟩ := exists_toJson_ofNumber_of_le hn (not_lt.1 hle)
      rw [hjson] at h
      cases h
    · exact fun h => toJson_ofNumber_of_lt h
  | float x hx => exact ⟨fun _ => rfl, fun _ => toJson_float hx⟩

mutual

/-- **Which JSON values** are given out as they were taken. -/
theorem toJson_ofJson_iff : (j : Json) → j.distinct = true →
    (toJson (ofJson j) = j ↔ j.hasWide = false)
  | .null, _ => ⟨fun _ => rfl, fun _ => rfl⟩
  | .bool _, _ => ⟨fun _ => rfl, fun _ => rfl⟩
  | .number n, _ => toJson_ofNumber_iff n
  | .string _, _ => ⟨fun _ => rfl, fun _ => rfl⟩
  | .array items, h => by
    show Json.array (itemsToJson (itemsOfJson items)) = _ ↔ _
    rw [Json.array.injEq]
    exact itemsToJson_ofJson_iff items h
  | .object members, h => ⟨fun _ => rfl, fun _ => Json.settled_eq_self (.object members) h⟩

theorem itemsToJson_ofJson_iff : (js : List Json) → Json.itemsDistinct js = true →
    (itemsToJson (itemsOfJson js) = js ↔ Json.itemsHaveWide js = false)
  | [], _ => ⟨fun _ => rfl, fun _ => rfl⟩
  | j :: js, h => by
    rw [Json.itemsDistinct, Bool.and_eq_true] at h
    rw [itemsOfJson, itemsToJson, List.cons.injEq, Json.itemsHaveWide, Bool.or_eq_false_iff,
      toJson_ofJson_iff j h.1, itemsToJson_ofJson_iff js h.2]

end

/-! ## §3. The text of a value. -/

theorem writeMoreBytes_eq (bs : List UInt8) :
    writeMoreBytes bs = Json.moreItems (bs.map fun b => .number (.ofByte b)) := by
  induction bs with
  | nil => rfl
  | cons b bs ih =>
    show ',' :: ((Text.ofNat b.toNat).toList ++ writeMoreBytes bs) = _
    rw [ih]
    rfl

mutual

/-- **The text of a value** is the text of its JSON form. -/
theorem writeJson_eq_chars : (v : Value) → v.writeJson = v.toJson.chars
  | .null => rfl
  | .bool true => rfl
  | .bool false => rfl
  | .int _ => rfl
  | .float x => by
    show (if x.isFinite then x.toJsonText.toList else ['n', 'u', 'l', 'l']) = _
    by_cases hx : x.isFinite = true
    · rw [toJson_float hx, if_pos hx]
      rfl
    · rw [toJson, Json.Number.ofDouble?, dif_neg hx, if_neg hx]
      rfl
  | .decimal _ => rfl
  | .string _ => rfl
  | .bytes [] => rfl
  | .bytes (b :: bs) => by
    show '[' :: ((Text.ofNat b.toNat).toList ++ writeMoreBytes bs) = _
    rw [writeMoreBytes_eq]
    rfl
  | .date _ => rfl
  | .dateTime _ => rfl
  | .array [] => rfl
  | .array (v :: vs) => by
    show '[' :: (writeJson v ++ writeMoreJson vs) = _
    rw [writeJson_eq_chars v, writeMoreJson_eq_moreItems vs]
    rfl
  | .json _ => rfl

theorem writeMoreJson_eq_moreItems : (vs : List Value) →
    writeMoreJson vs = Json.moreItems (itemsToJson vs)
  | [] => rfl
  | v :: vs => by
    show ',' :: (writeJson v ++ writeMoreJson vs) = _
    rw [writeJson_eq_chars v, writeMoreJson_eq_moreItems vs]
    rfl

end

/-- **JSON values reach a normal form in one conversion**, which changes no more than integers
above the signed ones, and values are written in the text of their JSON form. -/
theorem normal_after_ofJson (d : Json.Document) (v : Value) :
    ofJson (ofJson d.json).toJson = ofJson d.json
      ∧ ((ofJson d.json).toJson = d.json ↔ d.json.hasWide = false)
      ∧ v.jsonText = v.toJson.text := by
  refine ⟨ofJson_toJson_ofJson d.json, toJson_ofJson_iff d.json d.distinct, ?_⟩
  unfold jsonText Json.text
  rw [writeJson_eq_chars]

end Value

end CardStore
