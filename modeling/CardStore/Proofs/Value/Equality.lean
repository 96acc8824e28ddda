/-
  CardStore.Proofs.Value.Equality
  ───────────────────────────────
  **EQUALITY OF VALUES, SYMMETRIC AND NEARLY REFLEXIVE.**

  A comparison across kinds takes one of three ways: null, numbers, texts.
  The ways are chosen by both sides together, and each is symmetric, the
  fallback on items and on JSON values included.  A value differs from itself
  only through a number that is not one, at any depth of an array.  Decimals
  and JSON values hold none.

  Main statements:
    * `looseEq_comm` — equality across kinds is symmetric.
    * `looseEq_self` — a value equals itself exactly if nothing in it is NaN.
    * `looseEq_either_side` — with both, what a condition on roots picks does not
      depend on the side of the record.
-/
import CardStore.Proofs.Json.Equality
import CardStore.Proofs.Number.Decimal
import CardStore.Proofs.Tree.Parents
import CardStore.Value.Basic

namespace CardStore.Value

/-! ## §1. Strict equality. -/

mutual

theorem strictEq_comm : (v w : Value) → v.strictEq w = w.strictEq v
  | .null, w => by cases w <;> rfl
  | .bool a, w => by cases w with
    | bool b => exact BEq.comm
    | _ => rfl
  | .int n, w => by cases w with
    | int m => exact BEq.comm
    | _ => rfl
  | .float x, w => by cases w with
    | float y => exact x.numEq_comm y
    | _ => rfl
  | .decimal d, w => by cases w with
    | decimal e => exact d.numEq_comm e
    | _ => rfl
  | .string s, w => by cases w with
    | string t => exact BEq.comm
    | _ => rfl
  | .bytes bs, w => by cases w with
    | bytes cs => exact BEq.comm
    | _ => rfl
  | .date d, w => by cases w with
    | date e => exact BEq.comm
    | _ => rfl
  | .dateTime t, w => by cases w with
    | dateTime u => exact BEq.comm
    | _ => rfl
  | .array vs, w => by cases w with
    | array ws => exact itemsEq_comm vs ws
    | _ => rfl
  | .json d, w => by cases w with
    | json e => exact d.strictEq_comm e
    | _ => rfl

theorem itemsEq_comm : (vs ws : List Value) → itemsEq vs ws = itemsEq ws vs
  | [], ws => by cases ws <;> rfl
  | v :: vs, ws => by cases ws with
    | nil => rfl
    | cons w ws => rw [itemsEq, itemsEq, strictEq_comm v w, itemsEq_comm vs ws]

end

mutual

/-- Whether a value is, or holds, one that is not a number. -/
def hasNaN : Value → Bool
  | .float x => x.isNaN
  | .array items => itemsHaveNaN items
  | _ => false

def itemsHaveNaN : List Value → Bool
  | [] => false
  | v :: vs => hasNaN v || itemsHaveNaN vs

end

mutual

/-- A value is strictly equal to itself exactly if it holds nothing that is not a number. -/
theorem strictEq_self : (v : Value) → v.strictEq v = !v.hasNaN
  | .null => rfl
  | .bool _ => BEq.rfl
  | .int _ => BEq.rfl
  | .float x => x.numEq_self
  | .decimal d => d.numEq_self
  | .string _ => BEq.rfl
  | .bytes _ => BEq.rfl
  | .date _ => BEq.rfl
  | .dateTime _ => BEq.rfl
  | .array vs => itemsEq_self vs
  | .json d => Json.strictEq_self d.json d.distinct

theorem itemsEq_self : (vs : List Value) → itemsEq vs vs = !itemsHaveNaN vs
  | [] => rfl
  | v :: vs => by rw [itemsEq, itemsHaveNaN, strictEq_self v, itemsEq_self vs, Bool.not_or]

end

/-! ## §2. Equality across kinds. -/

theorem numericEq_comm (a b : Value) : a.numericEq b = b.numericEq a := by
  unfold numericEq
  cases a.numericForm? with
  | none => cases b.numericForm? <;> rfl
  | some x => cases b.numericForm? with
    | none => rfl
    | some y => exact x.numEq_comm y

theorem textEq_comm (a b : Value) : a.textEq b = b.textEq a := by
  unfold textEq
  cases a.text? with
  | none => cases b.text? <;> exact a.strictEq_comm b
  | some s => cases b.text? with
    | none => exact a.strictEq_comm b
    | some t => exact BEq.comm

/-- **Equality across kinds is symmetric.** -/
theorem looseEq_comm (a b : Value) : a.looseEq b = b.looseEq a := by
  unfold looseEq
  rw [Bool.or_comm b.isNull, Bool.and_comm b.isNull, Bool.or_comm b.isNumeric, numericEq_comm b,
    textEq_comm b]

/-- The number that a number or truth value counts as is one unless the value is not. -/
theorem exists_numericForm {v : Value} (h : v.isNumeric = true) :
    ∃ x, v.numericForm? = some x ∧ x.isNaN = v.hasNaN := by
  cases v with
  | bool b => exact ⟨_, rfl, Double.isNaN_ofRatio _ _ _⟩
  | int n => exact ⟨_, rfl, Double.isNaN_ofRatio _ _ _⟩
  | float x => exact ⟨x, rfl, rfl⟩
  | decimal d => exact ⟨_, rfl, Double.isNaN_of_isFinite d.isFinite_toDouble⟩
  | _ => cases h

theorem numericEq_self {v : Value} (h : v.isNumeric = true) : v.numericEq v = !v.hasNaN := by
  obtain ⟨x, hform, hx⟩ := exists_numericForm h
  unfold numericEq
  rw [hform, ← hx]
  exact x.numEq_self

theorem textEq_self {v : Value} (h : v.isNumeric = false) : v.textEq v = !v.hasNaN := by
  unfold textEq
  cases v with
  | bool | int | float | decimal => cases h
  | string | date | dateTime => exact BEq.rfl
  | _ => exact strictEq_self _

/-- **A value is equal to itself** exactly if it holds nothing that is not a number. -/
theorem looseEq_self (v : Value) : v.looseEq v = !v.hasNaN := by
  unfold looseEq
  rw [Bool.or_self, Bool.or_self, Bool.and_self]
  split
  next hnull => cases v with
    | null => rfl
    | _ => cases hnull
  next =>
    split
    next hnumeric => exact numericEq_self hnumeric
    next hother => exact textEq_self (Bool.eq_false_iff.2 hother)

/-! ## §3. Which side holds the record. -/

/-- **The two sides of a comparison are alike**: it may be turned around, a value compared with
itself is found unless something in it is not a number, and a condition on roots picks the same
records whichever side they stand on. -/
theorem looseEq_either_side :
    (∀ a b : Value, a.looseEq b = b.looseEq a)
    ∧ (∀ v : Value, v.looseEq v = !v.hasNaN)
    ∧ ∀ condition r : Record, Tree.isRoot condition r = true ↔
        ∀ path expected, condition.get? path = some expected →
          expected.looseEq ((r.get? path).getD .null) = true := by
  refine ⟨looseEq_comm, looseEq_self, fun condition r => ?_⟩
  rw [Tree.Links.isRoot_iff]
  unfold Tree.Meets
  refine forall_congr' fun path => forall_congr' fun expected => imp_congr_right fun _ => ?_
  rw [looseEq_comm]

end CardStore.Value
