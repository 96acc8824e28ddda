/-
  CardStore.Proofs.Json.Equality
  ──────────────────────────────
  **EQUALITY OF JSON VALUES.**

  Two objects are compared by the keys of one of them: each must yield an
  equal value in the other, and there must be as many members in both.  That
  this goes both ways rests on keys not being repeated, which a `Document`
  guarantees.

  Main statements:
    * `Document.strictEq_comm` — equality of documents is symmetric.
    * `strictEq_self` — it is reflexive, as numbers of JSON are finite.
-/
import CardStore.Json.Basic
import CardStore.Proofs.Number.Ladder
import Mathlib.Data.List.Perm.Subperm

namespace CardStore.Json

/-! ## §1. Numbers and members. -/

theorem Number.strictEq_comm (n m : Json.Number) : n.strictEq m = m.strictEq n := by
  cases n with
  | int n hn => cases m with
    | int m hm => exact BEq.comm
    | float y hy => rfl
  | float x hx => cases m with
    | int m hm => rfl
    | float y hy => exact Double.numEq_comm x y

/-- Numbers of JSON are finite, so that each is equal to itself. -/
theorem Number.strictEq_self (n : Json.Number) : n.strictEq n = true := by
  cases n with
  | int n hn => exact BEq.rfl
  | float x hx => rw [strictEq, Double.numEq_self, Double.isNaN_of_isFinite hx, Bool.not_false]

theorem membersDistinct_iff {es : List (String × Json)} :
    membersDistinct es = true ↔ (Pairs.keys es).Nodup ∧ ∀ e ∈ es, e.2.distinct = true := by
  induction es with
  | nil => simp [membersDistinct, Pairs.keys]
  | cons e es ih =>
    obtain ⟨k, v⟩ := e
    rw [membersDistinct, Bool.and_eq_true, Bool.and_eq_true, ih, List.forall_mem_cons]
    simp only [Pairs.keys, List.map_cons, List.nodup_cons, Bool.not_eq_true',
      List.contains_eq_mem, decide_eq_false_iff_not]
    tauto

theorem membersEq_iff {es fs : List (String × Json)} :
    membersEq es fs = true ↔
      ∀ e ∈ es, ∃ w, Pairs.get? e.1 fs = some w ∧ strictEq e.2 w = true := by
  induction es with
  | nil => simp [membersEq]
  | cons e es ih =>
    obtain ⟨k, v⟩ := e
    rw [membersEq, Bool.and_eq_true, ih, List.forall_mem_cons]
    cases Pairs.get? k fs <;> simp

/-- Two objects of the same size have the same keys if one has all those of the other. -/
theorem mem_keys_of_membersEq {es fs : List (String × Json)} (hes : (Pairs.keys es).Nodup)
    (hlength : es.length = fs.length) (heq : membersEq es fs = true) {k : String}
    (hk : k ∈ Pairs.keys fs) : k ∈ Pairs.keys es := by
  have hsub : Pairs.keys es ⊆ Pairs.keys fs := by
    intro k hk
    obtain ⟨e, he, rfl⟩ := List.mem_map.1 hk
    obtain ⟨w, hw, -⟩ := membersEq_iff.1 heq e he
    exact List.mem_map.2 ⟨(e.1, w), Pairs.mem_of_get? hw, rfl⟩
  have hperm := (List.subperm_of_subset hes hsub).perm_of_length_le
    (by rw [Pairs.keys, Pairs.keys, List.length_map, List.length_map, hlength])
  exact hperm.mem_iff.2 hk

/-! ## §2. Symmetry. -/

mutual

/-- Equality goes both ways where no object repeats a key. -/
theorem strictEq_symm : (j k : Json) → j.distinct = true → k.distinct = true →
    strictEq j k = true → strictEq k j = true
  | .null, k, _, _, h => by cases k with
    | null => rfl
    | _ => exact h
  | .bool a, k, _, _, h => by cases k with
    | bool b => exact BEq.symm h
    | _ => exact h
  | .number n, k, _, _, h => by cases k with
    | number m => exact (Number.strictEq_comm m n).trans h
    | _ => exact h
  | .string s, k, _, _, h => by cases k with
    | string t => exact BEq.symm h
    | _ => exact h
  | .array xs, k, hj, hk, h => by cases k with
    | array ys => exact itemsEq_symm xs ys hj hk h
    | _ => exact h
  | .object es, k, hj, hk, h => by cases k with
    | object fs =>
      rw [distinct, membersDistinct_iff] at hj hk
      rw [strictEq, Bool.and_eq_true, beq_iff_eq] at h ⊢
      refine ⟨h.1.symm, membersEq_iff.2 fun f hf => ?_⟩
      obtain ⟨e, he, hkey⟩ :=
        List.mem_map.1 (mem_keys_of_membersEq hj.1 h.1 h.2 (List.mem_map_of_mem hf))
      obtain ⟨w, hw, heq⟩ := membersEq_iff.1 h.2 e he
      -- keys are distinct, so that the value found under the key is the one that stands here
      obtain rfl : f.2 = w := by
        rw [hkey, Pairs.get?_of_mem hk.1 hf] at hw
        exact Option.some.inj hw
      refine ⟨e.2, ?_, values_symm es e he f.2 (hj.2 e he) (hk.2 f hf) heq⟩
      rw [← hkey]
      exact Pairs.get?_of_mem hj.1 he
    | _ => exact h

theorem itemsEq_symm : (xs ys : List Json) → itemsDistinct xs = true → itemsDistinct ys = true →
    itemsEq xs ys = true → itemsEq ys xs = true
  | [], ys, _, _, h => by cases ys with
    | nil => rfl
    | cons y ys => exact h
  | x :: xs, ys, hxs, hys, h => by cases ys with
    | nil => exact h
    | cons y ys =>
      rw [itemsDistinct, Bool.and_eq_true] at hxs hys
      rw [itemsEq, Bool.and_eq_true] at h ⊢
      exact ⟨strictEq_symm x y hxs.1 hys.1 h.1, itemsEq_symm xs ys hxs.2 hys.2 h.2⟩

theorem values_symm : (es : List (String × Json)) → ∀ e ∈ es, ∀ k : Json,
    e.2.distinct = true → k.distinct = true → strictEq e.2 k = true → strictEq k e.2 = true
  | [], _, he, _, _, _, _ => nomatch he
  | (_, v) :: es, e, he, k, hd, hk, h => by
    rcases List.mem_cons.1 he with rfl | hmem
    · exact strictEq_symm v k hd hk h
    · exact values_symm es e hmem k hd hk h

end

/-- **Equality of documents is symmetric.** -/
theorem Document.strictEq_comm (d e : Document) : d.json.strictEq e.json = e.json.strictEq d.json :=
  Bool.eq_iff_iff.2
    ⟨strictEq_symm _ _ d.distinct e.distinct, strictEq_symm _ _ e.distinct d.distinct⟩

/-! ## §3. Reflexivity. -/

mutual

/-- Every value in which no object repeats a key is equal to itself. -/
theorem strictEq_self : (j : Json) → j.distinct = true → strictEq j j = true
  | .null, _ => rfl
  | .bool _, _ => BEq.rfl
  | .number n, _ => n.strictEq_self
  | .string _, _ => BEq.rfl
  | .array xs, h => itemsEq_self xs h
  | .object es, h => by
    rw [distinct, membersDistinct_iff] at h
    rw [strictEq, Bool.and_eq_true, beq_iff_eq]
    refine ⟨rfl, membersEq_iff.2 fun e he => ⟨e.2, Pairs.get?_of_mem h.1 he, ?_⟩⟩
    exact values_self es e he (h.2 e he)

theorem itemsEq_self : (xs : List Json) → itemsDistinct xs = true → itemsEq xs xs = true
  | [], _ => rfl
  | x :: xs, h => by
    rw [itemsDistinct, Bool.and_eq_true] at h
    rw [itemsEq, strictEq_self x h.1, itemsEq_self xs h.2, Bool.and_self]

theorem values_self : (es : List (String × Json)) → ∀ e ∈ es, e.2.distinct = true →
    strictEq e.2 e.2 = true
  | [], _, he, _ => nomatch he
  | (_, v) :: es, e, he, hd => by
    rcases List.mem_cons.1 he with rfl | hmem
    · exact strictEq_self v hd
    · exact values_self es e hmem hd

end

end CardStore.Json
