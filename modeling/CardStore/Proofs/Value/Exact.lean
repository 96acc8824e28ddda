/-
  CardStore.Proofs.Value.Exact
  ────────────────────────────
  **HOW WELL LOOSE EQUALITY TELLS EXACT NUMBERS APART.**

  Truth values, integers and decimals are exact.  Loose equality converts them
  to binary64 first, so that it can only tell numbers apart that binary64 tells
  apart.  Whole numbers and decimals of few digits are converted to the nearest
  number, and below 53 bits none of them shares it with another.

  Main statements:
    * `exists_converted` — what the conversion of an exact number guarantees.
    * `looseEq_iff_nearest`, `looseEq_iff_eq` — which plain numbers are equal.
    * `looseEq_exact` — with a bound for all others, and for conditions on roots.
    * `not_looseEq_iff_eq` — beyond, neither direction holds.
-/
import CardStore.Proofs.Number.Decimal
import CardStore.Proofs.Tree.Parents
import CardStore.Value.Basic

namespace CardStore.Value

open Double

/-! ## §1. Exact numbers. -/

/-- The number that a truth value, an integer or a decimal stands for. -/
def denoted? : Value → Option ℚ
  | .bool b => some (if b then 1 else 0)
  | .int n => some n.toInt
  | .decimal d => some d.toRat
  | _ => none

/-- Truth values, integers and plain decimals. -/
def IsPlain : Value → Prop
  | .decimal d => d.IsPlain
  | _ => True

/-- What the conversion of an exact number guarantees. -/
structure Converted (v : Value) (x : ℚ) (u : Double) : Prop where
  form : v.numericForm? = some u
  isFinite : u.isFinite = true
  error : |u.value - x| ≤ |x| / 2 ^ 45
  nearest : v.IsPlain → Nearest x u
  plain : v.IsPlain → Plain x

theorem converted_ofInt {v : Value} {n : ℤ} (hn : n.natAbs < 2 ^ 96)
    (hv : v.numericForm? = some (ofInt n)) : Converted v n (ofInt n) := by
  have hnearest := nearest_ofInt hn
  have hplain : Plain n := .inl ⟨n, hn, rfl⟩
  refine ⟨hv, hnearest.isFinite, (hnearest.error_le hplain.moderate).trans ?_, fun _ => hnearest,
    fun _ => hplain⟩
  have := abs_nonneg (n : ℚ)
  gcongr <;> norm_num

theorem exists_converted {v : Value} {x : ℚ} (h : v.denoted? = some x) : ∃ u, Converted v x u := by
  cases v with
  | bool b =>
    obtain rfl := Option.some.inj h
    cases b with
    | false => exact ⟨_, by simpa using converted_ofInt (n := 0) (by decide) (v := .bool false) rfl⟩
    | true => exact ⟨_, by simpa using converted_ofInt (n := 1) (by decide) (v := .bool true) rfl⟩
  | int n =>
    obtain rfl := Option.some.inj h
    have hlow := n.le_toInt
    have hhigh := n.toInt_lt
    exact ⟨_, converted_ofInt (by omega) rfl⟩
  | decimal d =>
    obtain rfl := Option.some.inj h
    exact ⟨_, rfl, d.isFinite_toDouble, d.abs_toDouble_sub_le, fun hd => Decimal.IsPlain.nearest hd,
      fun hd => Decimal.IsPlain.plain hd⟩
  | _ => cases h

theorem isNumeric_of_denoted {v : Value} {x : ℚ} (h : v.denoted? = some x) :
    v.isNull = false ∧ v.isNumeric = true := by
  cases v with
  | bool | int | decimal => exact ⟨rfl, rfl⟩
  | _ => cases h

/-! ## §2. How they are compared. -/

section Comparison

variable {a b : Value} {x y : ℚ}

theorem looseEq_of_exact {u v : Double} (ha : a.denoted? = some x) (hb : b.denoted? = some y)
    (hu : Converted a x u) (hv : Converted b y v) :
    a.looseEq b = true ↔ u.value = v.value := by
  obtain ⟨hanull, hanumeric⟩ := isNumeric_of_denoted ha
  obtain ⟨hbnull, -⟩ := isNumeric_of_denoted hb
  unfold looseEq
  rw [hanull, hbnull, hanumeric]
  show a.numericEq b = true ↔ _
  unfold numericEq
  rw [hu.form, hv.form]
  exact numEq_iff_value hu.isFinite hv.isFinite

/-- Exact numbers that are loosely equal are close to each other. -/
theorem apart_le_of_looseEq (ha : a.denoted? = some x) (hb : b.denoted? = some y)
    (h : a.looseEq b = true) : |x - y| ≤ |x| / 2 ^ 43 := by
  obtain ⟨u, hu⟩ := exists_converted ha
  obtain ⟨v, hv⟩ := exists_converted hb
  have hsame := (looseEq_of_exact ha hb hu hv).1 h
  have hv' := hv.error
  rw [← hsame] at hv'
  have hapart := abs_sub_le_of_near (by norm_num) hu.error hv'
  linarith

/-- Plain numbers are loosely equal exactly if they have the same nearest binary64 number. -/
theorem looseEq_iff_nearest (ha : a.denoted? = some x) (hb : b.denoted? = some y) (hap : a.IsPlain)
    (hbp : b.IsPlain) : a.looseEq b = true ↔ ∃ z, Nearest x z ∧ Nearest y z := by
  obtain ⟨u, hu⟩ := exists_converted ha
  obtain ⟨v, hv⟩ := exists_converted hb
  rw [looseEq_of_exact ha hb hu hv]
  constructor
  · intro hsame
    exact ⟨u, hu.nearest hap, (hv.nearest hbp).congr hu.isFinite hsame.symm⟩
  · rintro ⟨z, hxz, hyz⟩
    exact ((hu.nearest hap).value_eq hxz).trans ((hv.nearest hbp).value_eq hyz).symm

/-- Below 53 bits they are loosely equal exactly if they are the same number. -/
theorem looseEq_iff_eq (ha : a.denoted? = some x) (hb : b.denoted? = some y) (hap : a.IsPlain)
    (hbp : b.IsPlain) (hsmall : |x| < 2 ^ 53 ∨ |y| < 2 ^ 53) :
    a.looseEq b = true ↔ x = y := by
  obtain ⟨u, hu⟩ := exists_converted ha
  obtain ⟨v, hv⟩ := exists_converted hb
  rw [looseEq_iff_nearest ha hb hap hbp]
  constructor
  · rintro ⟨z, hxz, hyz⟩
    rcases hsmall with hx | hy
    · exact hxz.eq_of_plain hyz (hu.plain hap) (hv.plain hbp) hx
    · exact (hyz.eq_of_plain hxz (hv.plain hbp) (hu.plain hap) hy).symm
  · rintro rfl
    exact ⟨u, hu.nearest hap, hu.nearest hap⟩

end Comparison

/-! ## §3. What a comparison can tell. -/

/-- **Loose equality of exact numbers is equality of binary64.**  Numbers that are loosely equal
are close to each other.  Where both are whole or have few digits, they are loosely equal exactly
if they have the same nearest binary64 number; and if one of them does not reach 53 bits, exactly
if they are the same number, so that a condition on roots picks no record with another one. -/
theorem looseEq_exact {a b : Value} {x y : ℚ} (ha : a.denoted? = some x)
    (hb : b.denoted? = some y) :
    (a.looseEq b = true → |x - y| ≤ |x| / 2 ^ 43)
    ∧ (a.IsPlain → b.IsPlain →
        (a.looseEq b = true ↔ ∃ z, Nearest x z ∧ Nearest y z)
        ∧ (|x| < 2 ^ 53 ∨ |y| < 2 ^ 53 →
            (a.looseEq b = true ↔ x = y)
            ∧ ∀ (condition r : Record) (path : String), condition.get? path = some b →
                r.get? path = some a → Tree.isRoot condition r = true → x = y)) := by
  refine ⟨apart_le_of_looseEq ha hb, fun hap hbp => ⟨looseEq_iff_nearest ha hb hap hbp, ?_⟩⟩
  intro hsmall
  refine ⟨looseEq_iff_eq ha hb hap hbp hsmall, fun condition r path hcondition hr hroot => ?_⟩
  have hmeets := Tree.Links.isRoot_iff.1 hroot path b hcondition
  rw [hr, Option.getD_some] at hmeets
  exact (looseEq_iff_eq ha hb hap hbp hsmall).1 hmeets

/-- One number written in two ways, two integers that are one apart, and a record that a condition
does not pick. -/
theorem looseEq_three_halves :
    (decimal ⟨false, 150, 2⟩).looseEq (decimal ⟨false, 15, 1⟩) = true
    ∧ (int 9007199254740991).looseEq (int 9007199254740992) = false
    ∧ Tree.isRoot (.ofList [("ID", int 8)]) (.ofList [("ID", int 7)]) = false := by
  refine ⟨?_, ?_, ?_⟩
  · have h := looseEq_exact (a := decimal ⟨false, 150, 2⟩) (b := decimal ⟨false, 15, 1⟩) rfl rfl
    have hsame : Decimal.toRat ⟨false, 150, 2⟩ = Decimal.toRat ⟨false, 15, 1⟩ := by
      norm_num [Decimal.toRat, Decimal.signed]
    have hsmall : |Decimal.toRat ⟨false, 15, 1⟩| < 2 ^ 53 := by
      norm_num [Decimal.toRat, Decimal.signed, abs_lt]
    have hplain : Decimal.IsPlain ⟨false, 150, 2⟩ ∧ Decimal.IsPlain ⟨false, 15, 1⟩ := by decide
    exact ((h.2 hplain.1 hplain.2).2 (.inr hsmall)).1.2 hsame
  · have h := looseEq_exact (a := int 9007199254740991) (b := int 9007199254740992) rfl rfl
    have hleft : (9007199254740991 : Int64).toInt = 9007199254740991 := by decide
    have hright : (9007199254740992 : Int64).toInt = 9007199254740992 := by decide
    rw [hleft, hright] at h
    rw [Bool.eq_false_iff]
    exact fun heq => absurd (((h.2 trivial trivial).2 (.inl (by norm_num [abs_lt]))).1.1 heq)
      (by norm_num)
  · have h := looseEq_exact (a := int 7) (b := int 8) rfl rfl
    have hseven : (7 : Int64).toInt = 7 := by decide
    have height : (8 : Int64).toInt = 8 := by decide
    rw [hseven, height] at h
    rw [Bool.eq_false_iff]
    exact fun hroot => absurd (((h.2 trivial trivial).2 (.inl (by norm_num [abs_lt]))).2 _ _ "ID"
      rfl rfl hroot) (by norm_num)

/-- **Neither direction holds of all exact numbers**: integers of more than 53 bits are loosely
equal to their neighbours, and a number written with too many places differs from itself. -/
theorem not_looseEq_iff_eq :
    (¬ ∀ (a b : Value) (x y : ℚ), a.denoted? = some x → b.denoted? = some y →
        a.looseEq b = true → x = y)
    ∧ ¬ ∀ (a b : Value) (x y : ℚ), a.denoted? = some x → b.denoted? = some y →
        x = y → a.looseEq b = true := by
  constructor
  · intro h
    have hne : (9007199254740992 : Int64).toInt ≠ (9007199254740993 : Int64).toInt := by decide
    have heq := h (.int 9007199254740992) (.int 9007199254740993) _ _ rfl rfl (by decide +kernel)
    exact hne (by exact_mod_cast heq)
  · intro h
    have hsame : Decimal.toRat ⟨false, 1, 1⟩
        = Decimal.toRat ⟨false, 100000000000000000000000, 24⟩ := by
      norm_num [Decimal.toRat, Decimal.signed]
    have hequal := h (.decimal ⟨false, 1, 1⟩) (.decimal ⟨false, 100000000000000000000000, 24⟩)
      _ _ rfl rfl hsame
    exact absurd hequal (by decide +kernel)

end CardStore.Value
