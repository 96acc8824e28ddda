/-
  CardStore.Proofs.Number.Decimal
  ───────────────────────────────
  **DECIMALS AS BINARY64.**

  The conversion rounds the whole part and the fraction apart, adds them, and
  rounds the sum to the decimal's own places: it goes back from the digits,
  divided by a power of ten.  Where the digits come out whole again, which at
  most fifteen digits and twenty-two places guarantee, only the last division
  rounds, and the result is the nearest number.  All other decimals end within
  a few roundings of it.

  Main statements:
    * `IsPlain.nearest` — the conversion of a plain decimal is the nearest number.
    * `isFinite_toDouble` — every decimal is converted to a finite number.
    * `abs_toDouble_sub_le` — the error is at most a part in 2⁴⁵.
-/
import CardStore.Number.Decimal
import CardStore.Proofs.Number.Nearest
import Mathlib.Data.Nat.Cast.Field

namespace CardStore.Decimal

open Double

/-! ## §1. The number that a decimal denotes. -/

/-- The number that a decimal denotes. -/
def toRat (d : Decimal) : ℚ := d.signed / 10 ^ d.scale.val

/-- That number without its sign. -/
def magnitude (d : Decimal) : ℚ := d.coefficient.val / 10 ^ d.scale.val

/-- The decimal without its sign. -/
def abs (d : Decimal) : Decimal := { d with negative := false }

theorem toRat_eq (d : Decimal) : d.toRat = if d.negative then -d.magnitude else d.magnitude := by
  unfold toRat magnitude signed
  split
  · rw [Int.cast_neg, Int.cast_natCast, neg_div]
  · rw [Int.cast_natCast]

theorem toDouble_eq (d : Decimal) :
    d.toDouble = if d.negative then d.abs.toDouble.neg else d.abs.toDouble := by
  obtain ⟨negative, c, s⟩ := d
  cases negative
  · rfl
  · simp only [toDouble, abs, reduceIte, Bool.false_eq_true, apply_ite neg]

theorem scaled_magnitude (d : Decimal) : Scaled d.magnitude :=
  ⟨d.coefficient.val, d.scale.val, d.coefficient.isLt, Nat.le_of_lt_succ d.scale.isLt, rfl⟩

/-! ## §2. Digits before and behind the point. -/

section Parts

variable {c s k t : Nat} {w f u x : Double}

/-- The digits behind the point, as a fraction of a unit. -/
theorem close_fraction (hc : c < 2 ^ 96) (hs : s ≤ 28) (hk : 2 * k < 512)
    (hf : Close k (c % 10 ^ s : Nat) f) (hu : Close k (10 ^ s) u) :
    Close (2 * k + 1) ((c % 10 ^ s : Nat) / 10 ^ s) (f.div u) := by
  rw [two_mul]
  exact hf.div hu (Nat.cast_nonneg _) (by positivity)
    ⟨_, _, (Nat.mod_le _ _).trans_lt hc, hs, rfl⟩ (by omega)

/-- **The number of all its digits**, from those before and those behind the point. -/
theorem close_digits (hc : c < 2 ^ 96) (hs : s ≤ 28) (hkt : 2 * k + 2 + t < 512)
    (hw : Close k (c / 10 ^ s : Nat) w) (hf : Close k (c % 10 ^ s : Nat) f)
    (hu : Close k (10 ^ s) u) (hx : Close t (10 ^ s) x) :
    Close (2 * k + 2 + t + 1) c ((w.addMagnitudes (f.div u)).mul x) := by
  have hunit : (0 : ℚ) < 10 ^ s := by positivity
  have hparts : ((c / 10 ^ s : Nat) : ℚ) + (c % 10 ^ s : Nat) / 10 ^ s = c / 10 ^ s := by
    have hsplit : ((10 ^ s * (c / 10 ^ s) + c % 10 ^ s : Nat) : ℚ) = c := by
      rw [Nat.div_add_mod]
    rw [← hsplit]
    push_cast
    field_simp
  have hsum := (hw.mono (by omega) (Nat.cast_nonneg _)).add
    (close_fraction hc hs (by omega) hf hu) (hparts ▸ ⟨c, s, hc, hs, rfl⟩) (by omega)
  rw [hparts] at hsum
  have hwhole : (c : ℚ) / 10 ^ s * 10 ^ s = c := div_mul_cancel₀ _ hunit.ne'
  have h := hsum.mul hx (by positivity) hunit.le (hwhole.symm ▸ scaled_natCast hc) (by omega)
  rwa [hwhole] at h

end Parts

/-! ## §3. The conversion of its magnitude. -/

variable (d : Decimal)

theorem toDouble_abs_eq :
    d.abs.toDouble =
      if d.scale.val = 0 then ofNat d.coefficient.val
      else if ((ofNat (d.coefficient.val % 10 ^ d.scale.val)).div
          (ofNat (10 ^ d.scale.val))).isZero then ofNat (d.coefficient.val / 10 ^ d.scale.val)
      else (((((ofNat (d.coefficient.val / 10 ^ d.scale.val)).addMagnitudes
          ((ofNat (d.coefficient.val % 10 ^ d.scale.val)).div (ofNat (10 ^ d.scale.val)))).mul
            ((ofNat 10).powNat d.scale.val)).round).div ((ofNat 10).powNat d.scale.val)) := rfl

theorem close_ofNat_unit : Close 1 (10 ^ d.scale.val) (ofNat (10 ^ d.scale.val)) := by
  have hlt : 10 ^ d.scale.val < 2 ^ 96 :=
    (Nat.pow_le_pow_right (by decide) (Nat.le_of_lt_succ d.scale.isLt)).trans_lt (by decide)
  exact_mod_cast close_ofNat_one hlt

/-- The fraction is zero exactly if all places are. -/
theorem isZero_fraction_iff :
    ((ofNat (d.coefficient.val % 10 ^ d.scale.val)).div (ofNat (10 ^ d.scale.val))).isZero = true
      ↔ 10 ^ d.scale.val ∣ d.coefficient.val := by
  have hfraction := close_fraction d.coefficient.isLt (Nat.le_of_lt_succ d.scale.isLt)
    (by decide) (close_ofNat_one ((Nat.mod_le _ _).trans_lt d.coefficient.isLt)) d.close_ofNat_unit
  rw [hfraction.isZero_iff (by positivity), div_eq_zero_iff, Nat.cast_eq_zero,
    or_iff_left (by positivity), Nat.dvd_iff_mod_eq_zero]

/-- **A decimal whose places are all zero** is converted as the natural number that it is. -/
theorem rounded_toDouble_of_dvd (h : 10 ^ d.scale.val ∣ d.coefficient.val) :
    Rounded d.magnitude d.abs.toDouble := by
  have hmagnitude : d.magnitude = (d.coefficient.val / 10 ^ d.scale.val : Nat) := by
    unfold magnitude
    rw [Nat.cast_div h (by positivity), Nat.cast_pow, Nat.cast_ofNat]
  have heq : d.abs.toDouble = ofNat (d.coefficient.val / 10 ^ d.scale.val) := by
    rw [toDouble_abs_eq, if_pos (d.isZero_fraction_iff.2 h)]
    split
    next hzero => rw [hzero, pow_zero, Nat.div_one]
    next => rfl
  rw [hmagnitude, heq]
  exact rounded_ofNat _

/-- All other decimals go through their digits and back. -/
theorem toDouble_abs_of_not_dvd (h : ¬ 10 ^ d.scale.val ∣ d.coefficient.val) :
    d.abs.toDouble =
      (((((ofNat (d.coefficient.val / 10 ^ d.scale.val)).addMagnitudes
          ((ofNat (d.coefficient.val % 10 ^ d.scale.val)).div (ofNat (10 ^ d.scale.val)))).mul
            ((ofNat 10).powNat d.scale.val)).round).div ((ofNat 10).powNat d.scale.val)) := by
  have hscale : d.scale.val ≠ 0 := fun hzero => h (hzero ▸ one_dvd _)
  rw [toDouble_abs_eq, if_neg hscale, if_neg (mt d.isZero_fraction_iff.1 h)]

/-- **A decimal of at most fifteen digits and twenty-two places** is converted with one rounding:
all steps but the last are exact, or are made so by the digits that are known to be whole. -/
theorem rounded_toDouble_of_lt (hc : d.coefficient.val < 10 ^ 15) (hs : d.scale.val ≤ 22) :
    Rounded d.magnitude d.abs.toDouble := by
  by_cases hdvd : 10 ^ d.scale.val ∣ d.coefficient.val
  · exact d.rounded_toDouble_of_dvd hdvd
  have hlt : d.coefficient.val < 2 ^ 53 := hc.trans (by decide)
  have hwhole := close_ofNat ((Nat.div_le_self _ (10 ^ d.scale.val)).trans_lt hlt)
  have hrest := close_ofNat ((Nat.mod_le _ (10 ^ d.scale.val)).trans_lt hlt)
  have hunit : Close 0 (10 ^ d.scale.val) (ofNat (10 ^ d.scale.val)) :=
    .of_rounded_pow hs (by exact_mod_cast rounded_ofNat (10 ^ d.scale.val))
  have hplaces := close_powNat hs
  have hdigits := close_digits d.coefficient.isLt (Nat.le_of_lt_succ d.scale.isLt) (by decide)
    hwhole hrest hunit hplaces
  have hhalf : (slack ^ (2 * 0 + 2 + 0 + 1) - 1) * d.coefficient.val < 1 / 2 := by
    have hlong : (d.coefficient.val : ℚ) < 10 ^ 15 := by exact_mod_cast hc
    have hslack : slack ^ (2 * 0 + 2 + 0 + 1) - 1 ≤ 1 / 10 ^ 15 * (1 / 2) := by norm_num [slack]
    refine (mul_le_mul_of_nonneg_right hslack (Nat.cast_nonneg _)).trans_lt ?_
    linarith
  have hround := hdigits.rounded_round_of_lt hhalf
  have hback := Close.of_exact hround (scaled_natCast d.coefficient.isLt) hlt (e := 0)
    (by rw [pow_zero, mul_one])
  rw [d.toDouble_abs_of_not_dvd hdvd]
  have h := rounded_div hback.unsigned hplaces.unsigned (by rw [hplaces.magnitude_eq]; positivity)
  rwa [hback.magnitude_eq, hplaces.magnitude_eq] at h

/-- **Every decimal** is converted with few roundings. -/
theorem close_toDouble : Close 129 d.magnitude d.abs.toDouble := by
  have hs : d.scale.val ≤ 28 := Nat.le_of_lt_succ d.scale.isLt
  by_cases hdvd : 10 ^ d.scale.val ∣ d.coefficient.val
  · have h := Close.of_rounded (n := 0) (d.rounded_toDouble_of_dvd hdvd) d.scaled_magnitude
      (by rw [pow_zero]; exact .refl _) (by decide)
    exact h.mono (by decide) d.scaled_magnitude.nonneg
  have hwhole := close_ofNat_one
    ((Nat.div_le_self _ (10 ^ d.scale.val)).trans_lt d.coefficient.isLt)
  have hrest := close_ofNat_one ((Nat.mod_le _ (10 ^ d.scale.val)).trans_lt d.coefficient.isLt)
  have hplaces := close_powNat_of_le hs
  have hdigits := close_digits d.coefficient.isLt hs (by omega) hwhole hrest d.close_ofNat_unit
    hplaces
  have hback := hdigits.round d.coefficient.isLt (by omega)
  rw [d.toDouble_abs_of_not_dvd hdvd]
  have h := hback.div hplaces (by positivity) (by positivity) d.scaled_magnitude (by omega)
  exact h.mono (by omega) d.scaled_magnitude.nonneg

/-! ## §4. The conversion with the sign. -/

theorem isFinite_toDouble : d.toDouble.isFinite = true := by
  rw [toDouble_eq]
  split
  · rw [isFinite_neg]
    exact d.close_toDouble.unsigned.isFinite
  · exact d.close_toDouble.unsigned.isFinite

/-- A conversion with one rounding is to the nearest number. -/
theorem nearest_of_rounded (h : Rounded d.magnitude d.abs.toDouble) :
    Nearest d.toRat d.toDouble := by
  have hmoderate := d.scaled_magnitude.moderate_self
  rw [toDouble_eq, toRat_eq]
  split
  · exact (h.nearest hmoderate).neg
  · exact h.nearest hmoderate

/-- **The error of a conversion** is small for every decimal. -/
theorem abs_toDouble_sub_le : |d.toDouble.value - d.toRat| ≤ |d.toRat| / 2 ^ 45 := by
  have hclose := d.close_toDouble
  have hslack : slack ^ 129 - 1 ≤ 1 / 2 ^ 45 := by
    have h := slack_pow_le (n := 129) (by decide)
    refine (sub_le_sub_right h 1).trans ?_
    norm_num
  have herror : |d.abs.toDouble.value - d.magnitude| ≤ d.magnitude / 2 ^ 45 := by
    have hnonneg := d.scaled_magnitude.nonneg
    rw [hclose.unsigned.value_eq]
    refine (hclose.abs_sub_le hnonneg).trans ?_
    rw [div_eq_mul_one_div, mul_comm d.magnitude]
    exact mul_le_mul_of_nonneg_right hslack hnonneg
  have habs : |d.toRat| = d.magnitude := by
    rw [toRat_eq]
    split
    · rw [abs_neg, abs_of_nonneg d.scaled_magnitude.nonneg]
    · exact abs_of_nonneg d.scaled_magnitude.nonneg
  rw [habs, toDouble_eq, toRat_eq]
  split
  · rw [value_neg, neg_sub_neg, abs_sub_comm]
    exact herror
  · exact herror

/-! ## §5. Decimals that are rounded once. -/

/-- A decimal without places that are in use, or one of few digits. -/
def IsPlain : Prop :=
  10 ^ d.scale.val ∣ d.coefficient.val ∨ (d.coefficient.val < 10 ^ 15 ∧ d.scale.val ≤ 22)

instance : Decidable d.IsPlain := inferInstanceAs (Decidable (_ ∨ _))

variable {d}

/-- **Plain decimals** are converted to the nearest number. -/
theorem IsPlain.nearest (h : d.IsPlain) : Nearest d.toRat d.toDouble := by
  rcases h with hdvd | ⟨hc, hs⟩
  · exact d.nearest_of_rounded (d.rounded_toDouble_of_dvd hdvd)
  · exact d.nearest_of_rounded (d.rounded_toDouble_of_lt hc hs)

theorem natAbs_signed (d : Decimal) : d.signed.natAbs = d.coefficient.val := by
  unfold signed
  split <;> omega

theorem IsPlain.plain (h : d.IsPlain) : Plain d.toRat := by
  rcases h with hdvd | ⟨hc, hs⟩
  · rw [← natAbs_signed, ← Int.natCast_dvd] at hdvd
    obtain ⟨n, hn⟩ := hdvd
    refine .inl ⟨n, ?_, ?_⟩
    · have hle : n.natAbs ≤ d.signed.natAbs := by
        rw [hn, Int.natAbs_mul]
        exact Nat.le_mul_of_pos_left _ (by simp)
      exact hle.trans_lt (d.natAbs_signed ▸ d.coefficient.isLt)
    · unfold toRat
      rw [hn]
      push_cast
      exact mul_div_cancel_left₀ _ (by positivity)
  · exact .inr ⟨d.signed, d.scale.val, by rwa [natAbs_signed], hs, rfl⟩

end CardStore.Decimal
