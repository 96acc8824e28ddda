/-
  CardStore.Proofs.Number.Arithmetic
  ──────────────────────────────────
  **ARITHMETIC THAT IS ROUNDED.**

  Sums, products, quotients and powers of binary64 numbers are the exact ones,
  rounded (`Rounded`).  A computation of some steps is followed by counting its
  roundings: `Close n q x` says that at most `n` of them keep the number `x`
  apart from `q`, each by the factor `slack` at most, and `Close 0 q x` that
  `x` is `q`.

  Main statements:
    * `rounded_mul`, `rounded_div`, `rounded_addMagnitudes`, `rounded_round` —
      every operation rounds once.
    * `Close.mul`, `Close.div`, `Close.add`, `Close.round` — what an operation
      adds to the count.
    * `powNat_go` — powering by squaring keeps what squares and products keep.
    * `close_powNat` — powers of ten up to 10²² are exact.
-/
import CardStore.Proofs.Number.Rounding
import Mathlib.Algebra.Order.Floor.Semifield
import Mathlib.Data.Rat.Floor
import Mathlib.Tactic.FieldSimp
import Mathlib.Tactic.Linarith
import Mathlib.Tactic.NormNum

namespace CardStore

/-! ## §1. Numbers that are nearly the same. -/

/-- Neither of two numbers is more than so many times the other. -/
structure Within (g x y : ℚ) : Prop where
  le : x ≤ g * y
  ge : y ≤ g * x

namespace Within

variable {g h x y z x' y' : ℚ}

theorem refl (x : ℚ) : Within 1 x x := ⟨(one_mul x).ge, (one_mul x).ge⟩

theorem trans (hg : 0 ≤ g) (hh : 0 ≤ h) (hxy : Within g x y) (hyz : Within h y z) :
    Within (g * h) x z where
  le := by
    rw [mul_assoc]
    exact hxy.le.trans (mul_le_mul_of_nonneg_left hyz.le hg)
  ge := by
    rw [mul_comm g, mul_assoc]
    exact hyz.ge.trans (mul_le_mul_of_nonneg_left hxy.ge hh)

theorem mono (hw : Within g x y) (hgh : g ≤ h) (hx : 0 ≤ x) (hy : 0 ≤ y) : Within h x y where
  le := hw.le.trans (mul_le_mul_of_nonneg_right hgh hy)
  ge := hw.ge.trans (mul_le_mul_of_nonneg_right hgh hx)

theorem add (hxy : Within g x y) (hxy' : Within g x' y') : Within g (x + x') (y + y') where
  le := by
    rw [mul_add]
    exact add_le_add hxy.le hxy'.le
  ge := by
    rw [mul_add]
    exact add_le_add hxy.ge hxy'.ge

theorem mul (hxy : Within g x y) (hxy' : Within h x' y') (hg : 0 ≤ g) (hx : 0 ≤ x) (hy : 0 ≤ y)
    (hx' : 0 ≤ x') (hy' : 0 ≤ y') : Within (g * h) (x * x') (y * y') where
  le := by
    rw [mul_mul_mul_comm]
    exact mul_le_mul hxy.le hxy'.le hx' (mul_nonneg hg hy)
  ge := by
    rw [mul_mul_mul_comm]
    exact mul_le_mul hxy.ge hxy'.ge hy' (mul_nonneg hg hx)

theorem inv (hxy : Within g x y) (hx : 0 < x) (hy : 0 < y) : Within g x⁻¹ y⁻¹ where
  le := by
    rw [← div_eq_mul_inv, le_div_iff₀ hy, inv_mul_le_iff₀ hx, mul_comm]
    exact hxy.ge
  ge := by
    rw [← div_eq_mul_inv, le_div_iff₀ hx, inv_mul_le_iff₀ hy, mul_comm]
    exact hxy.le

theorem div (hxy : Within g x y) (hxy' : Within h x' y') (hg : 0 ≤ g) (hx : 0 ≤ x) (hy : 0 ≤ y)
    (hx' : 0 < x') (hy' : 0 < y') : Within (g * h) (x / x') (y / y') := by
  rw [div_eq_mul_inv, div_eq_mul_inv]
  exact hxy.mul (hxy'.inv hx' hy') hg hx hy (inv_nonneg.2 hx'.le) (inv_nonneg.2 hy'.le)

/-- How far two such numbers are apart. -/
theorem abs_sub_le {e : ℚ} (hxy : Within (1 + e) x y) (he : 0 ≤ e) (hy : 0 ≤ y) :
    |x - y| ≤ e * y := by
  have hle := hxy.le
  have hge := hxy.ge
  rw [add_mul, one_mul] at hle hge
  rw [abs_le]
  refine ⟨?_, by linarith⟩
  rcases le_total x y with hxy' | hxy'
  · have := mul_le_mul_of_nonneg_left hxy' he
    linarith
  · have := mul_nonneg he hy
    linarith

end Within

/-- Two numbers to which one number is near are not far from each other. -/
theorem abs_sub_le_of_near {p q w n : ℚ} (hn : 2 ≤ n) (hp : |w - p| ≤ |p| / n)
    (hq : |w - q| ≤ |q| / n) : |p - q| ≤ 4 * (|p| / n) := by
  have hpos : 0 < n := two_pos.trans_le hn
  have htriangle := abs_sub_le p w q
  rw [abs_sub_comm p w] at htriangle
  have hgrow := abs_sub_abs_le_abs_sub q p
  rw [abs_sub_comm q p] at hgrow
  have hlonger : |q| / n ≤ |p| / n + |p - q| / n := by
    rw [← add_div]
    exact div_le_div_of_nonneg_right (by linarith) hpos.le
  have hhalf : |p - q| / n ≤ |p - q| / 2 := div_le_div_of_nonneg_left (abs_nonneg _) two_pos hn
  linarith

/-- The slack of one rounding. -/
def slack : ℚ := 1 + 1 / 2 ^ 53 + 1 / 2 ^ 100

theorem within_slack {x q : ℚ} (hq : 0 ≤ q) (h : |x - q| ≤ q / 2 ^ 53) : Within slack x q := by
  obtain ⟨hlow, hhigh⟩ := abs_le.1 h
  unfold slack
  constructor
  · linarith
  · have hx : (1 - 1 / 2 ^ 53) * q ≤ x := by linarith
    have hstep : q ≤ (1 + 1 / 2 ^ 53 + 1 / 2 ^ 100) * ((1 - 1 / 2 ^ 53) * q) := by
      rw [← mul_assoc]
      norm_num
      linarith
    exact hstep.trans (mul_le_mul_of_nonneg_left hx (by norm_num))

namespace Double

/-! ## §2. Arithmetic on numbers that are not negative. -/

/-- A finite number without a sign. -/
structure Unsigned (x : Double) : Prop where
  isFinite : x.isFinite = true
  negative : x.negative = false

/-- A number that came of rounding a quotient. -/
def Rounded (q : ℚ) (x : Double) : Prop :=
  ∃ num den : Nat, 0 < den ∧ (num / den : ℚ) = q ∧ x = ofRatio false num den

namespace Rounded

variable {q : ℚ} {x : Double}

theorem nonneg (h : Rounded q x) : 0 ≤ q := by
  obtain ⟨num, den, -, rfl, -⟩ := h
  positivity

theorem unsigned (h : Rounded q x) (hq : Moderate q) : x.Unsigned := by
  obtain ⟨num, den, hden, rfl, rfl⟩ := h
  exact ⟨isFinite_ofRatio false hden hq, negative_ofRatio false num den⟩

theorem within (h : Rounded q x) (hq : Moderate q) : Within slack x.magnitude q := by
  refine within_slack h.nonneg ?_
  obtain ⟨num, den, hden, rfl, rfl⟩ := h
  exact abs_magnitude_ofRatio_sub_le false hden hq

theorem exact (h : Rounded q x) (hq : Moderate q) {m : Nat} {e : ℤ} (hm : m < 2 ^ 53)
    (he : -1074 ≤ e) (heq : q = m * 2 ^ e) : x.magnitude = q := by
  obtain ⟨num, den, hden, rfl, rfl⟩ := h
  exact magnitude_ofRatio_of_eq false hden hm he hq heq

theorem nearest (h : Rounded q x) (hq : Moderate q) : Nearest q x := by
  obtain ⟨num, den, hden, rfl, rfl⟩ := h
  exact nearest_ofRatio_false hden hq

end Rounded

theorem Unsigned.value_eq {x : Double} (h : x.Unsigned) : x.value = x.magnitude := by
  unfold value
  rw [h.negative]
  rfl

theorem rounded_ofNat (n : Nat) : Rounded n (ofNat n) := ⟨n, 1, one_pos, by simp, rfl⟩

theorem toRatio_snd_pos (x : Double) : 0 < x.toRatio.2 := scaleRatio_snd_pos _ one_pos _

theorem cast_toRatio (x : Double) : (x.toRatio.1 / x.toRatio.2 : ℚ) = x.magnitude := by
  unfold toRatio
  rw [cast_scaleRatio, magnitude_eq, Nat.cast_one, div_one]

theorem isZero_eq_false {x : Double} (h : x.magnitude ≠ 0) : x.isZero = false := by
  rw [Bool.eq_false_iff, Ne, isZero_iff_magnitude]
  exact h

section Operations

variable {x y : Double} (hx : x.Unsigned) (hy : y.Unsigned)
include hx hy

/-- **A product is the exact product, rounded.** -/
theorem rounded_mul : Rounded (x.magnitude * y.magnitude) (x.mul y) := by
  refine ⟨x.toRatio.1 * y.toRatio.1, x.toRatio.2 * y.toRatio.2,
    Nat.mul_pos x.toRatio_snd_pos y.toRatio_snd_pos, ?_, ?_⟩
  · push_cast
    rw [mul_div_mul_comm, cast_toRatio, cast_toRatio]
  · unfold mul
    simp [isNaN_of_isFinite hx.isFinite, isNaN_of_isFinite hy.isFinite, hx.isFinite, hy.isFinite,
      hx.negative, hy.negative]

/-- **A quotient is the exact quotient, rounded.** -/
theorem rounded_div (hzero : y.magnitude ≠ 0) : Rounded (x.magnitude / y.magnitude) (x.div y) := by
  have hnum : 0 < y.toRatio.1 := by
    refine Nat.pos_of_ne_zero fun h => hzero ?_
    rw [← cast_toRatio, h, Nat.cast_zero, zero_div]
  refine ⟨x.toRatio.1 * y.toRatio.2, x.toRatio.2 * y.toRatio.1,
    Nat.mul_pos x.toRatio_snd_pos hnum, ?_, ?_⟩
  · push_cast
    rw [mul_div_mul_comm, cast_toRatio, ← cast_toRatio y, div_eq_mul_inv x.magnitude, inv_div]
  · unfold div
    simp [isNaN_of_isFinite hx.isFinite, isNaN_of_isFinite hy.isFinite, hx.isFinite, hy.isFinite,
      hx.negative, hy.negative, isZero_eq_false hzero]

end Operations

/-- **A sum is the exact sum, rounded.** -/
theorem rounded_addMagnitudes (x y : Double) :
    Rounded (x.magnitude + y.magnitude) (x.addMagnitudes y) := by
  refine ⟨x.toRatio.1 * y.toRatio.2 + y.toRatio.1 * x.toRatio.2, x.toRatio.2 * y.toRatio.2,
    Nat.mul_pos x.toRatio_snd_pos y.toRatio_snd_pos, ?_, rfl⟩
  have hx : (x.toRatio.2 : ℚ) ≠ 0 := Nat.cast_ne_zero.2 x.toRatio_snd_pos.ne'
  have hy : (y.toRatio.2 : ℚ) ≠ 0 := Nat.cast_ne_zero.2 y.toRatio_snd_pos.ne'
  push_cast
  rw [← cast_toRatio x, ← cast_toRatio y, div_add_div _ _ hx hy, mul_comm (y.toRatio.1 : ℚ)]

/-- **The whole number nearest to a number**, a half going up, rounded. -/
theorem rounded_round {x : Double} (hx : x.Unsigned) :
    Rounded ⌊x.magnitude + 1 / 2⌋₊ x.round := by
  have hden : (x.toRatio.2 : ℚ) ≠ 0 := Nat.cast_ne_zero.2 x.toRatio_snd_pos.ne'
  have hhalf : x.magnitude + 1 / 2
      = ((2 * x.toRatio.1 + x.toRatio.2 : Nat) : ℚ) / (2 * x.toRatio.2 : Nat) := by
    rw [← cast_toRatio]
    push_cast
    field_simp
  rw [hhalf, Nat.floor_div_eq_div]
  refine ⟨(2 * x.toRatio.1 + x.toRatio.2) / (2 * x.toRatio.2), 1, one_pos,
    by rw [Nat.cast_one, div_one], ?_⟩
  unfold round
  rw [hx.negative]

/-! ## §3. Powers. -/

/-- **Powering by squaring.**  What squarings keep of the squares, and what products with them keep
of the result, holds of the power; neither goes beyond the exponent that is asked for. -/
theorem powNat_go {P Q : Nat → Double → Prop} {limit : Nat}
    (hsquare : ∀ a x, Q a x → a + a ≤ limit → Q (a + a) (x.mul x))
    (hresult : ∀ a b x y, Q a x → P b y → b + a ≤ limit → P (b + a) (y.mul x)) (n : Nat) :
    ∀ a b square result, Q a square → P b result → b + a * n ≤ limit →
      P (b + a * n) (powNat.go square n result) := by
  induction n using Nat.strong_induction_on with
  | _ n ih =>
    intro a b square result hq hp hle
    rw [powNat.go]
    -- the last bit goes to the result, all others to the square of the square
    have hsplit : b + a * n = (b + a * (n % 2)) + (a + a) * (n / 2) := by
      conv_lhs => rw [← Nat.div_add_mod n 2]
      ring
    have hbit : P (b + a * (n % 2)) (if n % 2 = 1 then result.mul square else result) := by
      rcases Nat.mod_two_eq_zero_or_one n with hzero | hone
      · rw [hzero, if_neg Nat.zero_ne_one, Nat.mul_zero, Nat.add_zero]
        exact hp
      · rw [hone, if_pos rfl, Nat.mul_one]
        refine hresult a b square result hq hp ?_
        rw [hsplit, hone, Nat.mul_one] at hle
        omega
    rw [hsplit] at hle ⊢
    split
    next hlast =>
      rw [hlast, Nat.mul_zero, Nat.add_zero]
      exact hbit
    next hmore =>
      have hgrow : (a + a) * 1 ≤ (a + a) * (n / 2) := Nat.mul_le_mul_left _ (by omega)
      exact ih (n / 2) (by omega) _ _ _ _ (hsquare a square hq (by omega)) hbit hle


/-! ## §4. Counting the roundings. -/

/-- A number that a decimal without a sign can hold. -/
def Scaled (q : ℚ) : Prop := ∃ c s : Nat, c < 2 ^ 96 ∧ s ≤ 28 ∧ q = c / 10 ^ s

theorem Scaled.nonneg {q : ℚ} (h : Scaled q) : 0 ≤ q := by
  obtain ⟨c, s, -, -, rfl⟩ := h
  positivity

theorem scaled_natCast {n : Nat} (hn : n < 2 ^ 96) : Scaled n :=
  ⟨n, 0, hn, Nat.zero_le _, by rw [pow_zero, div_one]⟩

theorem scaled_pow {k : Nat} (hk : k ≤ 28) : Scaled (10 ^ k) := by
  have hlt : 10 ^ k < 2 ^ 96 := (Nat.pow_le_pow_right (by decide) hk).trans_lt (by decide)
  exact_mod_cast scaled_natCast hlt

/-- A number close to one that a decimal can hold is far from both ends of the range. -/
theorem Scaled.moderate {p q : ℚ} (h : Scaled q) (hp : 0 ≤ p) (hpq : Within 2 p q) :
    Moderate p := by
  obtain ⟨c, s, hc, hs, rfl⟩ := h
  have hle := hpq.le
  have hge := hpq.ge
  rcases Nat.eq_zero_or_pos c with rfl | hpos
  · rw [Nat.cast_zero, zero_div, mul_zero] at hle
    exact .inl (le_antisymm hle hp)
  have hone : (1 : ℚ) ≤ c := by exact_mod_cast hpos
  have hlong : (c : ℚ) < 2 ^ 96 := by exact_mod_cast hc
  have hunit : (1 : ℚ) ≤ 10 ^ s := one_le_pow₀ (by norm_num)
  have hplaces : (10 : ℚ) ^ s ≤ 10 ^ 28 := pow_le_pow_right₀ (by norm_num) hs
  have hbelow : (c : ℚ) / 10 ^ s ≤ c := div_le_self (by positivity) hunit
  have habove : 1 / 10 ^ 28 ≤ (c : ℚ) / 10 ^ s := by gcongr
  refine .inr ⟨?_, ?_⟩
  · calc (2 : ℚ) ^ (-1000 : ℤ) ≤ 2 ^ (-95 : ℤ) := zpow_le_zpow_right₀ one_le_two (by decide)
      _ ≤ p := by norm_num at habove ⊢; linarith
  · calc p < 2 * 2 ^ 96 := by linarith
      _ = 2 ^ (97 : ℤ) := by norm_num
      _ ≤ 2 ^ (1000 : ℤ) := zpow_le_zpow_right₀ one_le_two (by decide)

theorem Scaled.moderate_self {q : ℚ} (h : Scaled q) : Moderate q :=
  h.moderate h.nonneg ((Within.refl q).mono one_le_two h.nonneg h.nonneg)

theorem one_le_slack : 1 ≤ slack := by norm_num [slack]

/-- The slack of some roundings is hardly more than the sum of theirs. -/
theorem slack_pow_le {n : Nat} (hn : n ≤ 512) : slack ^ n ≤ 1 + n * (1 / 2 ^ 53 + 1 / 2 ^ 80) := by
  induction n with
  | zero => simp
  | succ n ih =>
    have hn' : (n : ℚ) ≤ 512 := by exact_mod_cast (Nat.le_succ n).trans hn
    have hslack : 0 ≤ slack := zero_le_one.trans one_le_slack
    rw [pow_succ]
    refine (mul_le_mul_of_nonneg_right (ih (by omega)) hslack).trans ?_
    unfold slack
    push_cast
    norm_num
    linarith

theorem slack_pow_le_two {n : Nat} (hn : n ≤ 512) : slack ^ n ≤ 2 := by
  have hn' : (n : ℚ) ≤ 512 := by exact_mod_cast hn
  have h := slack_pow_le hn
  norm_num at h
  linarith

/-- A finite number without a sign that so many roundings may have moved away from a number. -/
structure Close (n : Nat) (q : ℚ) (x : Double) : Prop where
  unsigned : x.Unsigned
  within : Within (slack ^ n) x.magnitude q

namespace Close

variable {m n : Nat} {p q : ℚ} {x y : Double}

theorem magnitude_eq (h : Close 0 q x) : x.magnitude = q := by
  have hle := h.within.le
  have hge := h.within.ge
  rw [pow_zero, one_mul] at hle hge
  exact le_antisymm hle hge

theorem mono (h : Close n q x) (hmn : n ≤ m) (hq : 0 ≤ q) : Close m q x :=
  ⟨h.unsigned, h.within.mono (pow_le_pow_right₀ one_le_slack hmn) x.magnitude_nonneg hq⟩

/-- Rounding a number that is close to another one. -/
theorem of_rounded (h : Rounded p x) (hq : Scaled q) (hpq : Within (slack ^ n) p q)
    (hn : n < 512) : Close (n + 1) q x := by
  have hmoderate := hq.moderate h.nonneg (hpq.mono (slack_pow_le_two hn.le) h.nonneg hq.nonneg)
  refine ⟨h.unsigned hmoderate, ?_⟩
  rw [pow_succ']
  have hslack : (0 : ℚ) ≤ slack := zero_le_one.trans one_le_slack
  exact (h.within hmoderate).trans hslack (pow_nonneg hslack n) hpq

/-- A number that 53 bits can write is met. -/
theorem of_exact (h : Rounded q x) (hq : Scaled q) {m e : Nat} (hm : m < 2 ^ 53)
    (heq : q = m * 2 ^ e) : Close 0 q x := by
  have hmoderate := hq.moderate_self
  refine ⟨h.unsigned hmoderate, ?_⟩
  rw [h.exact hmoderate hm (e := e) (by omega) heq, pow_zero]
  exact .refl q

theorem mul (hx : Close n p x) (hy : Close m q y) (hp : 0 ≤ p) (hq : 0 ≤ q)
    (hpq : Scaled (p * q)) (hmn : n + m < 512) : Close (n + m + 1) (p * q) (x.mul y) := by
  refine of_rounded (rounded_mul hx.unsigned hy.unsigned) hpq ?_ hmn
  rw [pow_add]
  exact hx.within.mul hy.within (pow_nonneg (zero_le_one.trans one_le_slack) n)
    x.magnitude_nonneg hp y.magnitude_nonneg hq

theorem magnitude_pos (h : Close n q x) (hq : 0 < q) : 0 < x.magnitude := by
  refine x.magnitude_nonneg.lt_of_ne fun hzero => ?_
  have hge := h.within.ge
  rw [← hzero, mul_zero] at hge
  linarith

theorem isZero_iff (h : Close n q x) (hq : 0 ≤ q) : x.isZero = true ↔ q = 0 := by
  rw [isZero_iff_magnitude]
  refine ⟨fun hzero => ?_, fun hzero => ?_⟩
  · by_contra hne
    exact (h.magnitude_pos (hq.lt_of_ne' hne)).ne' hzero
  · have hle := h.within.le
    rw [hzero, mul_zero] at hle
    exact le_antisymm hle x.magnitude_nonneg

theorem div (hx : Close n p x) (hy : Close m q y) (hp : 0 ≤ p) (hq : 0 < q)
    (hpq : Scaled (p / q)) (hmn : n + m < 512) : Close (n + m + 1) (p / q) (x.div y) := by
  have hpos := hy.magnitude_pos hq
  refine of_rounded (rounded_div hx.unsigned hy.unsigned hpos.ne') hpq ?_ hmn
  rw [pow_add]
  exact hx.within.div hy.within (pow_nonneg (zero_le_one.trans one_le_slack) n)
    x.magnitude_nonneg hp hpos hq

theorem add (hx : Close n p x) (hy : Close n q y) (hpq : Scaled (p + q)) (hn : n < 512) :
    Close (n + 1) (p + q) (x.addMagnitudes y) :=
  of_rounded (rounded_addMagnitudes x y) hpq (hx.within.add hy.within) hn


/-- How far the whole number nearest to a number is from another whole number. -/
theorem floor_eq_or_le {p : ℚ} (hp : 0 ≤ p) (c : Nat) :
    ⌊p + 1 / 2⌋₊ = c ∨ (1 / 2 ≤ |p - c| ∧ |(⌊p + 1 / 2⌋₊ : ℚ) - c| ≤ 2 * |p - c|) := by
  by_cases hc : ⌊p + 1 / 2⌋₊ = c
  · exact .inl hc
  have hapart : (1 : ℚ) ≤ |(⌊p + 1 / 2⌋₊ : ℚ) - c| := by
    have hint : (1 : ℤ) ≤ |(⌊p + 1 / 2⌋₊ : ℤ) - c| := Int.one_le_abs (by omega)
    exact_mod_cast hint
  have hlow := Nat.floor_le (a := p + 1 / 2) (by linarith)
  have hhigh := Nat.lt_floor_add_one (p + 1 / 2)
  have hnear : |(⌊p + 1 / 2⌋₊ : ℚ) - p| ≤ 1 / 2 := by
    rw [abs_le]
    constructor <;> linarith
  have htriangle := abs_sub_le (⌊p + 1 / 2⌋₊ : ℚ) p c
  exact .inr ⟨by linarith, by linarith⟩

/-- How far the number may have been moved. -/
theorem abs_sub_le (h : Close n q x) (hq : 0 ≤ q) : |x.magnitude - q| ≤ (slack ^ n - 1) * q := by
  have hwithin := h.within
  rw [← add_sub_cancel 1 (slack ^ n)] at hwithin
  exact hwithin.abs_sub_le (sub_nonneg.2 (one_le_pow₀ one_le_slack)) hq

/-- Where less than a half is lost, the whole number is found again. -/
theorem rounded_round_of_lt {c : Nat} (h : Close n c x) (hhalf : (slack ^ n - 1) * c < 1 / 2) :
    Rounded c x.round := by
  have hround := rounded_round h.unsigned
  have herror := (h.abs_sub_le c.cast_nonneg).trans_lt hhalf
  rcases floor_eq_or_le x.magnitude_nonneg c with heq | ⟨hfar, -⟩
  · rwa [heq] at hround
  · linarith

/-- **Going to the nearest whole number** moves a number at most twice as far from another whole
number as it was. -/
theorem round {c : Nat} (h : Close n c x) (hc : c < 2 ^ 96) (hn : 3 * n < 512) :
    Close (3 * n + 1) c x.round := by
  refine of_rounded (rounded_round h.unsigned) (scaled_natCast hc) ?_ hn
  obtain ⟨e, he⟩ : ∃ e, slack ^ n = 1 + e := ⟨slack ^ n - 1, (add_sub_cancel 1 _).symm⟩
  have hcube : slack ^ (3 * n) = (1 + e) ^ 3 := by rw [mul_comm, pow_mul, he]
  have herror := h.abs_sub_le c.cast_nonneg
  rw [he, add_sub_cancel_left] at herror
  have he0 : 0 ≤ e := by
    have := one_le_pow₀ (n := n) one_le_slack
    linarith
  have he8 : e ≤ 1 / 8 := by
    have hn' : (n : ℚ) ≤ 512 := by exact_mod_cast (by omega : n ≤ 512)
    have hle := slack_pow_le (by omega : n ≤ 512)
    rw [he] at hle
    norm_num at hle
    linarith
  have hc0 : (0 : ℚ) ≤ c := c.cast_nonneg
  rcases floor_eq_or_le x.magnitude_nonneg c with heq | ⟨-, hfar⟩
  · rw [heq]
    exact (Within.refl _).mono (one_le_pow₀ one_le_slack) hc0 hc0
  obtain ⟨hlow, hhigh⟩ := abs_le.1 (hfar.trans (mul_le_mul_of_nonneg_left herror zero_le_two))
  rw [hcube]
  -- twice the error stays below the error of three such steps, on both sides
  have hup : 1 + 2 * e ≤ (1 + e) ^ 3 := by
    have := pow_nonneg he0 2
    have := pow_nonneg he0 3
    linarith
  have hdown : 1 ≤ (1 + e) ^ 3 * (1 - 2 * e) := by
    have hslope : 0 ≤ e * (1 - 3 * e - 5 * e ^ 2 - 2 * e ^ 3) := by
      refine mul_nonneg he0 ?_
      have := pow_le_pow_left₀ he0 he8 2
      have := pow_le_pow_left₀ he0 he8 3
      linarith
    linarith
  constructor
  · refine le_trans ?_ (mul_le_mul_of_nonneg_right hup hc0)
    linarith
  · calc (c : ℚ) ≤ (1 + e) ^ 3 * (1 - 2 * e) * c := le_mul_of_one_le_left hc0 hdown
      _ = (1 + e) ^ 3 * ((1 - 2 * e) * c) := mul_assoc _ _ _
      _ ≤ _ := mul_le_mul_of_nonneg_left (by linarith) (by positivity)

end Close

/-- A natural number is rounded once. -/
theorem close_ofNat_one {n : Nat} (hn : n < 2 ^ 96) : Close 1 n (ofNat n) :=
  .of_rounded (rounded_ofNat n) (scaled_natCast hn) (by rw [pow_zero]; exact .refl _) (by decide)

/-- It is met if 53 bits can write it. -/
theorem close_ofNat {n : Nat} (hn : n < 2 ^ 53) : Close 0 n (ofNat n) :=
  Close.of_exact (rounded_ofNat n) (scaled_natCast (hn.trans (by decide))) hn (e := 0)
    (by rw [pow_zero, mul_one])

theorem close_one : Close 0 (10 ^ 0) (ofNat 1) := by
  simpa using close_ofNat (n := 1) (by decide)

theorem close_ten : Close 0 (10 ^ 1) (ofNat 10) := by
  simpa using close_ofNat (n := 10) (by decide)

/-- So are powers of ten that it can write without their factors of two. -/
theorem Close.of_rounded_pow {k : Nat} {x : Double} (hk : k ≤ 22) (h : Rounded (10 ^ k) x) :
    Close 0 (10 ^ k) x := by
  have hfive : 5 ^ k < 2 ^ 53 := (Nat.pow_le_pow_right (by decide) hk).trans_lt (by decide)
  refine .of_exact h (scaled_pow (by omega)) hfive (e := k) ?_
  rw [Nat.cast_pow, ← mul_pow]
  norm_num

/-- **Powers of ten** are exact as long as they can be written. -/
theorem close_powNat {k : Nat} (hk : k ≤ 22) : Close 0 (10 ^ k) ((ofNat 10).powNat k) := by
  have hmul (a b : Nat) (x y : Double) (hx : Close 0 (10 ^ a) x) (hy : Close 0 (10 ^ b) y)
      (hle : b + a ≤ 22) : Close 0 (10 ^ (b + a)) (y.mul x) := by
    refine .of_rounded_pow hle ?_
    rw [pow_add, ← hx.magnitude_eq, ← hy.magnitude_eq]
    exact rounded_mul hy.unsigned hx.unsigned
  have h := powNat_go (P := fun b => Close 0 (10 ^ b)) (Q := fun a => Close 0 (10 ^ a))
    (fun a x hx => hmul a a x x hx hx) hmul k 1 0 _ _ close_ten close_one (by omega)
  rwa [Nat.zero_add, Nat.one_mul] at h

/-- Beyond that, there is a rounding for every place at most. -/
theorem close_powNat_of_le {k : Nat} (hk : k ≤ 28) : Close k (10 ^ k) ((ofNat 10).powNat k) := by
  have hmul (m n a b : Nat) (x y : Double) (hx : Close m (10 ^ a) x) (hy : Close n (10 ^ b) y)
      (hm : m ≤ a) (hn : n ≤ b) (hle : b + a ≤ 28) :
      Close (n + m + 1) (10 ^ (b + a)) (y.mul x) := by
    rw [pow_add]
    refine hy.mul hx (by positivity) (by positivity) ?_ (by omega)
    rw [← pow_add]
    exact scaled_pow hle
  -- the squares start with ten, which is exact, and have one rounding less than places
  have h := powNat_go (P := fun b => Close b (10 ^ b))
    (Q := fun a x => 0 < a ∧ Close (a - 1) (10 ^ a) x)
    (fun a x ⟨ha, hx⟩ hle => ⟨by omega, by
      have := hmul _ _ a a x x hx hx (by omega) (by omega) hle
      rwa [show a - 1 + (a - 1) + 1 = a + a - 1 by omega] at this⟩)
    (fun a b x y ⟨ha, hx⟩ hy hle => by
      have := hmul _ _ a b x y hx hy (by omega) le_rfl hle
      rwa [show b + (a - 1) + 1 = b + a by omega] at this)
    k 1 0 _ _ ⟨one_pos, close_ten⟩ close_one (by omega)
  rwa [Nat.zero_add, Nat.one_mul] at h

end Double

end CardStore
