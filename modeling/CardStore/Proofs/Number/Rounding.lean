/-
  CardStore.Proofs.Number.Rounding
  ────────────────────────────────
  **THE NEAREST BINARY64 NUMBER.**

  A quotient is rounded to a significand at a place: the significand is the
  nearest whole number of units of that place, a half going to the even one,
  and the place is as low as 53 bits of significand allow.  That this is the
  binary64 number nearest to the quotient has two parts.  On the grid of the
  place no other point is nearer; and what is not on the grid lies below all
  numbers that have this place.

  Main statements:
    * `floorLog2_spec`, `roundHalfEven_spec` — the two steps of rounding.
    * `abs_magnitude_ofRatio_sub_le` — the error is at most a part in `2 ^ 53`.
    * `magnitude_ofRatio_of_eq` — what 53 bits can write is not changed.
    * `nearest_ofRatio` — rounding is to the nearest number, ties to even.
    * `Nearest.value_eq` — there is only one.
-/
import CardStore.Proofs.Number.Ladder
import Mathlib.Algebra.Order.Field.Basic
import Mathlib.Tactic.Lift
import Mathlib.Tactic.Positivity
import Mathlib.Tactic.Ring

namespace CardStore.Double

/-! ## §1. Quotients and their places. -/

section Quotient

variable {num den : Nat}

theorem cast_scaleRatio (num den : Nat) (k : ℤ) :
    ((scaleRatio num den k).1 : ℚ) / (scaleRatio num den k).2 = num / den * 2 ^ k := by
  unfold scaleRatio
  split
  next hk =>
    lift k to ℕ using hk
    rw [Int.toNat_natCast, zpow_natCast]
    push_cast
    ring
  next hk =>
    obtain ⟨j, rfl⟩ : ∃ j : ℕ, k = -j := ⟨(-k).toNat, by omega⟩
    rw [neg_neg, Int.toNat_natCast, zpow_neg, zpow_natCast]
    push_cast
    rw [div_mul_eq_div_div, ← div_eq_mul_inv]

theorem scaleRatio_snd_pos (num : Nat) (hden : 0 < den) (k : ℤ) :
    0 < (scaleRatio num den k).2 := by
  unfold scaleRatio
  split
  · exact hden
  · exact Nat.mul_pos hden (Nat.two_pow_pos _)

/-- A positive number lies between the two powers of two that its logarithm names. -/
theorem log2_bounds (hnum : 0 < num) :
    (2 : ℚ) ^ (num.log2 : ℤ) ≤ num ∧ (num : ℚ) < 2 ^ (num.log2 + 1 : ℤ) := by
  constructor
  · rw [zpow_natCast]
    exact_mod_cast Nat.log2_self_le hnum.ne'
  · rw [← Nat.cast_one, ← Nat.cast_add, zpow_natCast]
    exact_mod_cast Nat.lt_log2_self

/-- **The place of a quotient** between powers of two. -/
theorem floorLog2_spec (hnum : 0 < num) (hden : 0 < den) :
    (2 : ℚ) ^ floorLog2 num den ≤ num / den ∧ (num / den : ℚ) < 2 ^ (floorLog2 num den + 1) := by
  obtain ⟨hnlow, hnhigh⟩ := log2_bounds hnum
  obtain ⟨hdlow, hdhigh⟩ := log2_bounds hden
  have htwo : (2 : ℚ) ≠ 0 := two_ne_zero
  have hdpos : (0 : ℚ) < den := Nat.cast_pos.2 hden
  set guess : ℤ := (num.log2 : ℤ) - den.log2 with hguess
  have hlow : (2 : ℚ) ^ (guess - 1) ≤ num / den := by
    rw [le_div_iff₀ hdpos]
    calc (2 : ℚ) ^ (guess - 1) * den ≤ 2 ^ (guess - 1) * 2 ^ (den.log2 + 1 : ℤ) := by gcongr
      _ = 2 ^ (num.log2 : ℤ) := by
        rw [← zpow_add₀ htwo]
        congr 1
        omega
      _ ≤ num := hnlow
  have hhigh : (num / den : ℚ) < 2 ^ (guess + 1) := by
    rw [div_lt_iff₀ hdpos]
    calc (num : ℚ) < 2 ^ (num.log2 + 1 : ℤ) := hnhigh
      _ = 2 ^ (guess + 1) * 2 ^ (den.log2 : ℤ) := by
        rw [← zpow_add₀ htwo]
        congr 1
        omega
      _ ≤ 2 ^ (guess + 1) * den := by gcongr
  -- the comparison that corrects the guess is the one with the power that was guessed
  have hless : (scaleRatio num den (-guess)).1 < (scaleRatio num den (-guess)).2
      ↔ (num / den : ℚ) < 2 ^ guess := by
    have hpos : (0 : ℚ) < (scaleRatio num den (-guess)).2 :=
      Nat.cast_pos.2 (scaleRatio_snd_pos num hden _)
    rw [← Nat.cast_lt (α := ℚ), ← div_lt_one hpos, cast_scaleRatio, zpow_neg,
      mul_inv_lt_iff₀ (zpow_pos two_pos _), one_mul]
  by_cases h : (num / den : ℚ) < 2 ^ guess
  · have hfloor : floorLog2 num den = guess - 1 := if_pos (hless.2 h)
    rw [hfloor, sub_add_cancel]
    exact ⟨hlow, h⟩
  · have hfloor : floorLog2 num den = guess := if_neg (mt hless.1 h)
    rw [hfloor]
    exact ⟨not_lt.1 h, hhigh⟩

/-- **Half-even rounding is to the nearest**, and a half goes to an even number. -/
theorem roundHalfEven_spec (num : Nat) (hden : 0 < den) :
    |(roundHalfEven num den : ℚ) - num / den| ≤ 1 / 2
    ∧ (|(roundHalfEven num den : ℚ) - num / den| = 1 / 2 → roundHalfEven num den % 2 = 0) := by
  have hdpos : (0 : ℚ) < den := Nat.cast_pos.2 hden
  have hparts : (num : ℚ) = den * (num / den : Nat) + (num % den : Nat) := by
    exact_mod_cast (Nat.div_add_mod num den).symm
  have hquot : (num / den : ℚ) = (num / den : Nat) + ((num % den : Nat) : ℚ) / den := by
    rw [hparts, add_div, mul_div_cancel_left₀ _ hdpos.ne']
  have hnonneg : 0 ≤ ((num % den : Nat) : ℚ) / den := by positivity
  have hlt : ((num % den : Nat) : ℚ) / den < 1 := by
    rw [div_lt_one hdpos]
    exact_mod_cast Nat.mod_lt num hden
  have hbelow : ((num % den : Nat) : ℚ) / den < 1 / 2 ↔ 2 * (num % den) < den := by
    rw [div_lt_div_iff₀ hdpos two_pos, one_mul, mul_comm]
    exact_mod_cast Iff.rfl
  have habove : 1 / 2 < ((num % den : Nat) : ℚ) / den ↔ den < 2 * (num % den) := by
    rw [div_lt_div_iff₀ two_pos hdpos, one_mul, mul_comm _ 2]
    exact_mod_cast Iff.rfl
  rw [hquot]
  unfold roundHalfEven
  -- from here on only the fraction matters, not what it is a quotient of
  generalize ((num % den : Nat) : ℚ) / den = f at *
  dsimp only
  rcases lt_trichotomy f (1 / 2) with hf | hf | hf
  · rw [if_neg (by have := hbelow.1 hf; omega), sub_add_cancel_left, abs_neg, abs_of_nonneg hnonneg]
    exact ⟨hf.le, fun h => absurd h hf.ne⟩
  · have hnot := hf.not_lt
    have hnot' := hf.not_gt
    rw [hbelow] at hnot
    rw [habove] at hnot'
    split
    next hup =>
      rw [hf, Nat.cast_add_one, add_sub_add_left_eq_sub]
      norm_num
      omega
    next hdown =>
      rw [hf, sub_add_cancel_left]
      norm_num
      omega
  · rw [if_pos (.inl (habove.1 hf)), Nat.cast_add_one, add_sub_add_left_eq_sub,
      abs_of_nonneg (by linarith)]
    exact ⟨by linarith, fun h => by linarith⟩

/-! ## §2. Significand and place. -/

/-- The significand of a number, rounded, where its last place is a power of two. -/
structure Placed (q : ℚ) (place : ℤ) (significand : Nat) : Prop where
  lowest : -1074 ≤ place
  below : q < 2 ^ (place + 53)
  above : place = -1074 ∨ 2 ^ (place + 52) ≤ q
  near : |significand - q / 2 ^ place| ≤ 1 / 2
  even : |significand - q / 2 ^ place| = 1 / 2 → significand % 2 = 0

/-- The magnitude bits of a significand at a place. -/
def placedBits (place : ℤ) (significand : Nat) : Nat := (place + 1074).toNat * 2 ^ 52 + significand

theorem exists_placed (hnum : 0 < num) (hden : 0 < den) :
    ∃ p r, Placed (num / den) p r
      ∧ magnitudeOfRatio num den = min (placedBits p r) infinityBits := by
  obtain ⟨hlow, hhigh⟩ := floorLog2_spec hnum hden
  set place : ℤ := max (floorLog2 num den - 52) (-1074) with hplace
  set scaled := scaleRatio num den (-place) with hscaled
  have hquot : (scaled.1 / scaled.2 : ℚ) = num / den / 2 ^ place := by
    rw [hscaled, cast_scaleRatio, zpow_neg, div_eq_mul_inv (_ / _)]
  have hround := roundHalfEven_spec scaled.1 (scaleRatio_snd_pos num hden (-place))
  rw [hquot] at hround
  refine ⟨place, roundHalfEven scaled.1 scaled.2, ⟨le_max_right _ _, ?below, ?above, hround.1,
    hround.2⟩, ?bits⟩
  case below =>
    refine hhigh.trans_le (zpow_le_zpow_right₀ one_le_two ?_)
    omega
  case above =>
    refine (le_total (floorLog2 num den - 52) (-1074)).imp (fun h => ?_) (fun h => ?_)
    · exact max_eq_right h
    · refine le_trans (zpow_le_zpow_right₀ one_le_two ?_) hlow
      rw [hplace, max_eq_left h, sub_add_cancel]
  case bits => exact if_neg hnum.ne'

namespace Placed

variable {q : ℚ} {p : ℤ} {r : Nat}

theorem significand_le (h : Placed q p r) : r ≤ 2 ^ 53 := by
  have hpow : (0 : ℚ) < 2 ^ p := zpow_pos two_pos _
  have hbelow : q / 2 ^ p < 2 ^ (53 : ℤ) := by
    rw [div_lt_iff₀ hpow, ← zpow_add₀ two_ne_zero, add_comm]
    exact h.below
  have hnear := (abs_le.1 h.near).2
  have hlt : (r : ℚ) < 2 ^ (53 : ℤ) + 1 := by linarith
  rw [zpow_ofNat] at hlt
  exact Nat.le_of_lt_succ (by exact_mod_cast hlt)

theorem le_significand (h : Placed q p r) : p = -1074 ∨ 2 ^ 52 ≤ r := by
  refine h.above.imp_right fun habove => ?_
  have hpow : (0 : ℚ) < 2 ^ p := zpow_pos two_pos _
  have hle : 2 ^ (52 : ℤ) ≤ q / 2 ^ p := by
    rw [le_div_iff₀ hpow, ← zpow_add₀ two_ne_zero, add_comm]
    exact habove
  have hnear := (abs_le.1 h.near).1
  have hlt : 2 ^ (52 : ℤ) < (r : ℚ) + 1 := by linarith
  rw [zpow_ofNat] at hlt
  exact Nat.le_of_lt_succ (by exact_mod_cast hlt)

theorem rung_eq (h : Placed q p r) : rung (placedBits p r) = r * 2 ^ p := by
  have hlowest := h.lowest
  have hlong := h.le_significand
  unfold placedBits
  rw [Double.rung_eq h.significand_le (by omega)]
  congr 2
  omega

/-- A rung lies on the grid of a place, or below all numbers that have this place. -/
theorem grid (p : ℤ) (b : Nat) :
    (∃ j : Nat, rung b = j * 2 ^ p) ∨ (p ≠ -1074 ∧ rung b < 2 ^ (p + 52)) := by
  obtain ⟨k, m, rfl, hm, hk⟩ := exists_rung b
  rw [Double.rung_eq hm.le hk]
  rcases le_or_gt p (k - 1074) with hle | hlt
  · refine .inl ⟨m * 2 ^ (k - 1074 - p).toNat, ?_⟩
    push_cast
    rw [mul_assoc, ← zpow_natCast, Int.toNat_of_nonneg (by omega), ← zpow_add₀ two_ne_zero,
      sub_add_cancel]
  · refine .inr ⟨by omega, ?_⟩
    have hlong : (m : ℚ) < 2 ^ (53 : ℤ) := by exact_mod_cast hm
    calc (m : ℚ) * 2 ^ (k - 1074 : ℤ) < 2 ^ (53 : ℤ) * 2 ^ (k - 1074 : ℤ) := by gcongr
      _ = 2 ^ (53 + (k - 1074) : ℤ) := (zpow_add₀ two_ne_zero _ _).symm
      _ ≤ 2 ^ (p + 52) := zpow_le_zpow_right₀ one_le_two (by omega)

/-- No point of the grid is nearer, and where another is as near, the significand is even. -/
theorem nearest_on_grid (h : Placed q p r) (j : Nat) :
    |r * 2 ^ p - q| ≤ |j * 2 ^ p - q|
    ∧ (|j * 2 ^ p - q| = |r * 2 ^ p - q| → j ≠ r → r % 2 = 0) := by
  have hpow : (0 : ℚ) < 2 ^ p := zpow_pos two_pos _
  -- distances are compared in units of the last place
  have hunit (a : ℚ) : |a * 2 ^ p - q| = |a - q / 2 ^ p| * 2 ^ p := by
    rw [← abs_of_pos hpow, ← abs_mul, abs_of_pos hpow, sub_mul, div_mul_cancel₀ _ hpow.ne']
  rw [hunit, hunit]
  by_cases hjr : j = r
  · subst hjr
    exact ⟨le_rfl, fun _ hne => absurd rfl hne⟩
  -- two different significands are at least one apart, so the other is at least a half away
  have hapart : 1 ≤ |(j : ℚ) - r| := by
    have hint : (1 : ℤ) ≤ |(j : ℤ) - r| := Int.one_le_abs (by omega)
    exact_mod_cast hint
  have htriangle := abs_sub_le (j : ℚ) (q / 2 ^ p) r
  rw [abs_sub_comm (q / 2 ^ p)] at htriangle
  have hnear := h.near
  refine ⟨mul_le_mul_of_nonneg_right (by linarith) hpow.le, fun heq _ => h.even ?_⟩
  have hsame := mul_right_cancel₀ hpow.ne' heq
  linarith

/-- **No rung is nearer** than the one that the significand and place name, and where another is
as near, the significand is even. -/
theorem nearest (h : Placed q p r) (b : Nat) :
    |r * 2 ^ p - q| ≤ |rung b - q|
    ∧ (|rung b - q| = |r * 2 ^ p - q| → rung b ≠ r * 2 ^ p → r % 2 = 0) := by
  rcases grid p b with ⟨j, hj⟩ | ⟨hp, hlow⟩
  · rw [hj]
    obtain ⟨hle, heven⟩ := h.nearest_on_grid j
    exact ⟨hle, fun heq hne => heven heq fun hjr => hne (by rw [hjr])⟩
  · -- the lowest number of this place is on the grid, and nearer than all that lie below it
    have habove := h.above.resolve_left hp
    obtain ⟨hle, -⟩ := h.nearest_on_grid (2 ^ 52)
    have hbase : ((2 ^ 52 : Nat) : ℚ) * 2 ^ p = 2 ^ (p + 52) := by
      rw [add_comm, zpow_add₀ two_ne_zero, zpow_ofNat]
      norm_cast
    rw [hbase, abs_of_nonpos (sub_nonpos.2 habove)] at hle
    have hfar : |rung b - q| = q - rung b := by
      rw [abs_of_neg (by linarith), neg_sub]
    rw [hfar]
    exact ⟨by linarith, fun heq => by linarith⟩

/-- The distance to the number is at most a part in `2 ^ 53`, unless it is very small. -/
theorem error_le (h : Placed q p r) (hp : p ≠ -1074) : |r * 2 ^ p - q| ≤ q / 2 ^ 53 := by
  have hpow : (0 : ℚ) < 2 ^ p := zpow_pos two_pos _
  have habove := h.above.resolve_left hp
  rw [zpow_add₀ two_ne_zero, zpow_ofNat] at habove
  have hunit : |r * 2 ^ p - q| = |r - q / 2 ^ p| * 2 ^ p := by
    rw [← abs_of_pos hpow, ← abs_mul, abs_of_pos hpow, sub_mul, div_mul_cancel₀ _ hpow.ne']
  have hnear := mul_le_mul_of_nonneg_right h.near hpow.le
  rw [hunit, le_div_iff₀ (by positivity)]
  linarith

/-- A number that is written with a significand of 53 bits is left as it is. -/
theorem exact (h : Placed q p r) {m : Nat} {e : ℤ} (hm : m < 2 ^ 53) (he : -1074 ≤ e)
    (hq : q = m * 2 ^ e) : r * 2 ^ p = q := by
  have hpow : (0 : ℚ) < 2 ^ p := zpow_pos two_pos _
  have hpe : p ≤ e := by
    rcases h.above with hp | habove
    · omega
    have hlong : (m : ℚ) < 2 ^ (53 : ℤ) := by exact_mod_cast hm
    have hbelow : q < 2 ^ (53 + e) := by
      rw [hq, zpow_add₀ two_ne_zero]
      gcongr
    have := (zpow_lt_zpow_iff_right₀ one_lt_two).1 (habove.trans_lt hbelow)
    omega
  -- in units of the last place the number is whole, and a significand cannot miss it
  have hwhole : q / 2 ^ p = (m * 2 ^ (e - p).toNat : Nat) := by
    have hsplit : (2 : ℚ) ^ e = 2 ^ (e - p).toNat * 2 ^ p := by
      rw [← zpow_natCast, Int.toNat_of_nonneg (by omega), ← zpow_add₀ two_ne_zero, sub_add_cancel]
    rw [hq, hsplit, ← mul_assoc, mul_div_cancel_right₀ _ hpow.ne']
    push_cast
    rfl
  have hnear := h.near
  rw [hwhole] at hnear
  have hsame : r = m * 2 ^ (e - p).toNat := by
    by_contra hne
    have hint : (1 : ℤ) ≤ |(r : ℤ) - (m * 2 ^ (e - p).toNat : Nat)| := Int.one_le_abs (by omega)
    have hrat : (1 : ℚ) ≤ |(r : ℚ) - (m * 2 ^ (e - p).toNat : Nat)| := by exact_mod_cast hint
    linarith
  rw [hsame, ← hwhole, div_mul_cancel₀ _ hpow.ne']

end Placed

/-! ## §3. Numbers that are rounded. -/

/-- Zero, and numbers that are far from both ends of the range. -/
def Moderate (q : ℚ) : Prop := q = 0 ∨ 2 ^ (-1000 : ℤ) ≤ q ∧ q < 2 ^ (1000 : ℤ)

theorem Moderate.lt {q : ℚ} (h : Moderate q) : q < 2 ^ (1000 : ℤ) := by
  rcases h with rfl | ⟨-, h⟩
  · exact zpow_pos two_pos _
  · exact h

theorem magnitudeOfRatio_le (num den : Nat) : magnitudeOfRatio num den ≤ infinityBits := by
  unfold magnitudeOfRatio
  split
  · exact Nat.zero_le _
  · exact Nat.min_le_right _ _

theorem magnitudeBits_ofRatio (negative : Bool) (num den : Nat) :
    (ofRatio negative num den).magnitudeBits = magnitudeOfRatio num den :=
  magnitudeBits_ofParts negative ((magnitudeOfRatio_le num den).trans_lt infinityBits_lt)

theorem negative_ofRatio (negative : Bool) (num den : Nat) :
    (ofRatio negative num den).negative = negative :=
  negative_ofParts negative ((magnitudeOfRatio_le num den).trans_lt infinityBits_lt)

/-- **Rounding never makes a value that is not a number.** -/
theorem isNaN_ofRatio (negative : Bool) (num den : Nat) :
    (ofRatio negative num den).isNaN = false := by
  have hle := magnitudeOfRatio_le num den
  rw [Bool.eq_false_iff, Ne, isNaN_iff, magnitudeBits_ofRatio]
  omega

theorem neg_ofRatio (negative : Bool) (num den : Nat) :
    (ofRatio negative num den).neg = ofRatio (!negative) num den := by
  show ofParts (!(ofRatio negative num den).negative) (ofRatio negative num den).magnitudeBits = _
  rw [negative_ofRatio, magnitudeBits_ofRatio]
  rfl

/-- The bits of a quotient that is not too large are those of its significand and place. -/
theorem exists_placed_ofRatio (negative : Bool) (hnum : 0 < num) (hden : 0 < den)
    (hq : Moderate (num / den)) :
    ∃ p r, Placed (num / den) p r
      ∧ (ofRatio negative num den).magnitudeBits = placedBits p r
      ∧ placedBits p r < infinityBits := by
  obtain ⟨p, r, hplaced, hbits⟩ := exists_placed hnum hden
  have hplace : p < 948 := by
    rcases hplaced.above with hp | habove
    · omega
    have := (zpow_lt_zpow_iff_right₀ one_lt_two).1 (habove.trans_lt hq.lt)
    omega
  have hlt : placedBits p r < infinityBits := by
    have hlong := hplaced.significand_le
    unfold placedBits infinityBits
    omega
  exact ⟨p, r, hplaced, by rw [magnitudeBits_ofRatio, hbits, min_eq_left hlt.le], hlt⟩

theorem magnitudeBits_ofRatio_zero (negative : Bool) (den : Nat) :
    (ofRatio negative 0 den).magnitudeBits = 0 := magnitudeBits_ofRatio negative 0 den

theorem isFinite_ofRatio (negative : Bool) (hden : 0 < den)
    (hq : Moderate (num / den)) : (ofRatio negative num den).isFinite = true := by
  rw [isFinite_iff]
  rcases Nat.eq_zero_or_pos num with rfl | hnum
  · rw [magnitudeBits_ofRatio_zero]
    decide
  · obtain ⟨p, r, -, hbits, hlt⟩ := exists_placed_ofRatio negative hnum hden hq
    rwa [hbits]

/-- **The error of rounding** is at most a part in `2 ^ 53`, for numbers that are not very small. -/
theorem abs_magnitude_ofRatio_sub_le (negative : Bool) (hden : 0 < den)
    (hq : Moderate (num / den)) :
    |(ofRatio negative num den).magnitude - num / den| ≤ num / den / 2 ^ 53 := by
  rcases Nat.eq_zero_or_pos num with rfl | hnum
  · rw [magnitude, magnitudeBits_ofRatio_zero, rung_zero]
    simp
  obtain ⟨p, r, hplaced, hbits, -⟩ := exists_placed_ofRatio negative hnum hden hq
  rw [magnitude, hbits, hplaced.rung_eq]
  refine hplaced.error_le fun hp => ?_
  have hne : (num / den : ℚ) ≠ 0 := div_ne_zero (by positivity) (by positivity)
  have hbelow := (hq.resolve_left hne).1.trans_lt hplaced.below
  have := (zpow_lt_zpow_iff_right₀ one_lt_two).1 hbelow
  omega

/-- **A quotient that a significand of 53 bits can write is not changed.** -/
theorem magnitude_ofRatio_of_eq (negative : Bool) (hden : 0 < den) {m : Nat} {e : ℤ}
    (hm : m < 2 ^ 53) (he : -1074 ≤ e) (hq : Moderate (num / den))
    (heq : (num / den : ℚ) = m * 2 ^ e) :
    (ofRatio negative num den).magnitude = num / den := by
  rcases Nat.eq_zero_or_pos num with rfl | hnum
  · rw [magnitude, magnitudeBits_ofRatio_zero, rung_zero]
    simp
  obtain ⟨p, r, hplaced, hbits, -⟩ := exists_placed_ofRatio negative hnum hden hq
  rw [magnitude, hbits, hplaced.rung_eq, hplaced.exact hm he heq]

end Quotient

/-! ## §4. The nearest number. -/

/-- A finite number is the nearest to a number if no finite number is nearer and, where another is
as near, its significand is even. -/
structure Nearest (q : ℚ) (x : Double) : Prop where
  isFinite : x.isFinite = true
  le : ∀ y : Double, y.isFinite = true → |x.value - q| ≤ |y.value - q|
  even : ∀ y : Double, y.isFinite = true → |y.value - q| = |x.value - q| → y.value ≠ x.value →
    x.significand % 2 = 0

theorem Nearest.neg {q : ℚ} {x : Double} (h : Nearest q x) : Nearest (-q) x.neg := by
  -- a number is as far from the one number as the number with its sign turned from the other
  have hturn (y : Double) : |y.neg.value - -q| = |y.value - q| := by
    rw [value_neg, neg_sub_neg, abs_sub_comm]
  have hback (y : Double) : |y.value - -q| = |y.neg.value - q| := by
    rw [value_neg, sub_neg_eq_add, ← neg_add', abs_neg]
  refine ⟨by rw [isFinite_neg, h.isFinite], fun y hy => ?_, fun y hy heq hne => ?_⟩
  · rw [hturn, hback]
    exact h.le y.neg (by rw [isFinite_neg, hy])
  · rw [significand_mod_two, magnitudeBits_neg, ← significand_mod_two]
    rw [hturn, hback] at heq
    refine h.even y.neg (by rw [isFinite_neg, hy]) heq fun hsame => hne ?_
    rw [value_neg, ← hsame, value_neg, neg_neg]

/-- A number that is not negative is at least as near to another one as the number with its sign
turned. -/
theorem abs_sub_le_of_nonneg {a q : ℚ} (ha : 0 ≤ a) (hq : 0 ≤ q) : |a - q| ≤ |-a - q| := by
  rw [← neg_add', abs_neg, abs_of_nonneg (add_nonneg ha hq), abs_le]
  constructor <;> linarith

/-- **Rounding is to the nearest number.** -/
theorem nearest_ofRatio_false {num den : Nat} (hden : 0 < den) (hq : Moderate (num / den)) :
    Nearest (num / den) (ofRatio false num den) := by
  have hfinite := isFinite_ofRatio false hden hq
  have hq0 : (0 : ℚ) ≤ num / den := by positivity
  have hvalue : (ofRatio false num den).value = (ofRatio false num den).magnitude := by
    unfold value
    rw [negative_ofRatio]
    rfl
  have hrung (b : Nat) : |(ofRatio false num den).magnitude - num / den| ≤ |rung b - num / den|
      ∧ (|rung b - num / den| = |(ofRatio false num den).magnitude - num / den| →
        rung b ≠ (ofRatio false num den).magnitude →
        (ofRatio false num den).significand % 2 = 0) := by
    rcases Nat.eq_zero_or_pos num with rfl | hnum
    · rw [significand_mod_two, magnitude, magnitudeBits_ofRatio_zero, rung_zero]
      simp
    obtain ⟨p, r, hplaced, hbits, -⟩ := exists_placed_ofRatio false hnum hden hq
    have hparity : (ofRatio false num den).significand % 2 = r % 2 := by
      rw [significand_mod_two, hbits]
      unfold placedBits
      omega
    rw [hparity, magnitude, hbits, hplaced.rung_eq]
    exact hplaced.nearest b
  -- of the two numbers of a magnitude the one that is not negative is the nearer
  have hsign (y : Double) : |y.magnitude - num / den| ≤ |y.value - num / den| := by
    unfold value
    split
    · exact abs_sub_le_of_nonneg y.magnitude_nonneg hq0
    · exact le_rfl
  refine ⟨hfinite, fun y _ => ?_, fun y _ heq hne => ?_⟩
  · rw [hvalue]
    exact (hrung y.magnitudeBits).1.trans (hsign y)
  · rw [hvalue] at heq hne
    have htie : |y.magnitude - num / den| = |(ofRatio false num den).magnitude - num / den| :=
      le_antisymm (heq ▸ hsign y) (hrung y.magnitudeBits).1
    refine (hrung y.magnitudeBits).2 htie fun hsame => hne ?_
    -- the other of the two can only be as near if both are zero
    have hzero := (hrung 0).1
    rw [rung_zero] at hzero
    change y.magnitude = _ at hsame
    unfold value at heq ⊢
    split at heq
    next hneg =>
      rw [if_pos hneg]
      rw [hsame] at heq ⊢
      rcases abs_eq_abs.1 heq with hcase | hcase
      · linarith
      · have hq00 : (num / den : ℚ) = 0 := by linarith
        rw [hq00, sub_zero, sub_zero, abs_zero, abs_nonpos_iff] at hzero
        rw [hzero, neg_zero]
    next hpos => rw [if_neg hpos, hsame]

theorem nearest_ofRatio (negative : Bool) {num den : Nat} (hden : 0 < den)
    (hq : Moderate (num / den)) :
    Nearest (if negative then -(num / den) else num / den) (ofRatio negative num den) := by
  have h := nearest_ofRatio_false hden hq
  cases negative
  · exact h
  · rw [← Bool.not_false, ← neg_ofRatio]
    exact h.neg

/-! ## §5. There is only one. -/

theorem Nearest.not_value_lt {q : ℚ} {x y : Double} (hx : Nearest q x) (hy : Nearest q y) :
    ¬ x.value < y.value := by
  intro hlt
  have hsame : |y.value - q| = |x.value - q| :=
    le_antisymm (hy.le x hx.isFinite) (hx.le y hy.isFinite)
  have hxeven := hx.even y hy.isFinite hsame hlt.ne'
  have hyeven := hy.even x hx.isFinite hsame.symm hlt.ne
  rw [significand_mod_two, ← natAbs_position] at hxeven hyeven
  have hxfinite := (isFinite_iff x).1 hx.isFinite
  have hyfinite := (isFinite_iff y).1 hy.isFinite
  rw [← natAbs_position] at hxfinite hyfinite
  have hposition : x.position < y.position := by
    rw [← ladder_strictMono.lt_iff_lt, ladder_position, ladder_position]
    exact hlt
  -- two neighbours are not both even, so that there is a number between the two
  set z := atPosition (x.position + 1) with hz
  have hbetween : (x.position + 1).natAbs < infinityBits := by omega
  have hzposition : z.position = x.position + 1 :=
    position_atPosition (hbetween.trans infinityBits_lt)
  have hxz : x.value < z.value := by
    rw [← ladder_position, ← ladder_position, hzposition]
    exact ladder_strictMono (by omega)
  have hzy : z.value < y.value := by
    rw [← ladder_position, ← ladder_position y, hzposition]
    exact ladder_strictMono (by omega)
  have hle := hx.le z (isFinite_atPosition hbetween)
  rcases abs_eq_abs.1 hsame with heq | heq
  · linarith
  · have hcloser : |z.value - q| < |x.value - q| := by
      rw [abs_of_neg (by linarith : x.value - q < 0), abs_lt]
      constructor <;> linarith
    linarith

/-- Being the nearest number is a matter of the value. -/
theorem Nearest.congr {q : ℚ} {x y : Double} (h : Nearest q x) (hy : y.isFinite = true)
    (hxy : x.value = y.value) : Nearest q y := by
  have hbits : y.magnitudeBits = x.magnitudeBits := by
    refine rung_strictMono.injective ?_
    show y.magnitude = x.magnitude
    rw [← abs_value, ← abs_value, hxy]
  refine ⟨hy, fun z hz => hxy ▸ h.le z hz, fun z hz heq hne => ?_⟩
  rw [significand_mod_two, hbits, ← significand_mod_two]
  rw [← hxy] at heq hne
  exact h.even z hz heq hne

/-- **There is only one nearest number.** -/
theorem Nearest.value_eq {q : ℚ} {x y : Double} (hx : Nearest q x) (hy : Nearest q y) :
    x.value = y.value :=
  le_antisymm (not_lt.1 (hy.not_value_lt hx)) (not_lt.1 (hx.not_value_lt hy))

end CardStore.Double
