/-
  CardStore.Proofs.Number.Ladder
  ──────────────────────────────
  **THE LADDER OF BINARY64 NUMBERS.**

  The magnitudes of binary64 numbers, in order, are numbered by their bits.
  The step between two of them doubles every `2 ^ 52` steps, and where it
  does the number may be written with either step:

      rung (k · 2^52 + m)  =  m · 2^(k - 1074)     m ≤ 2^53, and 2^52 ≤ m unless k = 0

  With the sign the ladder goes on below zero, and a number's position on it
  says all about the number except which of the two zeros it is.

  Main statements:
    * `rung_strictMono`, `ladder_strictMono` — the ladder goes up.
    * `numEq_iff_value` — finite numbers are numerically equal if they denote the same.
    * `ladder_position` — what a number denotes is the rung it stands on.
-/
import CardStore.Number.Double
import Mathlib.Algebra.Order.Field.Power
import Mathlib.Algebra.Order.Field.Rat
import Mathlib.Data.Int.ConditionallyCompleteOrder
import Mathlib.Tactic.Linarith
import Mathlib.Tactic.NormNum.Pow

namespace CardStore.Double

/-! ## §1. The ladder of magnitudes. -/

/-- The number that magnitude bits stand for. -/
def rung (b : Nat) : ℚ :=
  if b / 2 ^ 52 = 0 then (b % 2 ^ 52 : Nat) * 2 ^ (-1074 : ℤ)
  else (2 ^ 52 + b % 2 ^ 52 : Nat) * 2 ^ ((b / 2 ^ 52 : Nat) - 1075 : ℤ)

/-- Significand and place of a rung, also where the significand has just become too long. -/
theorem rung_eq {k m : Nat} (hm : m ≤ 2 ^ 53) (hk : k = 0 ∨ 2 ^ 52 ≤ m) :
    rung (k * 2 ^ 52 + m) = m * 2 ^ (k - 1074 : ℤ) := by
  have htwo : (2 : ℚ) ≠ 0 := two_ne_zero
  rcases Nat.lt_or_ge m (2 ^ 52) with hlow | hlow
  · have hk0 : k = 0 := by omega
    have hdiv : (k * 2 ^ 52 + m) / 2 ^ 52 = 0 := by omega
    have hmod : (k * 2 ^ 52 + m) % 2 ^ 52 = m := by omega
    unfold rung
    rw [if_pos hdiv, hmod, hk0]
    norm_num
  rcases Nat.lt_or_ge m (2 ^ 53) with hhigh | hhigh
  · have hdiv : (k * 2 ^ 52 + m) / 2 ^ 52 = k + 1 := by omega
    have hmod : 2 ^ 52 + (k * 2 ^ 52 + m) % 2 ^ 52 = m := by omega
    unfold rung
    rw [hdiv, if_neg (by omega), hmod]
    congr 2
    omega
  · have hm53 : m = 2 ^ 53 := by omega
    have hdiv : (k * 2 ^ 52 + m) / 2 ^ 52 = k + 2 := by omega
    have hmod : 2 ^ 52 + (k * 2 ^ 52 + m) % 2 ^ 52 = 2 ^ 52 := by omega
    unfold rung
    rw [hdiv, if_neg (by omega), hmod, hm53]
    have hplace : ((k + 2 : Nat) - 1075 : ℤ) = (k - 1074 : ℤ) + 1 := by omega
    have hdouble : ((2 ^ 53 : Nat) : ℚ) = (2 ^ 52 : Nat) * 2 := by norm_num
    rw [hplace, zpow_add_one₀ htwo, hdouble, mul_assoc, mul_comm (2 : ℚ)]

theorem exists_rung (b : Nat) :
    ∃ k m, b = k * 2 ^ 52 + m ∧ m < 2 ^ 53 ∧ (k = 0 ∨ 2 ^ 52 ≤ m) :=
  ⟨b / 2 ^ 52 - 1, b - (b / 2 ^ 52 - 1) * 2 ^ 52, by omega, by omega, by omega⟩

theorem rung_strictMono : StrictMono rung := by
  refine strictMono_nat_of_lt_succ fun b => ?_
  obtain ⟨k, m, rfl, hm, hk⟩ := exists_rung b
  rw [Nat.add_assoc, rung_eq (by omega) hk, rung_eq (by omega) (by omega)]
  have hplace : (0 : ℚ) < 2 ^ (k - 1074 : ℤ) := zpow_pos two_pos _
  push_cast
  linarith

theorem rung_zero : rung 0 = 0 := by norm_num [rung]

/-! ## §2. Numbers by their bits. -/

/-- The bits of the magnitude. -/
def magnitudeBits (x : Double) : Nat := x.bits.toNat % 2 ^ 63

/-- The magnitude of a finite number. -/
def magnitude (x : Double) : ℚ := rung x.magnitudeBits

/-- The number that a finite number is. -/
def value (x : Double) : ℚ := if x.negative then -x.magnitude else x.magnitude

theorem infinityBits_lt : infinityBits < 2 ^ 63 := by decide

theorem magnitude_nonneg (x : Double) : 0 ≤ x.magnitude := by
  rw [← rung_zero]
  exact rung_strictMono.monotone (Nat.zero_le _)

theorem abs_value (x : Double) : |x.value| = x.magnitude := by
  unfold value
  split
  · rw [abs_neg, abs_of_nonneg x.magnitude_nonneg]
  · exact abs_of_nonneg x.magnitude_nonneg

theorem exponent_eq (x : Double) : x.exponent = x.magnitudeBits / 2 ^ 52 := by
  unfold exponent magnitudeBits
  omega

theorem fraction_eq (x : Double) : x.fraction = x.magnitudeBits % 2 ^ 52 := by
  unfold fraction magnitudeBits
  omega

theorem magnitude_eq (x : Double) : x.magnitude = x.significand * 2 ^ x.power := by
  unfold magnitude rung significand power
  rw [exponent_eq, fraction_eq]
  split <;> rfl

theorem isFinite_iff (x : Double) : x.isFinite = true ↔ x.magnitudeBits < infinityBits := by
  have hbits := x.bits.toNat_lt
  unfold isFinite exponent magnitudeBits infinityBits
  rw [bne_iff_ne]
  omega

theorem isNaN_iff (x : Double) : x.isNaN = true ↔ infinityBits < x.magnitudeBits := by
  have hbits := x.bits.toNat_lt
  unfold isNaN exponent fraction magnitudeBits infinityBits
  rw [Bool.and_eq_true, beq_iff_eq, bne_iff_ne]
  omega

theorem isZero_iff (x : Double) : x.isZero = true ↔ x.magnitudeBits = 0 := beq_iff_eq

theorem isZero_iff_magnitude (x : Double) : x.isZero = true ↔ x.magnitude = 0 := by
  rw [isZero_iff, magnitude, ← rung_zero, rung_strictMono.injective.eq_iff]

theorem isNaN_of_isFinite {x : Double} (h : x.isFinite = true) : x.isNaN = false := by
  rw [isFinite_iff] at h
  rw [Bool.eq_false_iff, Ne, isNaN_iff]
  omega

theorem bits_eq_iff (x y : Double) :
    x.bits = y.bits ↔ x.negative = y.negative ∧ x.magnitudeBits = y.magnitudeBits := by
  have hx := x.bits.toNat_lt
  have hy := y.bits.toNat_lt
  unfold negative magnitudeBits
  rw [← UInt64.toNat_inj, decide_eq_decide]
  omega

/-- **Finite numbers are numerically equal exactly if they are the same number.** -/
theorem numEq_iff_value {x y : Double} (hx : x.isFinite = true) (hy : y.isFinite = true) :
    x.numEq y = true ↔ x.value = y.value := by
  have hmx := x.magnitude_nonneg
  have hmy := y.magnitude_nonneg
  have hsame : x.magnitudeBits = y.magnitudeBits ↔ x.magnitude = y.magnitude :=
    rung_strictMono.injective.eq_iff.symm
  unfold numEq value
  rw [isNaN_of_isFinite hx, isNaN_of_isFinite hy, Bool.not_false, Bool.true_and, Bool.true_and,
    Bool.or_eq_true, beq_iff_eq, Bool.and_eq_true, bits_eq_iff, hsame, isZero_iff_magnitude,
    isZero_iff_magnitude]
  cases x.negative <;> cases y.negative <;> grind

/-! ## §3. Numbers of given bits. -/

section ofParts

variable {b : Nat}

theorem toNat_bits_ofParts (negative : Bool) (hb : b < 2 ^ 63) :
    (ofParts negative b).bits.toNat = b + if negative then 2 ^ 63 else 0 := by
  unfold ofParts
  apply UInt64.toNat_ofNat_of_lt'
  cases negative <;> simp [UInt64.size] <;> omega

theorem magnitudeBits_ofParts (negative : Bool) (hb : b < 2 ^ 63) :
    (ofParts negative b).magnitudeBits = b := by
  unfold magnitudeBits
  rw [toNat_bits_ofParts negative hb]
  split <;> omega

theorem negative_ofParts (negative : Bool) (hb : b < 2 ^ 63) :
    (ofParts negative b).negative = negative := by
  unfold Double.negative
  rw [toNat_bits_ofParts negative hb]
  cases negative
  · simp
    omega
  · simp

end ofParts

theorem significand_mod_two (x : Double) : x.significand % 2 = x.magnitudeBits % 2 := by
  unfold significand
  rw [exponent_eq, fraction_eq]
  split <;> omega

theorem magnitudeBits_neg (x : Double) : x.neg.magnitudeBits = x.magnitudeBits :=
  magnitudeBits_ofParts _ (Nat.mod_lt _ (by decide))

theorem negative_neg (x : Double) : x.neg.negative = !x.negative :=
  negative_ofParts _ (Nat.mod_lt _ (by decide))

theorem isFinite_neg (x : Double) : x.neg.isFinite = x.isFinite := by
  rw [Bool.eq_iff_iff, isFinite_iff, isFinite_iff, magnitudeBits_neg]

theorem value_neg (x : Double) : x.neg.value = -x.value := by
  unfold value magnitude
  rw [negative_neg, magnitudeBits_neg]
  cases x.negative <;> simp

/-! ## §4. Below zero. -/

/-- The place of a number on the ladder, below zero for negative numbers. -/
def position (x : Double) : ℤ := if x.negative then -(x.magnitudeBits : ℤ) else x.magnitudeBits

/-- The number at a place of the ladder. -/
def atPosition (i : ℤ) : Double := ofParts (i < 0) i.natAbs

/-- The ladder, continued below zero. -/
def ladder (i : ℤ) : ℚ := if i < 0 then -rung i.natAbs else rung i.natAbs

theorem ladder_position (x : Double) : ladder x.position = x.value := by
  unfold position value magnitude ladder
  cases x.negative
  · simp
  · rcases Nat.eq_zero_or_pos x.magnitudeBits with hzero | hpos
    · simp [hzero, rung_zero]
    · simp [hpos]

theorem position_atPosition {i : ℤ} (hi : i.natAbs < 2 ^ 63) : (atPosition i).position = i := by
  unfold position atPosition
  rw [negative_ofParts _ hi, magnitudeBits_ofParts _ hi]
  simp only [decide_eq_true_eq]
  split <;> omega

theorem isFinite_atPosition {i : ℤ} (hi : i.natAbs < infinityBits) :
    (atPosition i).isFinite = true := by
  rw [isFinite_iff]
  unfold atPosition
  rwa [magnitudeBits_ofParts _ (hi.trans infinityBits_lt)]

theorem natAbs_position (x : Double) : x.position.natAbs = x.magnitudeBits := by
  unfold position
  split <;> omega

theorem ladder_strictMono : StrictMono ladder := by
  refine strictMono_int_of_lt_succ fun i => ?_
  unfold ladder
  rcases lt_trichotomy i (-1) with hi | rfl | hi
  · rw [if_pos (by omega), if_pos (by omega)]
    exact neg_lt_neg (rung_strictMono (by omega))
  · have := rung_strictMono (show 0 < 1 by omega)
    norm_num [rung_zero] at this ⊢
    exact this
  · rw [if_neg (by omega), if_neg (by omega)]
    exact rung_strictMono (by omega)

end CardStore.Double
