/-
  CardStore.Proofs.Number.Nearest
  ───────────────────────────────
  **NUMBERS THAT BINARY64 TELLS APART.**

  Many numbers share one nearest binary64 number.  Whole numbers, and numbers
  of few decimal digits, do not share it with each other as long as they do not
  reach 53 bits: the error of rounding is less than one unit of their last
  place.

  Main statements:
    * `nearest_ofInt` — an integer is converted to the nearest number.
    * `Nearest.apart_le` — how far two numbers with one nearest number are apart.
    * `Nearest.eq_of_plain` — which numbers are told apart.
-/
import CardStore.Proofs.Number.Arithmetic

namespace CardStore.Double

/-! ## §1. Integers, and quotients of them. -/

section Integers

variable {n : ℤ} {den : Nat}

theorem abs_intCast (n : ℤ) : |(n : ℚ)| = n.natAbs := by rw [Nat.cast_natAbs, Int.cast_abs]

theorem moderate_natAbs (hn : n.natAbs < 2 ^ 96) : Moderate (n.natAbs / (1 : Nat)) := by
  rw [Nat.cast_one, div_one]
  exact (scaled_natCast hn).moderate_self

/-- The sign of a rounded quotient is the sign of its numerator. -/
theorem value_ofRatio (n : ℤ) (den : Nat) :
    (ofRatio (n < 0) n.natAbs den).value
      = if n < 0 then -(ofRatio (n < 0) n.natAbs den).magnitude
        else (ofRatio (n < 0) n.natAbs den).magnitude := by
  unfold value
  rw [negative_ofRatio]
  simp only [decide_eq_true_eq]

theorem signed_natAbs (n : ℤ) (den : Nat) :
    (if n < 0 then -(n.natAbs / den) else n.natAbs / den : ℚ) = n / den := by
  rw [Nat.cast_natAbs]
  split
  next hneg => rw [abs_of_neg hneg, Int.cast_neg, neg_div, neg_neg]
  next hpos => rw [abs_of_nonneg (not_lt.1 hpos)]

theorem nearest_ofRatio_int (hden : 0 < den) (hq : Moderate (n.natAbs / den)) :
    Nearest (n / den) (ofRatio (n < 0) n.natAbs den) := by
  have h := nearest_ofRatio (decide (n < 0)) hden hq
  simp only [decide_eq_true_eq] at h
  rwa [signed_natAbs] at h

theorem abs_value_ofRatio_sub_le (hden : 0 < den) (hq : Moderate (n.natAbs / den)) :
    |(ofRatio (n < 0) n.natAbs den).value - n / den| ≤ n.natAbs / den / 2 ^ 53 := by
  have h := abs_magnitude_ofRatio_sub_le (decide (n < 0)) hden hq
  rw [value_ofRatio, ← signed_natAbs]
  split
  · rwa [neg_sub_neg, abs_sub_comm]
  · exact h

/-- **An integer** is converted to the nearest number. -/
theorem nearest_ofInt (hn : n.natAbs < 2 ^ 96) : Nearest n (ofInt n) := by
  have h := nearest_ofRatio_int one_pos (moderate_natAbs hn)
  rwa [Nat.cast_one, div_one] at h

/-- An integer of 53 bits is not changed. -/
theorem value_ofInt (hn : n.natAbs ≤ 2 ^ 53) : (ofInt n).value = n := by
  have hmoderate := moderate_natAbs (hn.trans_lt (by decide))
  have hmagnitude : (ofInt n).magnitude = n.natAbs / (1 : Nat) := by
    rcases hn.lt_or_eq with hlt | heq
    · exact magnitude_ofRatio_of_eq _ one_pos hlt (e := 0) (by decide) hmoderate (by simp)
    · refine magnitude_ofRatio_of_eq _ one_pos (m := 1) (by decide) (e := 53) (by decide)
        hmoderate ?_
      rw [heq]
      norm_num
  have hsigned := signed_natAbs n 1
  unfold ofInt at hmagnitude ⊢
  rw [Nat.cast_one, div_one] at hmagnitude
  rw [value_ofRatio, hmagnitude]
  rwa [Nat.cast_one, div_one, div_one] at hsigned

end Integers

/-! ## §2. Numbers that are told apart. -/

/-- A whole number, or one of at most fifteen digits and twenty-two places. -/
def Plain (q : ℚ) : Prop :=
  (∃ n : ℤ, n.natAbs < 2 ^ 96 ∧ q = n)
    ∨ ∃ (c : ℤ) (s : Nat), c.natAbs < 10 ^ 15 ∧ s ≤ 22 ∧ q = c / 10 ^ s

theorem Plain.moderate {q : ℚ} (h : Plain q) : Moderate |q| := by
  rcases h with ⟨n, hn, rfl⟩ | ⟨c, s, hc, hs, rfl⟩
  · rw [abs_intCast]
    exact (scaled_natCast hn).moderate_self
  · have hunit : (0 : ℚ) < 10 ^ s := by positivity
    rw [abs_div, abs_of_pos hunit, abs_intCast]
    exact Scaled.moderate_self ⟨c.natAbs, s, by omega, by omega, rfl⟩

namespace Nearest

variable {q : ℚ} {z w : Double}

/-- The error of the nearest number: the rounded quotient is one of the numbers it beats. -/
theorem error_le (h : Nearest q z) (hq : Moderate |q|) : |z.value - q| ≤ |q| / 2 ^ 53 := by
  have habs : (q.num.natAbs / q.den : ℚ) = |q| := by
    conv_rhs => rw [← Rat.num_div_den q, abs_div, Nat.abs_cast, abs_intCast]
  have hmoderate : Moderate (q.num.natAbs / q.den) := by rwa [habs]
  have herror := abs_value_ofRatio_sub_le q.den_pos hmoderate
  rw [habs, Rat.num_div_den] at herror
  exact (h.le _ (isFinite_ofRatio _ q.den_pos hmoderate)).trans herror

/-- A binary64 number is its own nearest. -/
theorem value_eq_self (h : Nearest q z) (hw : w.isFinite = true) (hq : w.value = q) :
    z.value = q := by
  have hle := h.le w hw
  rw [hq, sub_self, abs_zero, abs_nonpos_iff] at hle
  exact sub_eq_zero.1 hle

/-- **An integer of less than 53 bits** is the nearest number of no other integer. -/
theorem int_eq {m n : ℤ} (hm : Nearest m z) (hn : Nearest n z) (hsmall : m.natAbs < 2 ^ 53)
    (hlarge : n.natAbs < 2 ^ 96) : m = n := by
  have hfinite {k : ℤ} (hk : k.natAbs < 2 ^ 96) := (nearest_ofInt hk).isFinite
  have hz := hm.value_eq_self (hfinite (by omega)) (value_ofInt hsmall.le)
  by_cases hle : n.natAbs ≤ 2 ^ 53
  · have hz' := hn.value_eq_self (hfinite hlarge) (value_ofInt hle)
    exact_mod_cast hz.symm.trans hz'
  -- beyond 53 bits the error does not reach down to them
  · have herror := hn.error_le (Plain.moderate (.inl ⟨n, hlarge, rfl⟩))
    have hapart := abs_sub_abs_le_abs_sub (n : ℚ) m
    rw [hz, abs_sub_comm, abs_intCast] at herror
    rw [abs_intCast, abs_intCast] at hapart
    have hm' : (m.natAbs : ℚ) + 1 ≤ 2 ^ 53 := by exact_mod_cast hsmall
    have hn' : (2 : ℚ) ^ 53 + 1 ≤ n.natAbs := by exact_mod_cast not_le.1 hle
    linarith

/-- Two numbers with the same nearest number are close to each other. -/
theorem apart_le {p : ℚ} (hp : Nearest p z) (hq : Nearest q z) (hpm : Moderate |p|)
    (hqm : Moderate |q|) : |p - q| ≤ |p| / 2 ^ 51 := by
  have h := abs_sub_le_of_near (by norm_num) (hp.error_le hpm) (hq.error_le hqm)
  linarith

/-- **A number of at most fifteen digits** is the nearest number of no other number that has no
more places. -/
theorem quotient_eq {c d : ℤ} {s t : Nat} (hc : Nearest (c / 10 ^ s) z)
    (hd : Nearest (d / 10 ^ t) z) (hcm : Moderate |(c / 10 ^ s : ℚ)|)
    (hdm : Moderate |(d / 10 ^ t : ℚ)|) (hdigits : c.natAbs < 10 ^ 15) (hts : t ≤ s) :
    (c / 10 ^ s : ℚ) = d / 10 ^ t := by
  have hunit : (0 : ℚ) < 10 ^ s := by positivity
  have hclose := hc.apart_le hd hcm hdm
  -- in units of the last place both are integers
  have hscale : (d : ℚ) / 10 ^ t = (d * 10 ^ (s - t) : ℤ) / 10 ^ s := by
    rw [← Nat.sub_add_cancel hts, pow_add]
    push_cast
    rw [Nat.sub_add_cancel hts]
    field_simp
  rw [hscale] at hclose ⊢
  rw [← sub_div, abs_div, abs_div, abs_of_pos hunit, div_right_comm,
    div_le_div_iff_of_pos_right hunit, ← Int.cast_sub, ← Int.cast_abs, ← Int.cast_abs] at hclose
  have hshort : ((|c| : ℤ) : ℚ) < 10 ^ 15 := by
    rw [Int.abs_eq_natAbs]
    exact_mod_cast hdigits
  have hlt : |c - d * 10 ^ (s - t)| < 1 := by
    have : ((|c - d * 10 ^ (s - t)| : ℤ) : ℚ) < 1 := by linarith
    exact_mod_cast this
  rw [sub_eq_zero.1 (Int.abs_lt_one_iff.1 hlt)]

/-- **Numbers that are whole or have few digits** and do not reach 53 bits are the nearest numbers
of no other such number. -/
theorem eq_of_plain {p : ℚ} (hp : Nearest p z) (hq : Nearest q z) (hpp : Plain p) (hqp : Plain q)
    (hsmall : |p| < 2 ^ 53) : p = q := by
  have hpm := hpp.moderate
  have hqm := hqp.moderate
  rcases hpp with ⟨m, hm, rfl⟩ | ⟨c, s, hc, hs, rfl⟩ <;>
    rcases hqp with ⟨n, hn, rfl⟩ | ⟨d, t, hd, ht, rfl⟩
  · have hm' : m.natAbs < 2 ^ 53 := by
      rw [abs_intCast] at hsmall
      exact_mod_cast hsmall
    exact_mod_cast hp.int_eq hq hm' hn
  -- the one with more places is the one that has few digits
  · have hwhole : (m : ℚ) = m / 10 ^ 0 := by rw [pow_zero, div_one]
    rw [hwhole] at hp hpm ⊢
    exact (hq.quotient_eq hp hqm hpm hd (Nat.zero_le _)).symm
  · have hwhole : (n : ℚ) = n / 10 ^ 0 := by rw [pow_zero, div_one]
    rw [hwhole] at hq hqm ⊢
    exact hp.quotient_eq hq hpm hqm hc (Nat.zero_le _)
  · rcases le_total t s with hts | hst
    · exact hp.quotient_eq hq hpm hqm hc hts
    · exact (hq.quotient_eq hp hqm hpm hd hst).symm

end Nearest

end CardStore.Double
