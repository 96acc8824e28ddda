/-
  CardStore.Proofs.MySql.Received
  ───────────────────────────────
  **NUMBERS THAT ARE RECEIVED.**

  Integers with a sign are received as they are.  Those without one are put
  into the same 64 bits, so that the upper half of them turns negative.  A span
  of time is received as text, which is read here as a person would read it:

      -27:05:09.000250        sign, hours : minutes : seconds . places

  Its days are counted as hours in a word of 32 bits, and microseconds that
  make a whole second or more are written with more than six places.

  Main statements:
    * `ofText?_timeText` — what the text of a span denotes.
    * `ofText?_timeText_iff` — when these are the parts of the span.
    * `keepsNumbers_iff` — integers and spans together.
-/
import CardStore.MySql.Datum
import CardStore.Proofs.Sql.Native
import Mathlib.Algebra.Order.Field.Basic
import Mathlib.Tactic.Positivity

namespace CardStore

/-! ## §1. Digits with zeros in front. -/

namespace Text

theorem all_isDigit_paddedDigits (width n : Nat) :
    (paddedDigits width n).all Char.isDigit = true := by
  unfold paddedDigits
  rw [List.all_append, all_isDigit_digitChars, Bool.and_true, List.all_eq_true]
  intro c hc
  rw [List.eq_of_mem_replicate hc]
  rfl

theorem digitsValue_paddedDigits (width n : Nat) : digitsValue 0 (paddedDigits width n) = n := by
  have hzeros : ∀ k, digitsValue 0 (List.replicate k '0') = 0 := by
    intro k
    induction k with
    | zero => rfl
    | succ k ih => exact ih
  have hn := digitsValue_digitChars n
  unfold digitsValue at hn hzeros ⊢
  rw [paddedDigits, List.foldl_append, hzeros, hn]

theorem paddedDigits_ne_nil (width n : Nat) : paddedDigits width n ≠ [] :=
  List.append_ne_nil_of_right_ne_nil _ (digitChars_ne_nil n)

theorem length_digitChars_le {n w : Nat} (h : n < 10 ^ (w + 1)) :
    (digitChars n).length ≤ w + 1 := by
  induction n using digitChars.induct generalizing w with
  | case1 n hn =>
    rw [digitChars_of_lt hn]
    exact Nat.le_add_left 1 w
  | case2 n hn ih =>
    rw [digitChars_of_not_lt hn, List.length_append, List.length_singleton]
    cases w with
    | zero => exact absurd h hn
    | succ w =>
      rw [pow_succ] at h
      exact Nat.add_le_add_right (ih (by omega)) 1

theorem lt_pow_length_digitChars (n : Nat) : n < 10 ^ (digitChars n).length := by
  induction n using digitChars.induct with
  | case1 n hn =>
    rw [digitChars_of_lt hn]
    exact hn
  | case2 n hn ih =>
    rw [digitChars_of_not_lt hn, List.length_append, List.length_singleton, pow_succ]
    omega

theorem length_paddedDigits (width n : Nat) :
    (paddedDigits width n).length = max width (digitChars n).length := by
  unfold paddedDigits
  rw [List.length_append, List.length_replicate]
  omega

end Text

/-! ## §2. Spans of time. -/

/-- A span of time. -/
structure TimeSpan where
  negative : Bool
  hours : Nat
  minutes : Nat
  seconds : Nat
  /-- The fraction of a second. -/
  fraction : ℚ

namespace TimeSpan

/-- The number up to a mark, and what follows the mark. -/
def numberBefore? (mark : Char) (cs : List Char) : Option (Nat × List Char) :=
  let (digits, rest) := spanDigits cs
  match rest with
  | [] => none
  | c :: rest => if digits ≠ [] ∧ c = mark then some (digitsValue 0 digits, rest) else none

/-- The span of time that a text denotes: a sign, hours, minutes and seconds with places. -/
def ofText? (s : String) : Option TimeSpan := do
  let (negative, cs) := spanSign s.toList
  let (hours, cs) ← numberBefore? ':' cs
  let (minutes, cs) ← numberBefore? ':' cs
  let (seconds, places) ← numberBefore? '.' cs
  if places ≠ [] ∧ places.all Char.isDigit then
    some ⟨negative, hours, minutes, seconds, digitsValue 0 places / 10 ^ places.length⟩
  else none

theorem numberBefore?_paddedDigits (mark : Char) (hmark : mark.isDigit = false) (width n : Nat)
    (rest : List Char) :
    numberBefore? mark (Text.paddedDigits width n ++ mark :: rest) = some (n, rest) := by
  have hdigits := List.all_eq_true.1 (Text.all_isDigit_paddedDigits width n)
  unfold numberBefore? spanDigits
  rw [List.takeWhile_append_of_pos hdigits, List.dropWhile_append_of_pos hdigits,
    List.takeWhile_cons_of_neg (by simp [hmark]), List.dropWhile_cons_of_neg (by simp [hmark]),
    List.append_nil]
  simp only [Text.paddedDigits_ne_nil, ne_eq, not_false_eq_true, and_self, if_true,
    Text.digitsValue_paddedDigits]

theorem spanSign_paddedDigits (negative : Bool) (width n : Nat) (rest : List Char) :
    spanSign ((if negative then ['-'] else []) ++ (Text.paddedDigits width n ++ rest))
      = (negative, Text.paddedDigits width n ++ rest) := by
  cases negative with
  | true => rfl
  | false =>
    obtain ⟨c, cs, hcs⟩ := List.exists_cons_of_ne_nil (Text.paddedDigits_ne_nil width n)
    have hdigit := List.all_eq_true.1 (Text.all_isDigit_paddedDigits width n) c (by simp [hcs])
    rw [hcs]
    show spanSign (c :: (cs ++ rest)) = (false, c :: (cs ++ rest))
    unfold spanSign
    split
    next h =>
      rw [(List.cons.inj h).1] at hdigit
      cases hdigit
    next h =>
      rw [(List.cons.inj h).1] at hdigit
      cases hdigit
    next => rfl

end TimeSpan

/-! ## §3. What is received. -/

namespace MySql.Datum

/-- The upper half of the numbers without a sign turns negative. -/
theorem toInt_toInt64 (n : UInt64) :
    n.toInt64.toInt = if n.toNat < 2 ^ 63 then (n.toNat : ℤ) else n.toNat - 2 ^ 64 := by
  have hn := n.toNat_lt
  have hwrap : n.toInt64.toInt = (n.toNat : ℤ).bmod (2 ^ 64) :=
    BitVec.toInt_eq_toNat_bmod n.toBitVec
  rw [hwrap, Int.bmod_def]
  split <;> split <;> omega

theorem toList_timeText (negative : Bool) (days : UInt32) (hours minutes seconds : UInt8)
    (micros : UInt32) :
    (timeText negative days hours minutes seconds micros).toList
      = (if negative then ['-'] else [])
        ++ (Text.paddedDigits 2 (days * 24 + hours.toUInt32).toNat ++ ':' ::
          (Text.paddedDigits 2 minutes.toNat ++ ':' ::
            (Text.paddedDigits 2 seconds.toNat ++ '.' :: Text.paddedDigits 6 micros.toNat))) := by
  have hsign : (if negative then "-" else "").toList = if negative then ['-'] else [] := by
    cases negative <;> rfl
  have hcolon : ":".toList = [':'] := rfl
  have hpoint : ".".toList = ['.'] := rfl
  unfold timeText Text.padded
  simp only [String.toList_append, String.toList_ofList, hsign, hcolon, hpoint, List.append_assoc,
    List.singleton_append]
  rfl

/-- **What the text of a span of time denotes**: hours are counted in words of 32 bits, and places
are as many as the microseconds have digits. -/
theorem ofText?_timeText (negative : Bool) (days : UInt32) (hours minutes seconds : UInt8)
    (micros : UInt32) :
    TimeSpan.ofText? (timeText negative days hours minutes seconds micros)
      = some ⟨negative, (days.toNat * 24 + hours.toNat) % 2 ^ 32, minutes.toNat, seconds.toNat,
          micros.toNat / 10 ^ (Text.paddedDigits 6 micros.toNat).length⟩ := by
  have hhours : (days * 24 + hours.toUInt32).toNat = (days.toNat * 24 + hours.toNat) % 2 ^ 32 := by
    have hday : (24 : UInt32).toNat = 24 := rfl
    rw [UInt32.toNat_add, UInt32.toNat_mul, UInt8.toNat_toUInt32, hday]
    omega
  have hplaces : Text.paddedDigits 6 micros.toNat ≠ []
      ∧ (Text.paddedDigits 6 micros.toNat).all Char.isDigit = true :=
    ⟨Text.paddedDigits_ne_nil _ _, Text.all_isDigit_paddedDigits _ _⟩
  unfold TimeSpan.ofText?
  rw [toList_timeText, TimeSpan.spanSign_paddedDigits]
  simp only [TimeSpan.numberBefore?_paddedDigits ':' rfl, Option.bind_eq_bind,
    Option.bind_some, TimeSpan.numberBefore?_paddedDigits '.' rfl]
  rw [if_pos hplaces, Text.digitsValue_paddedDigits, hhours]

/-- The places are the microseconds exactly if there is no whole second among these. -/
theorem micros_div_eq_iff (micros : Nat) :
    (micros / 10 ^ (Text.paddedDigits 6 micros).length : ℚ) = micros / 10 ^ 6
      ↔ micros < 10 ^ 6 := by
  rw [Text.length_paddedDigits]
  constructor
  · intro h
    by_contra hmany
    have hfraction : (micros : ℚ) / 10 ^ max 6 (Text.digitChars micros).length < 1 := by
      rw [div_lt_one (by positivity)]
      have hlt := (Text.lt_pow_length_digitChars micros).trans_le
        (Nat.pow_le_pow_right (by decide) (Nat.le_max_right 6 _))
      exact_mod_cast hlt
    have hwhole : (1 : ℚ) ≤ micros / 10 ^ 6 := by
      rw [one_le_div (by positivity)]
      exact_mod_cast not_lt.1 hmany
    rw [h] at hfraction
    exact hfraction.not_ge hwhole
  · intro h
    rw [max_eq_left (Text.length_digitChars_le h)]

/-- **A span of time keeps its parts** exactly if its hours fit into 32 bits and its microseconds
are less than a second. -/
theorem ofText?_timeText_iff (negative : Bool) (days : UInt32) (hours minutes seconds : UInt8)
    (micros : UInt32) :
    TimeSpan.ofText? (timeText negative days hours minutes seconds micros)
        = some ⟨negative, days.toNat * 24 + hours.toNat, minutes.toNat, seconds.toNat,
            micros.toNat / 10 ^ 6⟩
      ↔ days.toNat * 24 + hours.toNat < 2 ^ 32 ∧ micros.toNat < 10 ^ 6 := by
  rw [ofText?_timeText, ← micros_div_eq_iff, Option.some.injEq, TimeSpan.mk.injEq]
  have hfits : (days.toNat * 24 + hours.toNat) % 2 ^ 32 = days.toNat * 24 + hours.toNat
      ↔ days.toNat * 24 + hours.toNat < 2 ^ 32 := by omega
  simp only [hfits, true_and]

/-- What is received has the numbers that were sent: an integer its value, and the text of a span
of time its sign, the hours of its days and its own, its minutes, seconds and microseconds. -/
def KeepsNumbers : Datum → Prop
  | .int n => ∀ m, toValue (.int n) = .int m → m.toInt = n.toInt
  | .uint n => ∀ m, toValue (.uint n) = .int m → m.toInt = n.toNat
  | .time negative days hours minutes seconds micros =>
    ∃ s, toValue (.time negative days hours minutes seconds micros) = .string s
      ∧ TimeSpan.ofText? s = some ⟨negative, days.toNat * 24 + hours.toNat, minutes.toNat,
          seconds.toNat, micros.toNat / 10 ^ 6⟩
  | _ => True

/-- The numbers that the words of the other side hold. -/
def Fits : Datum → Prop
  | .uint n => n.toNat < 2 ^ 63
  | .time _ days hours _ _ micros => days.toNat * 24 + hours.toNat < 2 ^ 32 ∧ micros.toNat < 10 ^ 6
  | _ => True

/-- **Numbers are kept** exactly if they fit: integers without a sign into 63 bits, the hours of a
span of time into 32, and its microseconds into a second. -/
theorem keepsNumbers_iff (d : Datum) : d.KeepsNumbers ↔ d.Fits := by
  cases d with
  | int n =>
    refine ⟨fun _ => trivial, fun _ m hm => ?_⟩
    cases hm
    rfl
  | uint n =>
    have hwrap := toInt_toInt64 n
    constructor
    · intro hkeeps
      rw [hkeeps _ rfl] at hwrap
      show n.toNat < 2 ^ 63
      split at hwrap <;> omega
    · rintro (hfits : n.toNat < 2 ^ 63) m hm
      cases hm
      rwa [if_pos hfits] at hwrap
  | time negative days hours minutes seconds micros =>
    have hspan := ofText?_timeText_iff negative days hours minutes seconds micros
    constructor
    · rintro ⟨s, hs, hread⟩
      cases hs
      exact hspan.1 hread
    · intro hfits
      exact ⟨_, rfl, hspan.2 hfits⟩
  | _ => exact Iff.rfl

/-- **At the limits of the words** an identifier turns negative, and days turn into the hours of
another span. -/
theorem not_keepsNumbers_wrapped :
    toValue (.uint 9223372036854775808) = .int (-9223372036854775808)
    ∧ ¬ KeepsNumbers (.uint 9223372036854775808)
    ∧ ¬ KeepsNumbers (.time true 178956971 0 0 0 0) := by
  refine ⟨rfl, fun h => absurd (h _ rfl) (by decide), ?_⟩
  rintro ⟨s, hs, hread⟩
  cases hs
  exact absurd ((ofText?_timeText_iff _ _ _ _ _ _).1 hread).1 (by decide)

end MySql.Datum

end CardStore
