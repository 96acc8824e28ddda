/-
  CardStore.Proofs.Json.Lexemes
  ─────────────────────────────
  **NUMBERS AND STRINGS, READ BACK WHERE THEY STAND.**

  A number ends in front of anything but a digit, a point and an exponent, so
  that what it is read as alone it is read as in front of a comma or a bracket.
  A string ends at its closing quote, and what is escaped in it is read as the
  character that it stands for.

      "-12"  ,…        the number -12, and `,…` is left
      "a\n"" ]…        the string of an `a` and a line feed, and `]…` is left

  Of the numbers, an integer is always read back.  Whether a binary64 number
  is depends on how its digits are rounded, and so is a property of each.

  Main statements:
    * `scanUnsigned_append` — a number is read alike alone and in a text.
    * `spells_number` — integers are read back, binary64 numbers if alone they are.
    * `scanString_escaped` — strings are read back.
-/
import CardStore.Proofs.Json.Nesting
import CardStore.Proofs.Text
import CardStore.Text.Digits
import Mathlib.Data.List.TakeWhile

namespace CardStore

/-! ## §1. What stands behind a number. -/

/-- What may stand behind a number. -/
def Json.Delimits (rest : List Char) : Prop :=
  ∀ c ∈ rest.head?, c.isDigit = false ∧ c ≠ '.' ∧ c ≠ 'e' ∧ c ≠ 'E'

namespace Json

variable {rest : List Char}

theorem delimits_nil : Delimits [] := fun _ h => by cases h

theorem spanDigits_append_of_delimits (cs : List Char) (h : Delimits rest) :
    spanDigits (cs ++ rest) = ((spanDigits cs).1, (spanDigits cs).2 ++ rest) := by
  induction cs with
  | nil =>
    cases rest with
    | nil => rfl
    | cons c rest =>
      have hc : c.isDigit = false := (h c rfl).1
      simp [spanDigits, hc]
  | cons c cs ih =>
    rw [spanDigits, Prod.mk.injEq] at ih
    cases hc : c.isDigit with
    | true => simp [spanDigits, hc, ih.1, ih.2]
    | false => simp [spanDigits, hc]

theorem scanPlaces_of_ne {cs : List Char} (h : ∀ c ∈ cs.head?, c ≠ '.') :
    scanPlaces cs = .ok (none, cs) := by
  unfold scanPlaces
  split
  · exact absurd rfl (h '.' rfl)
  · rfl

theorem scanPlaces_point (cs : List Char) : scanPlaces ('.' :: cs)
    = if (spanDigits cs).1.isEmpty then .error (missingDigits (spanDigits cs).2)
      else .ok (some (spanDigits cs).1, (spanDigits cs).2) := rfl

theorem scanPlaces_append {cs : List Char} {p : Option (List Char)} {r : List Char}
    (h : Delimits rest) (hcs : scanPlaces cs = .ok (p, r)) :
    scanPlaces (cs ++ rest) = .ok (p, r ++ rest) := by
  cases cs with
  | nil =>
    cases hcs
    exact scanPlaces_of_ne fun c hc => (h c hc).2.1
  | cons c cs =>
    by_cases hc : c = '.'
    · subst hc
      rw [scanPlaces_point] at hcs
      rw [List.cons_append, scanPlaces_point, spanDigits_append_of_delimits cs h]
      split at hcs
      · cases hcs
      · rename_i hplaces
        rw [if_neg hplaces]
        cases hcs
        rfl
    · have hne : ∀ d ∈ (c :: cs).head?, d ≠ '.' := by
        rintro d ⟨⟩
        exact hc
      rw [scanPlaces_of_ne hne] at hcs
      cases hcs
      exact scanPlaces_of_ne hne

theorem scanExponent_of_delimits (h : Delimits rest) : scanExponent rest = .ok (none, rest) := by
  cases rest with
  | nil => rfl
  | cons c rest =>
    have hc := (h c rfl).2.2
    rw [scanExponent, if_neg (not_or.2 hc)]

theorem spanSign_append {cs : List Char} (hcs : cs ≠ []) (rest : List Char) :
    spanSign (cs ++ rest) = ((spanSign cs).1, (spanSign cs).2 ++ rest) := by
  obtain ⟨c, cs, rfl⟩ := List.exists_cons_of_ne_nil hcs
  unfold spanSign
  split <;> simp_all

theorem scanExponent_append {cs : List Char} {e : Option Int} {r : List Char}
    (h : Delimits rest) (hcs : scanExponent cs = .ok (e, r)) :
    scanExponent (cs ++ rest) = .ok (e, r ++ rest) := by
  cases cs with
  | nil =>
    cases hcs
    exact scanExponent_of_delimits h
  | cons c cs =>
    rw [scanExponent] at hcs
    rw [List.cons_append, scanExponent]
    split at hcs
    · rename_i he
      rw [if_pos he]
      dsimp only at hcs ⊢
      split at hcs
      · cases hcs
      · rename_i hdigits
        -- a sign alone has no digits behind it
        have hne : cs ≠ [] := by
          rintro rfl
          exact hdigits rfl
        rw [spanSign_append hne, spanDigits_append_of_delimits _ h, if_neg hdigits]
        cases hcs
        rfl
    · rename_i he
      rw [if_neg he]
      cases hcs
      rfl

/-- **A number is read alike** alone and in front of what may stand behind it. -/
theorem scanUnsigned_append {negative : Bool} {cs : List Char} {n : Option Number}
    (h : Delimits rest) (hcs : scanUnsigned negative cs = .ok (n, [])) :
    scanUnsigned negative (cs ++ rest) = .ok (n, rest) := by
  unfold scanUnsigned at hcs ⊢
  rw [spanDigits_append_of_delimits cs h]
  dsimp only at hcs ⊢
  split at hcs
  · cases hcs
  · cases hcs
  -- the whole part, the places and the exponent each stop in front of the rest
  · obtain ⟨⟨places, r⟩, hplaces, hcs⟩ := bind_eq_ok_iff.1 hcs
    obtain ⟨⟨exponent, r'⟩, hexponent, hcs⟩ := bind_eq_ok_iff.1 hcs
    refine bind_eq_ok_iff.2 ⟨_, scanPlaces_append h hplaces, ?_⟩
    refine bind_eq_ok_iff.2 ⟨_, scanExponent_append h hexponent, ?_⟩
    dsimp only at hcs ⊢
    split at hcs
    · cases hcs
      rfl
    · cases hcs
      rfl

/-! ## §2. Numbers. -/

/-- Whether characters alone are read as a number. -/
inductive Spells (n : Number) : List Char → Prop where
  | negative {cs : List Char} : scanUnsigned true cs = .ok (some n, []) → Spells n ('-' :: cs)
  | plain {c : Char} {cs : List Char} : c.isDigit = true →
      scanUnsigned false (c :: cs) = .ok (some n, []) → Spells n (c :: cs)

theorem scanUnsigned_digitChars (negative : Bool) (n : Nat) :
    scanUnsigned negative (Text.digitChars n)
      = .ok (integerOf? negative (Text.digitChars n), []) := by
  have hspan : spanDigits (Text.digitChars n) = (Text.digitChars n, []) := by
    have hall := List.all_eq_true.1 (Text.all_isDigit_digitChars n)
    rw [spanDigits, List.takeWhile_eq_self_iff.2 hall, List.dropWhile_eq_nil_iff.2 hall]
  unfold scanUnsigned
  rw [hspan]
  dsimp only
  split
  · rename_i heq
    exact absurd heq (Text.digitChars_ne_nil n)
  -- a zero in front of other digits is not a number that is written out
  · rename_i c cs heq
    have hzero : n = 0 := by
      by_contra hn
      exact Text.head?_digitChars hn (heq ▸ rfl)
    rw [hzero, Text.digitChars_of_lt (by decide)] at heq
    cases heq
  · rfl

theorem integerOf?_digitChars_neg {n : Int} (hn : -2 ^ 63 ≤ n ∧ n < 2 ^ 64) (h : n < 0) :
    integerOf? true (Text.digitChars n.natAbs) = some (.int n hn) := by
  have habs : -(n.natAbs : Int) = n := by omega
  have hne : (n.natAbs : Int) ≠ 0 := by omega
  unfold integerOf?
  dsimp only
  rw [Text.digitsValue_digitChars, if_pos rfl, if_neg hne, habs, Number.ofInt?, dif_pos hn]
  rfl

theorem integerOf?_digitChars {n : Int} (hn : -2 ^ 63 ≤ n ∧ n < 2 ^ 64) (h : ¬ n < 0) :
    integerOf? false (Text.digitChars n.natAbs) = some (.int n hn) := by
  have habs : (n.natAbs : Int) = n := by omega
  unfold integerOf?
  dsimp only
  rw [Text.digitsValue_digitChars, if_neg Bool.false_ne_true, habs, Number.ofInt?, dif_pos hn]
  rfl

/-- An integer is read back from its digits. -/
theorem spells_int (n : Int) (hn : -2 ^ 63 ≤ n ∧ n < 2 ^ 64) :
    Spells (.int n hn) (Text.ofInt n).toList := by
  unfold Text.ofInt Text.ofNat
  by_cases h : n < 0
  · have hscan := scanUnsigned_digitChars true n.natAbs
    rw [integerOf?_digitChars_neg hn h] at hscan
    rw [if_pos h, String.toList_append]
    show Spells _ ('-' :: (String.ofList (Text.digitChars n.natAbs)).toList)
    rw [String.toList_ofList]
    exact .negative hscan
  · rw [if_neg h, String.toList_ofList]
    have hscan := scanUnsigned_digitChars false n.natAbs
    have hall := List.all_eq_true.1 (Text.all_isDigit_digitChars n.natAbs)
    rw [integerOf?_digitChars hn h] at hscan
    obtain ⟨c, cs, hcs⟩ := List.exists_cons_of_ne_nil (Text.digitChars_ne_nil n.natAbs)
    rw [hcs] at hscan hall ⊢
    exact .plain (hall c List.mem_cons_self) hscan

theorem skipBlanks_cons {c : Char} (h : isBlank c = false) (cs : List Char) :
    skipBlanks (c :: cs) = c :: cs := by
  rw [skipBlanks, List.dropWhile_cons_of_neg (by rw [h]; exact Bool.false_ne_true)]

theorem isBlank_of_isDigit {c : Char} (h : c.isDigit = true) : isBlank c = false := by
  unfold isBlank
  rw [decide_eq_false_iff_not]
  rintro (rfl | rfl | rfl | rfl) <;> cases h

theorem scanNumber_of_ok {negative : Bool} {cs : List Char} {n : Option Number}
    (h : scanUnsigned negative cs = .ok (n, rest)) :
    scanNumber negative cs = (.number n, rest) := by
  rw [scanNumber, h]

/-- What begins with a minus or a digit is scanned as a number. -/
theorem scanValue_minus (fuel : Fuel) (cs : List Char) :
    scanValue (fuel + 1) ('-' :: cs) = scanNumber true cs := by
  rw [scanValue, skipBlanks_cons rfl]
  rfl

theorem scanValue_digit (fuel : Fuel) {c : Char} (hc : c.isDigit = true) (cs : List Char) :
    scanValue (fuel + 1) (c :: cs) = scanNumber false (c :: cs) := by
  have hne : c ≠ 'n' ∧ c ≠ 't' ∧ c ≠ 'f' ∧ c ≠ '-' := by
    refine ⟨?_, ?_, ?_, ?_⟩ <;> (rintro rfl; cases hc)
  rw [scanValue, skipBlanks_cons (isBlank_of_isDigit hc)]
  simp only [if_neg hne.1, if_neg hne.2.1, if_neg hne.2.2.1, if_neg hne.2.2.2, if_pos hc]

theorem Spells.scanValue {n : Number} {cs : List Char} (h : Spells n cs) (hrest : Delimits rest)
    (fuel : Fuel) : scanValue (fuel + 1) (cs ++ rest) = (.number (some n), rest) := by
  cases h with
  | negative hscan =>
    rw [List.cons_append, scanValue_minus]
    exact scanNumber_of_ok (scanUnsigned_append hrest hscan)
  | plain hc hscan =>
    rw [List.cons_append, scanValue_digit fuel hc]
    exact scanNumber_of_ok (scanUnsigned_append hrest hscan)

/-! ## §3. Binary numbers. -/

theorem scanPlaces_suffix {cs : List Char} {p : Option (List Char)} {r : List Char}
    (h : scanPlaces cs = .ok (p, r)) : r <:+ cs := by
  unfold scanPlaces at h
  split at h
  · dsimp only at h
    split at h
    · cases h
    · cases h
      exact (List.dropWhile_suffix _).trans (List.suffix_cons _ _)
  · cases h
    exact List.suffix_refl _

theorem spanSign_suffix (cs : List Char) : (spanSign cs).2 <:+ cs := by
  unfold spanSign
  split
  · exact List.suffix_cons _ _
  · exact List.suffix_cons _ _
  · exact List.suffix_refl _

theorem scanExponent_suffix {cs : List Char} {e : Option Int} {r : List Char}
    (h : scanExponent cs = .ok (e, r)) : r <:+ cs := by
  cases cs with
  | nil =>
    cases h
    exact List.suffix_refl _
  | cons c cs =>
    rw [scanExponent] at h
    dsimp only at h
    split at h
    · split at h
      · cases h
      · cases h
        exact ((List.dropWhile_suffix _).trans (spanSign_suffix cs)).trans (List.suffix_cons _ _)
    · cases h
      exact List.suffix_refl _

/-- What is left behind a number is the end of the text. -/
theorem scanUnsigned_suffix {negative : Bool} {cs : List Char} {n : Option Number} {r : List Char}
    (h : scanUnsigned negative cs = .ok (n, r)) : r <:+ cs := by
  unfold scanUnsigned at h
  dsimp only at h
  split at h
  · cases h
  · cases h
  · obtain ⟨⟨places, r₁⟩, hplaces, h⟩ := bind_eq_ok_iff.1 h
    obtain ⟨⟨exponent, r₂⟩, hexponent, h⟩ := bind_eq_ok_iff.1 h
    have hr : r₂ <:+ cs := ((scanExponent_suffix hexponent).trans (scanPlaces_suffix hplaces)).trans
      (List.dropWhile_suffix _)
    dsimp only at h
    split at h
    · cases h
      exact hr
    · cases h
      exact hr

theorem scanNumber_eq_number {negative : Bool} {cs : List Char} {n : Option Number}
    (h : scanNumber negative cs = (.number n, rest)) :
    scanUnsigned negative cs = .ok (n, rest) := by
  unfold scanNumber at h
  split at h
  · rename_i hscan
    cases h
    exact hscan
  · cases h

/-- A word is not read as a number. -/
theorem scanWord_ne_number {node : Node} (hnode : ∀ n, node ≠ .number n) (ws cs : List Char)
    (n : Option Number) : (scanWord ws node cs).1 ≠ .number n := by
  induction ws generalizing cs with
  | nil => exact hnode n
  | cons w ws ih =>
    cases cs with
    | nil => exact Node.noConfusion
    | cons c cs =>
      rw [scanWord]
      split
      · exact ih cs
      · exact Node.noConfusion

theorem skipBlanks_eq_nil {cs : List Char} (hcs : ∀ c ∈ cs, isBlank c = false)
    (h : skipBlanks cs = []) : cs = [] := by
  cases cs with
  | nil => rfl
  | cons c cs =>
    rw [skipBlanks_cons (hcs c List.mem_cons_self)] at h
    cases h

/-- What is scanned as a number, without blanks around it, is read as that number alone. -/
theorem spells_of_scanValue {fuel : Fuel} {cs : List Char} {n : Number}
    (hcs : ∀ c ∈ cs, isBlank c = false) (h : scanValue fuel cs = (.number (some n), rest))
    (hrest : skipBlanks rest = []) : Spells n cs := by
  -- what is left is the end of a text without blanks, and blanks at most
  have hnil : ∀ {negative : Bool} {ds : List Char}, ds <:+ cs →
      scanNumber negative ds = (.number (some n), rest) →
      scanUnsigned negative ds = .ok (some n, []) := by
    intro negative ds hds hscan
    have hunsigned := scanNumber_eq_number hscan
    have hsuffix := (scanUnsigned_suffix hunsigned).trans hds
    rwa [skipBlanks_eq_nil (fun c hc => hcs c (hsuffix.subset hc)) hrest] at hunsigned
  cases fuel with
  | zero => cases h
  | succ fuel =>
    cases cs with
    | nil => cases h
    | cons c cs =>
      rw [scanValue, skipBlanks_cons (hcs c List.mem_cons_self)] at h
      dsimp only at h
      split at h
      · exact absurd (congrArg Prod.fst h) (scanWord_ne_number (fun _ => Node.noConfusion) _ _ _)
      split at h
      · exact absurd (congrArg Prod.fst h) (scanWord_ne_number (fun _ => Node.noConfusion) _ _ _)
      split at h
      · exact absurd (congrArg Prod.fst h) (scanWord_ne_number (fun _ => Node.noConfusion) _ _ _)
      split at h
      · rename_i hminus
        subst hminus
        exact .negative (hnil (List.suffix_cons _ _) h)
      split at h
      · rename_i hdigit
        exact .plain hdigit (hnil (List.suffix_refl _) h)
      split at h
      · split at h <;> cases h
      split at h
      · cases h
      split at h
      · cases h
      · cases h

/-- The binary64 number that a value is. -/
def double? : Json → Option Double
  | .number (.float x _) => some x
  | _ => none

theorem double?_eq_some_iff {j : Json} {x : Double} :
    j.double? = some x ↔ ∃ hx, j = .number (.float x hx) := by
  constructor
  · intro h
    cases j with
    | number n =>
      cases n with
      | int _ _ => cases h
      | float y hy =>
        cases h
        exact ⟨hy, rfl⟩
    | _ => cases h
  · rintro ⟨hx, rfl⟩
    rfl

end Json

namespace Double

/-- Whether the text of a number is read back as the number. -/
def ReadsBack (x : Double) : Prop :=
  ∃ hx : x.isFinite = true, Json.ofText x.toJsonText = .ok (.number (.float x hx))

/-- What is read of the text of a number. -/
def readBack? (x : Double) : Option Double :=
  (Json.ofText x.toJsonText).toOption.bind Json.double?

theorem readsBack_iff (x : Double) : x.ReadsBack ↔ x.readBack? = some x := by
  unfold ReadsBack readBack?
  constructor
  · rintro ⟨hx, h⟩
    rw [h]
    rfl
  · intro h
    obtain ⟨j, hj, hdouble⟩ := Option.bind_eq_some_iff.1 h
    obtain ⟨hx, rfl⟩ := Json.double?_eq_some_iff.1 hdouble
    refine ⟨hx, ?_⟩
    cases hread : Json.ofText x.toJsonText with
    | error e =>
      rw [hread] at hj
      cases hj
    | ok i =>
      rw [hread] at hj
      rw [Option.some.inj hj]

instance (x : Double) : Decidable x.ReadsBack := decidable_of_iff _ x.readsBack_iff.symm

/-- Whether a text has no blanks. -/
def Solid (s : String) : Prop := s.toList.all (fun c => !Json.isBlank c) = true

theorem Solid.append {s t : String} (hs : Solid s) (ht : Solid t) : Solid (s ++ t) := by
  unfold Solid at hs ht ⊢
  rw [String.toList_append, List.all_append, hs, ht]
  rfl

theorem isBlank_digitChar (d : Nat) : Json.isBlank (Layout.digitChar d) = false := by
  have hcode : (Layout.digitChar d).toNat = 0 ∨ 33 ≤ (Layout.digitChar d).toNat := by
    by_cases hvalid : (48 + d).isValidChar
    · have heq : (Layout.digitChar d).toNat = 48 + d := by
        rw [Layout.digitChar, Char.ofNat, dif_pos hvalid]
        rfl
      omega
    · have heq : (Layout.digitChar d).toNat = 0 := by
        rw [Layout.digitChar, Char.ofNat, dif_neg hvalid]
        rfl
      omega
  unfold Json.isBlank
  rw [decide_eq_false_iff_not]
  -- every blank has a code between
  rintro (h | h | h | h) <;> (rw [h] at hcode; revert hcode; decide)

theorem solid_digitsText (ds : List Nat) : Solid (Layout.digitsText ds) := by
  unfold Solid
  rw [Layout.digitsText, String.toList_ofList, List.all_map, List.all_eq_true]
  intro d _
  rw [Function.comp_apply, isBlank_digitChar]
  rfl

theorem solid_positionalText (d : Digits) : Solid (jsonLayout.positionalText d) := by
  have hdigits := solid_digitsText
  unfold Layout.positionalText
  dsimp only
  split
  · exact .append rfl (hdigits _)
  split
  · exact .append (hdigits _) rfl
  · exact .append (.append (hdigits _) rfl) (hdigits _)

theorem solid_exponentText (d : Digits) : Solid (jsonLayout.exponentText d) := by
  have hdigits := solid_digitsText
  unfold Layout.exponentText
  dsimp only
  refine .append (.append ?_ ?_) (hdigits _)
  · split
    · exact hdigits _
    · exact .append (.append (hdigits _) rfl) (hdigits _)
  · split
    · rfl
    · rfl

theorem solid_toJsonText (x : Double) : Solid x.toJsonText := by
  unfold toJsonText Layout.text
  generalize Digits.shortest jsonLayout.tie x = d
  have hlaid : ∀ plain : Bool,
      Solid (if plain then jsonLayout.positionalText d else jsonLayout.exponentText d)
    | true => solid_positionalText d
    | false => solid_exponentText d
  refine .append ?_ (hlaid _)
  cases x.negative <;> rfl

end Double

namespace Json

theorem exists_scanValue_of_scan {s : String} {n : Node} (hn : (scan s).node = n)
    (hended : (scan s).ended = true) : ∃ rest,
      scanValue (2 * s.toList.length + 2) s.toList = (n, rest) ∧ skipBlanks rest = [] :=
  ⟨(scanValue (2 * s.toList.length + 2) s.toList).2, Prod.ext hn rfl, List.isEmpty_iff.1 hended⟩

theorem spells_float {x : Double} (h : x.ReadsBack) (hx : x.isFinite = true) :
    Spells (.float x hx) x.toJsonText.toList := by
  obtain ⟨hx', hread⟩ := h
  obtain ⟨hnode, hended⟩ := readText_eq_ok_iff.1 hread
  obtain ⟨i, hi, -, hsettled⟩ := readJson_eq_ok_iff.1 hnode
  have hnumber : i = .number (.float x hx) := by
    cases i <;> cases hsettled
    rfl
  have hsolid : ∀ c ∈ x.toJsonText.toList, isBlank c = false := fun c hc =>
    Bool.not_eq_true' _ ▸ List.all_eq_true.1 x.solid_toJsonText c hc
  rw [hnumber] at hi
  obtain ⟨rest, hscan, hrest⟩ := exists_scanValue_of_scan hi hended
  exact spells_of_scanValue hsolid hscan hrest

/-- **Numbers are read back**: an integer always, a binary64 number if it is read back alone. -/
theorem spells_number (n : Number) (h : ∀ x hx, n = .float x hx → x.ReadsBack) :
    Spells n n.text.toList := by
  cases n with
  | int n hn => exact spells_int n hn
  | float x hx => exact spells_float (h x hx rfl) hx

/-! ## §4. Strings. -/

/-- A piece of a string that stands for a character. -/
def Piece.Denotes (p : Piece) (c : Char) : Prop :=
  ∀ ps, joinPieces none none (p :: ps) = (joinPieces none none ps).map (c :: ·)

theorem denotes_char (c : Char) : (Piece.char c).Denotes c := fun _ => rfl

/-- The code unit of a control character stands for it. -/
theorem denotes_unit {c : Char} (h : c.toNat < 0x20) : (Piece.unit c.toNat).Denotes c := by
  intro ps
  have hlow : isLowSurrogate c.toNat = false := by
    rw [isLowSurrogate, Bool.and_eq_false_iff, decide_eq_false_iff_not]
    omega
  have hhigh : isHighSurrogate c.toNat = false := by
    rw [isHighSurrogate, Bool.and_eq_false_iff, decide_eq_false_iff_not]
    omega
  rw [joinPieces, hlow, hhigh, Char.ofNat_toNat]
  rfl

theorem scanPieces_plain {c : Char} (hquote : c ≠ '"') (hslash : c ≠ '\\')
    (hcode : 0x20 ≤ c.toNat) (cs : List Char) :
    scanPieces .plain (c :: cs)
      = (.char c :: (scanPieces .plain cs).1, (scanPieces .plain cs).2) := by
  rw [scanPieces, if_neg hquote, if_neg hslash, if_neg (by omega)]

theorem scanPieces_letter {c d : Char} (hu : c ≠ 'u') (h : escapedChar? c = some d)
    (cs : List Char) : scanPieces .plain ('\\' :: c :: cs)
      = (.char d :: (scanPieces .plain cs).1, (scanPieces .plain cs).2) := by
  rw [scanPieces, if_neg (by decide), if_pos rfl, scanPieces, if_neg hu, h]

/-- The four digits of a code unit. -/
theorem hexDigits_four (n : Nat) : Text.hexDigits 4 n = [Text.hexChar (n / 4096 % 16),
    Text.hexChar (n / 256 % 16), Text.hexChar (n / 16 % 16), Text.hexChar (n % 16)] := by
  simp [Text.hexDigits, List.range_succ]

theorem scanPieces_unit {n : Nat} (hn : n < 0x10000) (cs : List Char) :
    scanPieces .plain ('\\' :: 'u' :: (Text.hexDigits 4 n ++ cs))
      = (.unit n :: (scanPieces .plain cs).1, (scanPieces .plain cs).2) := by
  have hvalue : ∀ k, Text.hexValue? (Text.hexChar (k % 16)) = some (k % 16) := fun k =>
    Text.Hex.hexValue?_hexChar _ (Nat.mod_lt _ (by decide))
  rw [hexDigits_four]
  have hbegins : beginsWithHex 4 ([Text.hexChar (n / 4096 % 16), Text.hexChar (n / 256 % 16),
      Text.hexChar (n / 16 % 16), Text.hexChar (n % 16)] ++ cs) = true := by
    simp [beginsWithHex, hvalue]
  have hsum : 16 * (16 * (16 * (16 * 0 + n / 4096 % 16) + n / 256 % 16) + n / 16 % 16) + n % 16
      = n := by omega
  rw [scanPieces, if_neg (by decide), if_pos rfl, scanPieces, if_pos rfl, if_pos hbegins]
  simp only [List.cons_append, List.nil_append, scanPieces, hvalue, Option.getD_some, hsum]
  rfl

/-- What a character is written as is read as one piece, which stands for the character. -/
theorem exists_scanPieces_escapeChar (c : Char) : ∃ p : Piece, p.Denotes c ∧
    ∀ cs, scanPieces .plain (escapeChar c ++ cs)
      = (p :: (scanPieces .plain cs).1, (scanPieces .plain cs).2) := by
  have hletter : ∀ {l : Char} {n : Nat}, l ≠ 'u' → escapedChar? l = some (Char.ofNat n) →
      c.toNat = n → ∀ cs, scanPieces .plain (['\\', l] ++ cs)
        = (.char c :: (scanPieces .plain cs).1, (scanPieces .plain cs).2) := by
    rintro l n hu hl rfl cs
    rw [Char.ofNat_toNat] at hl
    exact scanPieces_letter hu hl cs
  unfold escapeChar
  split
  · rename_i hc
    subst hc
    exact ⟨_, denotes_char _, scanPieces_letter (by decide) rfl⟩
  split
  · rename_i hc
    subst hc
    exact ⟨_, denotes_char _, scanPieces_letter (by decide) rfl⟩
  split
  · rename_i hquote hslash hcode
    exact ⟨.char c, denotes_char c, fun cs => scanPieces_plain hquote hslash hcode cs⟩
  split
  · exact ⟨.char c, denotes_char c, hletter (by decide) rfl ‹_›⟩
  split
  · exact ⟨.char c, denotes_char c, hletter (by decide) rfl ‹_›⟩
  split
  · exact ⟨.char c, denotes_char c, hletter (by decide) rfl ‹_›⟩
  split
  · exact ⟨.char c, denotes_char c, hletter (by decide) rfl ‹_›⟩
  split
  · exact ⟨.char c, denotes_char c, hletter (by decide) rfl ‹_›⟩
  · have hcode : c.toNat < 0x20 := by omega
    exact ⟨.unit c.toNat, denotes_unit hcode, fun cs => scanPieces_unit (by omega) cs⟩

theorem scanPieces_escaped (cs rest : List Char) :
    joinPieces none none (scanPieces .plain (cs.flatMap escapeChar ++ '"' :: rest)).1 = .ok cs
      ∧ (scanPieces .plain (cs.flatMap escapeChar ++ '"' :: rest)).2 = .ok rest := by
  induction cs with
  | nil => exact ⟨rfl, rfl⟩
  | cons c cs ih =>
    obtain ⟨p, hp, hscan⟩ := exists_scanPieces_escapeChar c
    rw [List.flatMap_cons, List.append_assoc, hscan]
    refine ⟨?_, ih.2⟩
    rw [hp, ih.1]
    rfl

/-- **Strings are read back**, and what stands behind them is left. -/
theorem scanString_escaped (s : String) (rest : List Char) :
    scanString (s.toList.flatMap escapeChar ++ '"' :: rest) = .ok (.ok s, rest) := by
  obtain ⟨hpieces, hending⟩ := scanPieces_escaped s.toList rest
  unfold scanString
  dsimp only
  rw [hending]
  dsimp only
  rw [hpieces]
  show Except.ok (Except.ok (String.ofList s.toList), rest) = _
  rw [String.ofList_toList]

end Json

end CardStore
