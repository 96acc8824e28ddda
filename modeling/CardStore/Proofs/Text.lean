/-
  CardStore.Proofs.Text
  ─────────────────────
  **LETTER CASE, BYTES AND DIGITS OF TEXT.**

  Letter case is that of the letters A to Z, which lie 32 apart.  In UTF-8 a
  character is a first byte and up to three that continue it.  A first byte
  is never one that continues, so that a place between two bytes is one
  between two characters exactly if no byte behind it continues.

      a  é      €         a    é     €
      61 C3 A9  E2 82 AC  0xxx 110x… 1110… 10xx…

  The text of a natural number has digits only, at least one, and none of
  them is a zero in front of others.  Read as digits it gives the number.

  Main statements:
    * `Utf8.decodeFrom_encodeChar`, `Utf8.text?_encode` — the bytes of a character, and
      those of a text, are read back as it.
    * `Utf8.slice?_eq_some_iff` — a text is cut between two characters only.
    * `Utf8.startsWithIgnoreCase_encode` — comparing bytes is comparing characters.
    * `digitsValue_digitChars`, `head?_digitChars` — the digits of a number.
-/
import CardStore.Number.Numeral
import CardStore.Text.Ascii
import CardStore.Text.Digits
import CardStore.Text.Utf8

namespace CardStore.Text

/-! ## §1. Letter case. -/

theorem toNat_toLower (c : Char) :
    c.toLower.toNat = if 65 ≤ c.toNat ∧ c.toNat ≤ 90 then c.toNat + 32 else c.toNat := by
  unfold Char.toLower
  by_cases h : c.val ≥ 'A'.val ∧ c.val ≤ 'Z'.val
  · have hrange : 65 ≤ c.val.toNat ∧ c.val.toNat ≤ 90 := by
      rw [ge_iff_le, UInt32.le_iff_toNat_le, UInt32.le_iff_toNat_le] at h
      exact h
    have hsum : (c.val + ('a'.val - 'A'.val)).toNat = (c.val.toNat + 32) % 2 ^ 32 :=
      UInt32.toNat_add _ _
    rw [dif_pos h]
    show (c.val + ('a'.val - 'A'.val)).toNat
      = if 65 ≤ c.val.toNat ∧ c.val.toNat ≤ 90 then c.val.toNat + 32 else c.val.toNat
    rw [hsum, if_pos hrange]
    omega
  · have hrange : ¬ (65 ≤ c.val.toNat ∧ c.val.toNat ≤ 90) := by
      rw [ge_iff_le, UInt32.le_iff_toNat_le, UInt32.le_iff_toNat_le] at h
      exact h
    rw [dif_neg h]
    exact (if_neg hrange).symm

theorem toNat_toUpper (c : Char) :
    c.toUpper.toNat = if 97 ≤ c.toNat ∧ c.toNat ≤ 122 then c.toNat - 32 else c.toNat := by
  unfold Char.toUpper
  by_cases h : 'a'.val ≤ c.val ∧ c.val ≤ 'z'.val
  · have hrange : 97 ≤ c.val.toNat ∧ c.val.toNat ≤ 122 := by
      rw [UInt32.le_iff_toNat_le, UInt32.le_iff_toNat_le] at h
      exact h
    have hsum : (c.val + ('A'.val - 'a'.val)).toNat = (c.val.toNat + 4294967264) % 2 ^ 32 :=
      UInt32.toNat_add _ _
    rw [dif_pos h]
    show (c.val + ('A'.val - 'a'.val)).toNat
      = if 97 ≤ c.val.toNat ∧ c.val.toNat ≤ 122 then c.val.toNat - 32 else c.val.toNat
    rw [hsum, if_pos hrange]
    omega
  · have hrange : ¬ (97 ≤ c.val.toNat ∧ c.val.toNat ≤ 122) := by
      rw [UInt32.le_iff_toNat_le, UInt32.le_iff_toNat_le] at h
      exact h
    rw [dif_neg h]
    exact (if_neg hrange).symm

theorem char_eq_of_toNat {c d : Char} (h : c.toNat = d.toNat) : c = d := by
  rw [← Char.ofNat_toNat c, h, Char.ofNat_toNat]

theorem toUpper_toLower (c : Char) : c.toLower.toUpper = c.toUpper := by
  apply char_eq_of_toNat
  rw [toNat_toUpper, toNat_toLower, toNat_toUpper]
  by_cases h : 65 ≤ c.toNat ∧ c.toNat ≤ 90
  · rw [if_pos h, if_pos (by omega), if_neg (by omega)]
    omega
  · rw [if_neg h]

/-- Texts that differ in letter case at most have the same capitals. -/
theorem map_toUpper_eq_of_map_toLower_eq {cs ds : List Char}
    (h : cs.map Char.toLower = ds.map Char.toLower) :
    cs.map Char.toUpper = ds.map Char.toUpper := by
  have hcapitals : ∀ cs : List Char, (cs.map Char.toLower).map Char.toUpper
      = cs.map Char.toUpper := by
    intro cs
    rw [List.map_map, show Char.toUpper ∘ Char.toLower = Char.toUpper from funext toUpper_toLower]
  rw [← hcapitals cs, h, hcapitals]

theorem toLower_toUpper (c : Char) : c.toUpper.toLower = c.toLower := by
  apply char_eq_of_toNat
  rw [toNat_toLower, toNat_toUpper, toNat_toLower]
  by_cases h : 97 ≤ c.toNat ∧ c.toNat ≤ 122
  · rw [if_pos h, if_pos (by omega), if_neg (by omega)]
    omega
  · rw [if_neg h]

theorem toUpper_toUpper (c : Char) : c.toUpper.toUpper = c.toUpper := by
  apply char_eq_of_toNat
  rw [toNat_toUpper, toNat_toUpper]
  by_cases h : 97 ≤ c.toNat ∧ c.toNat ≤ 122
  · rw [if_pos h, if_neg (by omega)]
  · rw [if_neg h, if_neg h]

/-- A word stands at the front of a text if the characters there are those of the word, letter case
aside. -/
theorem isSome_dropIgnoreCase?_iff {ws cs : List Char} : (dropIgnoreCase? ws cs).isSome = true
    ↔ (cs.take ws.length).map Char.toLower = ws.map Char.toLower := by
  induction ws generalizing cs with
  | nil => simp [dropIgnoreCase?]
  | cons w ws ih =>
    cases cs with
    | nil => simp [dropIgnoreCase?]
    | cons c cs =>
      rw [dropIgnoreCase?]
      by_cases h : w.toLower = c.toLower
      · simp [h, ih]
      · simp [h, Ne.symm h]

/-! ## §2. Characters as bytes. -/

namespace Utf8

/-- A byte that continues a character. -/
def isContinuation (b : UInt8) : Bool := 0x80 ≤ b.toNat && b.toNat < 0xC0

theorem toNat_byte {n : Nat} (h : n < 256) : (byte n).toNat = n := by
  rw [byte, UInt8.toNat_ofNat']
  exact Nat.mod_eq_of_lt h

theorem toNat_lt (c : Char) : c.toNat < 0xD800 ∨ 0xDFFF < c.toNat ∧ c.toNat < 0x110000 :=
  c.valid

theorem encodeChar_of_ascii {c : Char} (h : c.toNat < 0x80) : encodeChar c = [byte c.toNat] :=
  if_pos h

theorem ascii_of_all {cs : List Char} (h : (cs.all fun c => c.toNat < 0x80) = true) :
    ∀ c ∈ cs, c.toNat < 0x80 := fun c hc => of_decide_eq_true (List.all_eq_true.1 h c hc)

theorem length_flatMap_of_ascii {cs : List Char} (h : ∀ c ∈ cs, c.toNat < 0x80) :
    (cs.flatMap encodeChar).length = cs.length := by
  induction cs with
  | nil => rfl
  | cons c cs ih =>
    obtain ⟨hc, hcs⟩ := List.forall_mem_cons.1 h
    rw [List.flatMap_cons, encodeChar_of_ascii hc, List.length_append, ih hcs, List.length_cons,
      Nat.add_comm]
    rfl

/-- **The shape of a character**: a first byte, which is the character itself or above all that
continue, and then bytes that continue it. -/
theorem encodeChar_eq (c : Char) : ∃ b bs, encodeChar c = b :: bs ∧ isContinuation b = false
    ∧ (∀ b' ∈ bs, isContinuation b' = true) ∧ (0x80 ≤ c.toNat → 0xC0 ≤ b.toNat) := by
  have hc := toNat_lt c
  have hnext : ∀ n, isContinuation (byte (0x80 + n % 64)) = true := by
    intro n
    rw [isContinuation, toNat_byte (by omega)]
    simp
    omega
  have hfirst : ∀ n, 0xC0 ≤ n → n < 256 →
      isContinuation (byte n) = false ∧ 0xC0 ≤ (byte n).toNat := by
    intro n hlow hhigh
    rw [isContinuation, toNat_byte hhigh]
    simp
    omega
  unfold encodeChar
  dsimp only
  by_cases h1 : c.toNat < 0x80
  · rw [if_pos h1]
    refine ⟨_, _, rfl, ?_, by simp, by omega⟩
    rw [isContinuation, toNat_byte (by omega)]
    simp
    omega
  by_cases h2 : c.toNat < 0x800
  · rw [if_neg h1, if_pos h2]
    obtain ⟨hb, hb'⟩ := hfirst (0xC0 + c.toNat / 64) (by omega) (by omega)
    exact ⟨_, _, rfl, hb, by simp [hnext], fun _ => hb'⟩
  by_cases h3 : c.toNat < 0x10000
  · rw [if_neg h1, if_neg h2, if_pos h3]
    obtain ⟨hb, hb'⟩ := hfirst (0xE0 + c.toNat / 4096) (by omega) (by omega)
    exact ⟨_, _, rfl, hb, by simp [hnext], fun _ => hb'⟩
  · rw [if_neg h1, if_neg h2, if_neg h3]
    obtain ⟨hb, hb'⟩ := hfirst (0xF0 + c.toNat / 262144) (by omega) (by omega)
    exact ⟨_, _, rfl, hb, by simp [hnext], fun _ => hb'⟩

theorem charSize_pos (c : Char) : 0 < charSize c := by
  obtain ⟨b, bs, hbytes, _⟩ := encodeChar_eq c
  rw [charSize, hbytes]
  simp

/-- Letter case does not change the number of bytes. -/
theorem charSize_toLower (c : Char) : charSize c.toLower = charSize c := by
  rw [charSize, charSize]
  by_cases h : c.toNat < 0x80
  · have hlower : c.toLower.toNat < 0x80 := by
      rw [toNat_toLower]
      split <;> omega
    rw [encodeChar_of_ascii h, encodeChar_of_ascii hlower]
    rfl
  · have hsame : c.toLower = c := by
      apply char_eq_of_toNat
      rw [toNat_toLower, if_neg (by omega)]
    rw [hsame]

/-- Texts that differ in letter case at most are of one length in bytes. -/
theorem length_encode_eq_of_lowered_eq {s t : String} (h : lowered s = lowered t) :
    (encode s).length = (encode t).length := by
  have hsizes : ∀ s, (encode s).length = ((lowered s).map charSize).sum := by
    intro s
    rw [encode, List.length_flatMap, lowered, List.map_map]
    have hlower : charSize ∘ Char.toLower = charSize := funext charSize_toLower
    rw [hlower]
    rfl
  rw [hsizes, hsizes, h]

/-- A first byte begins a character. -/
theorem decodeFrom_first {n : Nat} (hn : n < 256) {p : Pending} (h : begin n = .pending p)
    (bs : List UInt8) : decodeFrom none (byte n :: bs) = decodeFrom (some p) bs := by
  rw [decodeFrom, toNat_byte hn, h]

/-- A byte in its bounds continues a character that has more. -/
theorem decodeFrom_next {n owed low high : Nat} (hn : n < 256) (h : low ≤ n ∧ n ≤ high)
    (value : Nat) (bs : List UInt8) :
    decodeFrom (some ⟨owed + 1, low, high, value⟩) (byte n :: bs)
      = decodeFrom (some ⟨owed, 0x80, 0xBF, value * 64 + (n - 0x80)⟩) bs := by
  rw [decodeFrom, toNat_byte hn]
  exact if_pos h

/-- A byte in its bounds ends a character that has no more. -/
theorem decodeFrom_last {n low high : Nat} (hn : n < 256) (h : low ≤ n ∧ n ≤ high)
    (value : Nat) (bs : List UInt8) :
    decodeFrom (some ⟨0, low, high, value⟩) (byte n :: bs)
      = some (Char.ofNat (value * 64 + (n - 0x80))) :: decodeFrom none bs := by
  rw [decodeFrom, toNat_byte hn]
  exact if_pos h

/-- **The bytes of a character are read back as it.**  There is a case for each number of bytes; the
first byte that continues has the bounds that leave out what fewer bytes could write, the
surrogates, and what is above all characters. -/
theorem decodeFrom_encodeChar (c : Char) (bs : List UInt8) :
    decodeFrom none (encodeChar c ++ bs) = some c :: decodeFrom none bs := by
  have hc := toNat_lt c
  have hback : ∀ n, n = c.toNat → Char.ofNat n = c := by
    rintro n rfl
    exact Char.ofNat_toNat c
  unfold encodeChar
  dsimp only
  by_cases h1 : c.toNat < 0x80
  · rw [if_pos h1, List.singleton_append, decodeFrom, toNat_byte (by omega)]
    simp only [begin, if_pos h1, hback _ rfl]
  by_cases h2 : c.toNat < 0x800
  · have hfirst : begin (0xC0 + c.toNat / 64) = .pending ⟨0, 0x80, 0xBF, c.toNat / 64⟩ := by
      rw [begin, if_neg (by omega), if_neg (by omega), if_pos (by omega), Nat.add_sub_cancel_left]
    rw [if_neg h1, if_pos h2, List.cons_append, decodeFrom_first (by omega) hfirst,
      List.singleton_append, decodeFrom_last (by omega) (by omega), hback _ (by omega)]
  by_cases h3 : c.toNat < 0x10000
  · have hfirst : begin (0xE0 + c.toNat / 4096) = .pending
        ⟨1, if 0xE0 + c.toNat / 4096 = 0xE0 then 0xA0 else 0x80,
          if 0xE0 + c.toNat / 4096 = 0xED then 0x9F else 0xBF, c.toNat / 4096⟩ := by
      rw [begin, if_neg (by omega), if_neg (by omega), if_neg (by omega), if_pos (by omega),
        Nat.add_sub_cancel_left]
    have hsecond : (if 0xE0 + c.toNat / 4096 = 0xE0 then 0xA0 else 0x80)
          ≤ 0x80 + c.toNat / 64 % 64
        ∧ 0x80 + c.toNat / 64 % 64 ≤ if 0xE0 + c.toNat / 4096 = 0xED then 0x9F else 0xBF := by
      constructor
      · split <;> omega
      · split <;> omega
    rw [if_neg h1, if_neg h2, if_pos h3, List.cons_append, decodeFrom_first (by omega) hfirst,
      List.cons_append, decodeFrom_next (by omega) hsecond, List.singleton_append,
      decodeFrom_last (by omega) (by omega), hback _ (by omega)]
  · have hfirst : begin (0xF0 + c.toNat / 262144) = .pending
        ⟨2, if 0xF0 + c.toNat / 262144 = 0xF0 then 0x90 else 0x80,
          if 0xF0 + c.toNat / 262144 = 0xF4 then 0x8F else 0xBF, c.toNat / 262144⟩ := by
      rw [begin, if_neg (by omega), if_neg (by omega), if_neg (by omega), if_neg (by omega),
        if_pos (by omega), Nat.add_sub_cancel_left]
    have hsecond : (if 0xF0 + c.toNat / 262144 = 0xF0 then 0x90 else 0x80)
          ≤ 0x80 + c.toNat / 4096 % 64
        ∧ 0x80 + c.toNat / 4096 % 64 ≤ if 0xF0 + c.toNat / 262144 = 0xF4 then 0x8F else 0xBF := by
      constructor
      · split <;> omega
      · split <;> omega
    rw [if_neg h1, if_neg h2, if_neg h3, List.cons_append, decodeFrom_first (by omega) hfirst,
      List.cons_append, decodeFrom_next (by omega) hsecond, List.cons_append,
      decodeFrom_next (by omega) (by omega), List.singleton_append,
      decodeFrom_last (by omega) (by omega), hback _ (by omega)]

/-! ## §3. Cutting between characters. -/

theorem decode_encode (s : String) : decode (encode s) = s.toList.map some := by
  unfold decode encode
  induction s.toList with
  | nil => rfl
  | cons c cs ih => rw [List.flatMap_cons, decodeFrom_encodeChar, ih, List.map_cons]

/-- **The bytes of a text are read back as it.** -/
theorem text?_encode (s : String) : text? (encode s) = some s := by
  unfold text?
  rw [decode_encode]
  have hall : ∀ cs : List Char, (cs.map some).mapM id = some cs := by
    intro cs
    induction cs with
    | nil => rfl
    | cons c cs ih =>
      rw [List.map_cons, List.mapM_cons, ih]
      rfl
  rw [hall, Option.map_some, String.ofList_toList]

/-- What stands behind so many bytes, unless they end within a character. -/
def slice? (n : Nat) (bs : List UInt8) : Option (List UInt8) :=
  if n ≤ bs.length ∧ (bs.drop n).head?.all (!isContinuation ·) = true then some (bs.drop n)
  else none

theorem head?_encode (cs : List Char) :
    (cs.flatMap encodeChar).head?.all (!isContinuation ·) = true := by
  cases cs with
  | nil => rfl
  | cons c cs =>
    obtain ⟨b, bs, hbytes, hb, _⟩ := encodeChar_eq c
    rw [List.flatMap_cons, hbytes]
    simp [hb]

theorem length_lt_of_slice? {n : Nat} {bs rest : List UInt8} (h : slice? n bs = some rest)
    (hn : 0 < n) : rest.length < bs.length := by
  rw [slice?] at h
  obtain ⟨⟨hle, _⟩, hrest⟩ := Option.ite_none_right_eq_some.1 h
  rw [← Option.some.inj hrest, List.length_drop]
  omega

theorem slice?_append (front : List UInt8) (cs : List Char) :
    slice? front.length (front ++ cs.flatMap encodeChar) = some (cs.flatMap encodeChar) := by
  rw [slice?, List.drop_left, if_pos]
  exact ⟨by simp, head?_encode cs⟩

/-- **A text is cut between two of its characters**, or not at all. -/
theorem slice?_eq_some_iff {cs : List Char} {n : Nat} {bs : List UInt8} :
    slice? n (cs.flatMap encodeChar) = some bs ↔ ∃ front rest, cs = front ++ rest
      ∧ n = (front.flatMap encodeChar).length ∧ bs = rest.flatMap encodeChar := by
  constructor
  · intro h
    induction cs generalizing n with
    | nil =>
      rw [slice?] at h
      obtain ⟨⟨hn, _⟩, hrest⟩ := Option.ite_none_right_eq_some.1 h
      rw [List.flatMap_nil, List.length_nil, Nat.le_zero] at hn
      rw [List.flatMap_nil, List.drop_nil, Option.some.injEq] at hrest
      exact ⟨[], [], rfl, hn, hrest.symm⟩
    | cons c cs ih =>
      obtain ⟨b, more, hbytes, _, hmore, _⟩ := encodeChar_eq c
      rcases Nat.eq_zero_or_pos n with rfl | hpos
      · rw [slice?] at h
        obtain ⟨_, hrest⟩ := Option.ite_none_right_eq_some.1 h
        exact ⟨[], c :: cs, rfl, rfl, (Option.some.inj hrest).symm⟩
      rcases Nat.lt_or_ge n (encodeChar c).length with hlt | hge
      -- the cut is within the first character
      · rw [slice?] at h
        obtain ⟨⟨_, hhead⟩, _⟩ := Option.ite_none_right_eq_some.1 h
        obtain ⟨m, rfl⟩ : ∃ m, n = m + 1 := ⟨n - 1, by omega⟩
        have hm : m < more.length := by
          rw [hbytes, List.length_cons] at hlt
          omega
        rw [List.flatMap_cons, hbytes, List.cons_append, List.drop_succ_cons,
          List.drop_append_of_le_length (Nat.le_of_lt hm), List.drop_eq_getElem_cons hm] at hhead
        have hcontinues := hmore _ (List.getElem_mem hm)
        rw [List.cons_append, List.head?_cons, Option.all_some, hcontinues] at hhead
        exact absurd hhead (by decide)
      · obtain ⟨k, rfl⟩ := Nat.exists_eq_add_of_le hge
        have hk : slice? k (cs.flatMap encodeChar) = some bs := by
          rw [slice?, List.flatMap_cons, List.length_append, ← List.drop_drop, List.drop_left] at h
          rw [slice?]
          rw [← h]
          simp only [Nat.add_le_add_iff_left]
        obtain ⟨front, rest, rfl, rfl, rfl⟩ := ih hk
        exact ⟨c :: front, rest, rfl, by rw [List.flatMap_cons, List.length_append], rfl⟩
  · rintro ⟨front, rest, rfl, rfl, rfl⟩
    rw [List.flatMap_append]
    exact slice?_append _ rest

/-! ## §4. Comparing bytes. -/

/-- A byte with the letters A to Z made small. -/
def lowerByte (b : UInt8) : UInt8 := if 0x41 ≤ b.toNat ∧ b.toNat ≤ 0x5A then b + 0x20 else b

/-- Whether bytes begin with others, the case of the letters A to Z aside. -/
def startsWithIgnoreCase (bs front : List UInt8) : Bool :=
  decide (front.length ≤ bs.length) && (bs.take front.length).map lowerByte == front.map lowerByte

theorem startsWithIgnoreCase_cons (b w : UInt8) (bs ws : List UInt8) :
    startsWithIgnoreCase (b :: bs) (w :: ws)
      = (lowerByte b == lowerByte w && startsWithIgnoreCase bs ws) := by
  simp [startsWithIgnoreCase, Bool.and_left_comm]

theorem toNat_lowerByte (b : UInt8) : (lowerByte b).toNat
    = if 0x41 ≤ b.toNat ∧ b.toNat ≤ 0x5A then b.toNat + 0x20 else b.toNat := by
  rw [lowerByte]
  by_cases h : 0x41 ≤ b.toNat ∧ b.toNat ≤ 0x5A
  · rw [if_pos h, if_pos h, UInt8.toNat_add]
    show (b.toNat + 32) % 256 = b.toNat + 32
    omega
  · rw [if_neg h, if_neg h]

/-- The first byte of a character is that of a letter exactly if the character is. -/
theorem lowerByte_eq_iff {c w : Char} (hw : w.toNat < 0x80) {b : UInt8} {bs : List UInt8}
    (hbytes : encodeChar c = b :: bs) (hb : 0x80 ≤ c.toNat → 0xC0 ≤ b.toNat) :
    lowerByte b = lowerByte (byte w.toNat) ↔ w.toLower = c.toLower := by
  have hchars : w.toLower = c.toLower ↔ w.toLower.toNat = c.toLower.toNat :=
    ⟨congrArg Char.toNat, char_eq_of_toNat⟩
  rw [hchars, ← UInt8.toNat_inj, toNat_lowerByte, toNat_lowerByte, toNat_toLower, toNat_toLower,
    toNat_byte (by omega)]
  rcases Nat.lt_or_ge c.toNat 0x80 with hc | hc
  · rw [encodeChar_of_ascii hc] at hbytes
    obtain ⟨rfl, _⟩ := List.cons.inj hbytes
    rw [toNat_byte (by omega)]
    exact eq_comm
  · have hbig := hb hc
    rw [if_neg (by omega : ¬ (0x41 ≤ b.toNat ∧ b.toNat ≤ 0x5A)),
      if_neg (by omega : ¬ (65 ≤ c.toNat ∧ c.toNat ≤ 90))]
    split <;> omega

/-- **Comparing the bytes of a text with an ASCII word** is comparing its characters. -/
theorem startsWithIgnoreCase_encode {ws : List Char} (hws : ∀ w ∈ ws, w.toNat < 0x80)
    (cs : List Char) :
    startsWithIgnoreCase (cs.flatMap encodeChar) (ws.flatMap encodeChar)
      = (dropIgnoreCase? ws cs).isSome := by
  induction ws generalizing cs with
  | nil => simp [startsWithIgnoreCase, dropIgnoreCase?]
  | cons w ws ih =>
    obtain ⟨hw, hrest⟩ := List.forall_mem_cons.1 hws
    rw [List.flatMap_cons, encodeChar_of_ascii hw, List.singleton_append]
    cases cs with
    | nil => simp [startsWithIgnoreCase, dropIgnoreCase?]
    | cons c cs =>
      obtain ⟨b, bs, hbytes, _, _, hb⟩ := encodeChar_eq c
      rw [List.flatMap_cons, hbytes, List.cons_append, startsWithIgnoreCase_cons, dropIgnoreCase?]
      by_cases h : w.toLower = c.toLower
      -- a character alike to an ASCII one is one byte itself
      · have hc : c.toNat < 0x80 := by
          have hnat := congrArg Char.toNat h
          rw [toNat_toLower, toNat_toLower] at hnat
          split at hnat <;> split at hnat <;> omega
        rw [encodeChar_of_ascii hc] at hbytes
        obtain ⟨_, rfl⟩ := List.cons.inj hbytes
        rw [if_pos h, List.nil_append, ih hrest,
          beq_iff_eq.2 ((lowerByte_eq_iff hw (encodeChar_of_ascii hc ▸ hbytes) hb).2 h),
          Bool.true_and]
      · rw [if_neg h, beq_eq_false_iff_ne.2 fun he => h ((lowerByte_eq_iff hw hbytes hb).1 he),
          Bool.false_and]
        rfl

end Utf8

/-! ## §5. Digits. -/

theorem digitChars_of_lt {n : Nat} (h : n < 10) : digitChars n = [digitChar n] := by
  rw [digitChars, if_pos h]

theorem digitChars_of_not_lt {n : Nat} (h : ¬ n < 10) :
    digitChars n = digitChars (n / 10) ++ [digitChar (n % 10)] := by
  rw [digitChars, if_neg h]

theorem digitChars_ne_nil (n : Nat) : digitChars n ≠ [] := by
  by_cases h : n < 10
  · rw [digitChars_of_lt h]
    exact List.cons_ne_nil _ _
  · rw [digitChars_of_not_lt h]
    exact List.append_ne_nil_of_right_ne_nil _ (List.cons_ne_nil _ _)

/-- The characters of a number are digits. -/
theorem exists_digit_of_mem_digitChars {n : Nat} {c : Char} (h : c ∈ digitChars n) :
    ∃ d < 10, c = digitChar d := by
  induction n using digitChars.induct with
  | case1 n hn =>
    rw [digitChars, if_pos hn, List.mem_singleton] at h
    exact ⟨n, hn, h⟩
  | case2 n hn ih =>
    rw [digitChars, if_neg hn, List.mem_append, List.mem_singleton] at h
    rcases h with h | h
    · exact ih h
    · exact ⟨n % 10, Nat.mod_lt _ (by decide), h⟩

theorem digitsValue_digitChars (n : Nat) : digitsValue 0 (digitChars n) = n := by
  have hdigit : ∀ k < 10, digitValue (digitChar k) = k := by decide
  induction n using digitChars.induct with
  | case1 n hn =>
    rw [digitChars_of_lt hn]
    show 10 * 0 + digitValue (digitChar n) = n
    rw [hdigit n hn, Nat.mul_zero, Nat.zero_add]
  | case2 n hn ih =>
    rw [digitChars_of_not_lt hn, digitsValue, List.foldl_append]
    show 10 * digitsValue 0 (digitChars (n / 10)) + digitValue (digitChar (n % 10)) = n
    rw [ih, hdigit _ (Nat.mod_lt _ (by decide))]
    omega

theorem all_isDigit_digitChars (n : Nat) : (digitChars n).all Char.isDigit = true := by
  have hdigit : ∀ k < 10, (digitChar k).isDigit = true := by decide
  rw [List.all_eq_true]
  intro c hc
  obtain ⟨k, hk, rfl⟩ := exists_digit_of_mem_digitChars hc
  exact hdigit k hk

/-- There is no zero in front of a number but zero. -/
theorem head?_digitChars {n : Nat} (h : n ≠ 0) : (digitChars n).head? ≠ some '0' := by
  have hdigit : ∀ k < 10, k ≠ 0 → digitChar k ≠ '0' := by decide
  induction n using digitChars.induct with
  | case1 n hn =>
    rw [digitChars_of_lt hn, List.head?_cons]
    exact fun hd => hdigit n hn h (Option.some.inj hd)
  | case2 n hn ih =>
    have hfront := ih (by omega)
    obtain ⟨c, cs, hcs⟩ := List.exists_cons_of_ne_nil (digitChars_ne_nil (n / 10))
    rw [hcs] at hfront
    rw [digitChars_of_not_lt hn, hcs]
    exact hfront

end CardStore.Text
