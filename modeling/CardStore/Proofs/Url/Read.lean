/-
  CardStore.Proofs.Url.Read
  ─────────────────────────
  **WHERE THE PARTS OF A URL ARE FOUND.**

  The fragment begins at the first number sign, the query at the first
  question mark before it, and the path at the first slash before both.  Only
  then is the last at sign looked for, and what stands before it is a user
  name and, behind its first colon, a password.

      mysql : // user : password @ host : port / database ? query # fragment

  Main statements:
    * `cutAtLastAt?_append`, `readAuthority_plain` — what stands before the path.
    * `isSome_readAfterScheme` — a query or a fragment, wherever its mark stands.
    * `two_le_length_resolve`, `exists_readPathAfterHost` — what stands behind a slash too many.
-/
import CardStore.Proofs.Script
import CardStore.Proofs.Text
import CardStore.Url.Read
import Mathlib.Data.List.TakeWhile

namespace CardStore

/-! ## §1. Letters. -/

theorem toNat_of_isAlpha {c : Char} (h : c.isAlpha = true) :
    65 ≤ c.toNat ∧ c.toNat ≤ 90 ∨ 97 ≤ c.toNat ∧ c.toNat ≤ 122 := by
  replace h : (decide (c.val ≥ 'A'.val ∧ c.val ≤ 'Z'.val)
      || (decide (c.val ≥ 'a'.val) && decide (c.val ≤ 'z'.val))) = true := h
  simpa [UInt32.le_iff_toNat_le] using h

/-- Letters and digits are no blanks. -/
theorem lt_toNat_of_isAlpha {c : Char} (h : c.isAlpha = true) : 0x20 < c.toNat := by
  have hrange := toNat_of_isAlpha h
  omega

theorem lt_toNat_of_isDigit {c : Char} (h : c.isDigit = true) : 0x20 < c.toNat := by
  simp [Char.isDigit, UInt32.le_iff_toNat_le] at h
  omega

/-- A letter is none of some characters that are no letters. -/
theorem not_contains_of_isAlpha {c : Char} {ds : List Char} (h : c.isAlpha = true)
    (hds : ds.any Char.isAlpha = false) : ds.contains c = false := by
  rw [Bool.eq_false_iff, Ne, List.contains_iff_mem]
  intro hc
  exact List.any_eq_false.1 hds c hc h

theorem ne_of_isAlpha {c d : Char} (h : c.isAlpha = true) (hd : d.isAlpha = false) : c ≠ d := by
  rintro rfl
  rw [hd] at h
  exact Bool.false_ne_true h

theorem not_mem_of_isAlpha {cs : List Char} {d : Char} (h : ∀ c ∈ cs, c.isAlpha = true)
    (hd : d.isAlpha = false) : d ∉ cs :=
  fun hc => ne_of_isAlpha (h d hc) hd rfl

namespace Url

theorem isControl_of_isAlpha {c : Char} (h : c.isAlpha = true) : isControl c = false := by
  have hrange := toNat_of_isAlpha h
  rw [isControl]
  simp
  omega

theorem inPath_of_isAlpha {c : Char} (h : c.isAlpha = true) : inPath c = false := by
  rw [inPath, inFragment, isControl_of_isAlpha h, not_contains_of_isAlpha h (by decide),
    not_contains_of_isAlpha h (by decide)]
  rfl

theorem inUserInfo_of_isAlpha {c : Char} (h : c.isAlpha = true) : inUserInfo c = false := by
  rw [inUserInfo, inPath_of_isAlpha h, not_contains_of_isAlpha h (by decide)]
  rfl

/-- Encoding leaves nothing out. -/
theorem encode_eq_nil_iff (isEncoded : Char → Bool) (cs : List Char) :
    encode isEncoded cs = [] ↔ cs = [] := by
  constructor
  · intro h
    cases cs with
    | nil => rfl
    | cons c cs =>
      rw [encode, List.flatMap_cons, List.append_eq_nil_iff] at h
      have hc := h.1
      split at hc
      · obtain ⟨b, bs, hbytes, _⟩ := Text.Utf8.encodeChar_eq c
        rw [hbytes] at hc
        cases hc
      · cases hc
  · rintro rfl
    rfl

/-! ## §2. Sections. -/

/-- Whether a character is kept when a text is cleaned. -/
def isKept (c : Char) : Bool := !"\t\n\r".toList.contains c

theorem filter_isKept {cs : List Char} (h : ∀ c ∈ cs, 0x20 < c.toNat) : cs.filter isKept = cs := by
  have hdropped : "\t\n\r".toList.all (·.toNat ≤ 0x20) = true := by decide
  rw [List.filter_eq_self]
  intro c hc
  rw [isKept, Bool.not_eq_true', Bool.eq_false_iff, Ne, List.contains_iff_mem]
  intro hmem
  exact absurd (of_decide_eq_true (List.all_eq_true.1 hdropped c hmem)) (Nat.not_le.2 (h c hc))

/-- Between two characters that are no blanks, tabs and line breaks are left out. -/
theorem cleaned_eq_filter {s : String} {first last : Char} {cs : List Char}
    (hs : s.toList = first :: cs ++ [last]) (hfirst : 0x20 < first.toNat)
    (hlast : 0x20 < last.toNat) : cleaned s = s.toList.filter isKept := by
  have hfront : (first :: cs ++ [last]).dropWhile (fun c => decide (c.toNat ≤ 0x20))
      = first :: cs ++ [last] := by
    rw [List.cons_append, List.dropWhile_cons_of_neg (by simpa using hfirst)]
  have hback : (first :: cs ++ [last]).reverse.dropWhile (fun c => decide (c.toNat ≤ 0x20))
      = (first :: cs ++ [last]).reverse := by
    rw [List.reverse_append, List.reverse_singleton, List.singleton_append,
      List.dropWhile_cons_of_neg (by simpa using hlast)]
  unfold cleaned
  dsimp only
  rw [hs, hfront, hback, List.reverse_reverse]
  rfl

theorem bne_of_not_mem {mark : Char} {cs : List Char} (h : mark ∉ cs) :
    ∀ c ∈ cs, (c != mark) = true := by
  intro c hc
  rw [bne_iff_ne]
  rintro rfl
  exact h hc

theorem isSome_cutAt (mark : Char) (cs : List Char) :
    (cutAt mark cs).2.isSome = true ↔ mark ∈ cs := by
  have hdropped : cs.dropWhile (· != mark) = [] ↔ mark ∉ cs := by
    rw [List.dropWhile_eq_nil_iff]
    constructor
    · intro h hmark
      simpa using h mark hmark
    · exact bne_of_not_mem
  unfold cutAt
  split
  next h => simpa using hdropped.1 h
  next h =>
    rw [Option.isSome_some, eq_self, true_iff]
    by_contra hmark
    rw [hdropped.2 hmark] at h
    cases h

/-- Without its mark there is no section. -/
theorem cutAt_of_not_mem {mark : Char} {cs : List Char} (h : mark ∉ cs) :
    cutAt mark cs = (cs, none) := by
  have hnone := (isSome_cutAt mark cs).not.2 h
  unfold cutAt at hnone ⊢
  split
  · rfl
  next hdropped =>
    rw [hdropped] at hnone
    exact absurd rfl hnone

theorem ofChars_of_not_mem {cs : List Char} (hfragment : '#' ∉ cs) (hquery : '?' ∉ cs) :
    Sections.ofChars cs = ⟨cs, none, none⟩ := by
  rw [Sections.ofChars, cutAt_of_not_mem hfragment]
  dsimp only
  rw [cutAt_of_not_mem hquery]

theorem isSome_fragment_ofChars (cs : List Char) :
    (Sections.ofChars cs).fragment.isSome = true ↔ '#' ∈ cs :=
  isSome_cutAt '#' cs

theorem isSome_query_ofChars {cs : List Char} (h : '#' ∉ cs) :
    (Sections.ofChars cs).query.isSome = true ↔ '?' ∈ cs := by
  rw [Sections.ofChars, cutAt_of_not_mem h]
  exact isSome_cutAt '?' cs

/-! ## §3. What stands before the path. -/

/-- A character that does not end what names a host. -/
def IsPlain (c : Char) : Prop := c ≠ '/' ∧ c ≠ '?' ∧ c ≠ '#'

instance (c : Char) : Decidable (IsPlain c) :=
  inferInstanceAs (Decidable (_ ∧ _))

theorem isPlain_of_isAlpha {c : Char} (h : c.isAlpha = true) : IsPlain c :=
  ⟨ne_of_isAlpha h (by decide), ne_of_isAlpha h (by decide), ne_of_isAlpha h (by decide)⟩

theorem isPlain_of_not_isKept {c : Char} (h : ¬ isKept c = true) : IsPlain c := by
  refine ⟨?_, ?_, ?_⟩
  all_goals
    rintro rfl
    exact h (by decide)

theorem forall_isPlain_iff (cs : List Char) :
    (∀ c ∈ cs, IsPlain c) ↔ '/' ∉ cs ∧ '?' ∉ cs ∧ '#' ∉ cs := by
  constructor
  · intro h
    exact ⟨fun hc => (h _ hc).1 rfl, fun hc => (h _ hc).2.1 rfl, fun hc => (h _ hc).2.2 rfl⟩
  · rintro ⟨hslash, hquery, hfragment⟩ c hc
    refine ⟨?_, ?_, ?_⟩
    all_goals
      rintro rfl
      contradiction

/-- **The last at sign** ends what names a user. -/
theorem cutAtLastAt?_append (front : List Char) {place : List Char} (h : '@' ∉ place) :
    cutAtLastAt? (front ++ '@' :: place) = some (front, place) := by
  have hplace := bne_of_not_mem (fun hmem => h (List.mem_reverse.1 hmem))
  have hreverse : (front ++ '@' :: place).reverse = place.reverse ++ '@' :: front.reverse := by
    simp
  unfold cutAtLastAt?
  rw [hreverse, List.dropWhile_append_of_pos hplace, List.takeWhile_append_of_pos hplace,
    List.dropWhile_cons_of_neg (by simp), List.takeWhile_cons_of_neg (by simp)]
  simp

/-- A user name without a colon ends at the first one. -/
theorem readCredentials_append {user : List Char} (h : ':' ∉ user) (password : List Char) :
    readCredentials (user ++ ':' :: password)
      = (encode inUserInfo user, encode inUserInfo password) := by
  have huser := bne_of_not_mem h
  rw [readCredentials, List.takeWhile_append_of_pos huser, List.dropWhile_append_of_pos huser,
    List.takeWhile_cons_of_neg (by simp), List.dropWhile_cons_of_neg (by simp), List.append_nil]
  rfl

theorem spanHost_append {host : List Char} (h : ∀ c ∈ host, c.isAlpha = true) (rest : List Char) :
    spanHost false (host ++ ':' :: rest) = (host, ':' :: rest) := by
  induction host with
  | nil => rw [List.nil_append, spanHost, if_pos ⟨rfl, rfl⟩]
  | cons c host ih =>
    obtain ⟨hc, hhost⟩ := List.forall_mem_cons.1 h
    have hne : ∀ d : Char, d.isAlpha = false → c ≠ d := fun d => ne_of_isAlpha hc
    rw [List.cons_append, spanHost, if_neg fun hcolon => hne ':' (by decide) hcolon.1,
      if_neg (hne '[' (by decide)), if_neg (hne ']' (by decide)), ih hhost]

theorem readOpaqueHost_of_letters {host : List Char} (h : ∀ c ∈ host, c.isAlpha = true) :
    readOpaqueHost host = .ok (.name host) := by
  have hplain : host.any delimiters.contains = false := by
    rw [List.any_eq_false]
    intro c hc
    rw [not_contains_of_isAlpha (h c hc) (by decide)]
    exact Bool.false_ne_true
  have hencoded : encode isControl host = host :=
    encode_eq_self isControl host fun c hc => isControl_of_isAlpha (h c hc)
  unfold readOpaqueHost
  split
  · exact absurd rfl (ne_of_isAlpha (h '[' List.mem_cons_self) (by decide))
  · rw [hplain, hencoded]
    rfl

/-- The digits of a port are read as it. -/
theorem readPort_digitChars {scheme : List Char} (hscheme : usualPort? scheme = none) {port : Nat}
    (h : port ≤ 65535) : readPort scheme (Text.digitChars port) = .ok (some port, []) := by
  have hall := List.all_eq_true.1 (Text.all_isDigit_digitChars port)
  have hvalue : (Text.digitChars port).foldl (fun n c => 10 * n + (c.toNat - 48)) 0 = port :=
    Text.digitsValue_digitChars port
  unfold readPort
  dsimp only
  rw [List.takeWhile_eq_self_iff.2 hall, List.dropWhile_eq_nil_iff.2 hall, hvalue, hscheme,
    if_neg (Nat.not_lt.2 h)]
  simp [Text.digitChars_ne_nil]

section

variable {scheme : List Char} (hscheme : isSpecial scheme = false)

include hscheme

theorem usualPort?_of_not_special : usualPort? scheme = none := by
  rw [isSpecial, Bool.or_eq_false_iff, Option.isSome_eq_false_iff, Option.isNone_iff_eq_none]
    at hscheme
  exact hscheme.1

theorem isFile_of_not_special : isFile scheme = false := by
  rw [isSpecial, Bool.or_eq_false_iff] at hscheme
  exact hscheme.2

/-- **What stands before the path**: a user name and a host of letters, and any password. -/
theorem readAuthority_plain {user host : List Char} {port : Nat}
    (huser : ∀ c ∈ user, c.isAlpha = true) (hhost : ∀ c ∈ host, c.isAlpha = true)
    (hport : port ≤ 65535) (ended : Bool) (password : List Char) :
    readAuthority scheme ended
        (user ++ ':' :: (password ++ '@' :: (host ++ ':' :: Text.digitChars port)))
      = if host = [] then .error .emptyHost
        else .ok ⟨user, encode inUserInfo password, .name host, some port, []⟩ := by
  have hplace : '@' ∉ host ++ ':' :: Text.digitChars port := by
    rw [List.mem_append, List.mem_cons, not_or, not_or]
    refine ⟨not_mem_of_isAlpha hhost (by decide), by decide, fun hdigit => ?_⟩
    exact absurd (List.all_eq_true.1 (Text.all_isDigit_digitChars port) _ hdigit) (by decide)
  have hcut : cutAtLastAt?
        (user ++ ':' :: (password ++ '@' :: (host ++ ':' :: Text.digitChars port)))
      = some (user ++ ':' :: password, host ++ ':' :: Text.digitChars port) := by
    rw [← cutAtLastAt?_append _ hplace, List.append_assoc, List.cons_append]
  have hname : encode inUserInfo user = user :=
    encode_eq_self _ _ fun c hc => inUserInfo_of_isAlpha (huser c hc)
  unfold readAuthority
  rw [hcut, hscheme]
  simp only [Option.getD_some]
  rw [readCredentials_append (not_mem_of_isAlpha huser (by decide)), spanHost_append hhost, hname]
  by_cases hempty : host = []
  · subst hempty
    simp [throw, throwThe, MonadExceptOf.throw, bind, Except.bind]
  · have hread := readPort_digitChars (usualPort?_of_not_special hscheme) hport
    rw [if_neg hempty]
    simp only [List.isEmpty_iff, hempty, if_false, Bool.false_eq_true,
      readOpaqueHost_of_letters hhost, hread]
    rfl

end

/-! ## §4. What stands behind a slash. -/

theorem isSlash_false (c : Char) : isSlash false c = (c == '/') := by
  rw [isSlash, Bool.false_and, Bool.or_false]

theorem splitSegments_false (cs : List Char) :
    splitSegments false cs = Text.splitFrom '/' [] cs := by
  have hsame : ∀ c, (if isSlash false c then '/' else c) = c := by
    intro c
    rw [isSlash_false]
    split
    next h => exact (beq_iff_eq.1 h).symm
    next => rfl
  rw [splitSegments, funext hsame, List.map_id']

/-- A segment that stands for this directory or the one above it. -/
def IsDots (seg : List Char) : Prop := dotsOf seg = ['.'] ∨ dotsOf seg = ['.', '.']

/-- Any other character than those of encoded dots stays. -/
theorem mem_dotsOf {c : Char} {seg : List Char} (hc : c ∉ "%2eE".toList) (h : c ∈ seg) :
    c ∈ dotsOf seg := by
  have hne : c ≠ '%' ∧ c ≠ '2' ∧ c ≠ 'e' ∧ c ≠ 'E' := by simpa using hc
  fun_induction dotsOf seg with
  | case1 d seg hd ih =>
    have hrest : c ∈ seg := by
      rcases hd with rfl | rfl <;> simpa [hne] using h
    exact List.mem_cons_of_mem _ (ih hrest)
  | case2 => exact h
  | case3 seg ih =>
    rcases List.mem_cons.1 h with rfl | h
    · exact List.mem_cons_self
    · exact List.mem_cons_of_mem _ (ih h)
  | case4 => exact h

theorem not_isDots_of_mem {c : Char} {seg : List Char} (hc : c ∉ ".%2eE".toList) (h : c ∈ seg) :
    ¬ IsDots seg := by
  have hne : c ≠ '.' ∧ c ∉ "%2eE".toList := by simpa using hc
  have hmem := mem_dotsOf hne.2 h
  rintro (hdots | hdots)
  all_goals
    rw [hdots] at hmem
    simp [hne.1] at hmem

theorem not_isDots_of_letters {seg : List Char} (h : ∀ c ∈ seg, c.isAlpha = true) :
    ¬ IsDots seg := by
  have hdot : '.' ∉ seg := not_mem_of_isAlpha h (by decide)
  have hpercent : '%' ∉ seg := not_mem_of_isAlpha h (by decide)
  have hsame : dotsOf seg = seg := by
    unfold dotsOf
    split
    · exact absurd List.mem_cons_self hpercent
    · exact absurd List.mem_cons_self hdot
    · rfl
  rw [IsDots, hsame]
  rintro (rfl | rfl)
  all_goals exact hdot List.mem_cons_self

/-- Any other segment is one of the path. -/
theorem resolve_cons {seg : List Char} (h : ¬ IsDots seg) (done segs : List (List Char)) :
    resolve false done (seg :: segs) = resolve false (encode inPath seg :: done) segs := by
  rw [IsDots, not_or] at h
  rw [resolve]
  simp only [h.1, h.2, if_false, Bool.false_and, Bool.false_eq_true]

/-- The last two segments stay, whatever stands before them. -/
theorem two_le_length_resolve {seg last : List Char} (hseg : ¬ IsDots seg) (hlast : ¬ IsDots last)
    (front done : List (List Char)) :
    2 ≤ (resolve false done (front ++ [seg, last])).length := by
  induction front generalizing done with
  | nil =>
    rw [List.nil_append, resolve_cons hseg, resolve_cons hlast, resolve]
    simp
  | cons other front ih =>
    rw [List.cons_append, resolve]
    exact ih _

/-- What stands in front of a text changes its first part only. -/
theorem exists_splitFrom_append (mark : Char) (cs ds : List Char) :
    ∀ part, ∃ front part',
      Text.splitFrom mark part (cs ++ ds) = front ++ Text.splitFrom mark part' ds := by
  induction cs with
  | nil => exact fun part => ⟨[], part, rfl⟩
  | cons c cs ih =>
    intro part
    rw [List.cons_append, Text.splitFrom]
    split
    · obtain ⟨front, part', h⟩ := ih []
      exact ⟨part.reverse :: front, part', congrArg _ h⟩
    · exact ih (c :: part)

theorem splitFrom_letters {cs : List Char} (h : ∀ c ∈ cs, c.isAlpha = true) :
    Text.splitFrom '/' [] cs = [cs] :=
  (Text.splitFrom_eq_singleton_iff '/' [] cs cs).2 ⟨not_mem_of_isAlpha h (by decide), rfl⟩

section

variable {scheme : List Char} (hscheme : isSpecial scheme = false)

include hscheme

/-- Letters are a path of one segment. -/
theorem readSegments_letters {cs : List Char} (h : ∀ c ∈ cs, c.isAlpha = true) :
    readSegments scheme cs = .segments [cs] := by
  have hencoded : encode inPath cs = cs :=
    encode_eq_self _ _ fun c hc => inPath_of_isAlpha (h c hc)
  rw [readSegments, isFile_of_not_special hscheme, hscheme, splitSegments_false,
    splitFrom_letters h, resolve_cons (not_isDots_of_letters h), hencoded, resolve]
  rfl

/-- Behind an at sign and another slash there are two segments at least. -/
theorem exists_readSegments (cs : List Char) {place last : List Char} (hplace : '/' ∉ place)
    (hlast : ∀ c ∈ last, c.isAlpha = true) : ∃ segs,
      readSegments scheme (cs ++ '@' :: (place ++ '/' :: last)) = .segments segs
        ∧ 2 ≤ segs.length := by
  obtain ⟨front, part, hsplit⟩ := exists_splitFrom_append '/' cs ('@' :: (place ++ '/' :: last)) []
  have hplaceSplit : Text.splitFrom '/' part ('@' :: (place ++ '/' :: last))
      = [part.reverse ++ '@' :: place, last] := by
    rw [← List.cons_append, Text.splitFrom_append _ (by simpa using hplace),
      splitFrom_letters hlast]
  have hdots : ¬ IsDots (part.reverse ++ '@' :: place) :=
    not_isDots_of_mem (c := '@') (by decide) (by simp)
  refine ⟨_, rfl, ?_⟩
  rw [isFile_of_not_special hscheme, hscheme, splitSegments_false, hsplit, hplaceSplit]
  exact two_le_length_resolve hdots (not_isDots_of_letters hlast) front []

theorem exists_readPathAfterHost (cs : List Char) {place last : List Char} (hplace : '/' ∉ place)
    (hlast : ∀ c ∈ last, c.isAlpha = true) : ∃ segs,
      readPathAfterHost scheme (cs ++ '@' :: (place ++ '/' :: last)) = .segments segs
        ∧ 2 ≤ segs.length := by
  cases cs with
  | nil =>
    rw [List.nil_append, readPathAfterHost, hscheme, if_neg (by decide)]
    exact exists_readSegments hscheme [] hplace hlast
  | cons c cs =>
    rw [List.cons_append, readPathAfterHost]
    split
    · exact exists_readSegments hscheme cs hplace hlast
    · exact exists_readSegments hscheme (c :: cs) hplace hlast

/-! ## §5. Whole URLs. -/

/-- What stands before the first slash is read as what names a host. -/
theorem readPlaced_append (sections : Sections) {front : List Char}
    (hfront : ∀ c ∈ front, IsPlain c) (tail : List Char) :
    readPlaced scheme sections (front ++ '/' :: tail)
      = (readAuthority scheme false front).map fun a => withSections
          ⟨scheme, a.username, a.password, some a.host, a.port,
            readPathAfterHost scheme (a.rest ++ '/' :: tail), none, none⟩ sections := by
  have hpart : ∀ c ∈ front, (!endsAuthority false c) = true := by
    intro c hc
    obtain ⟨hslash, hquery, hfragment⟩ := hfront c hc
    simp [endsAuthority, hslash, hquery, hfragment]
  unfold readPlaced
  dsimp only
  rw [hscheme, List.takeWhile_append_of_pos hpart, List.dropWhile_append_of_pos hpart,
    List.takeWhile_cons_of_neg (by decide), List.dropWhile_cons_of_neg (by decide),
    List.append_nil]
  rfl

/-- Without marks behind them two slashes begin what names a host. -/
theorem readAfterScheme_slashes {cs : List Char} (hfragment : '#' ∉ cs) (hquery : '?' ∉ cs) :
    readAfterScheme scheme ('/' :: '/' :: cs)
      = readPlaced scheme ⟨'/' :: '/' :: cs, none, none⟩ cs := by
  have hsections : Sections.ofChars ('/' :: '/' :: cs) = ⟨'/' :: '/' :: cs, none, none⟩ :=
    ofChars_of_not_mem (by simpa using hfragment) (by simpa using hquery)
  rw [readAfterScheme, hsections, isFile_of_not_special hscheme, hscheme]
  rfl

/-- **A query and a fragment** are there exactly if they stand in the text. -/
theorem isSome_readAfterScheme {cs : List Char} {u : Url} (h : readAfterScheme scheme cs = .ok u) :
    u.query.isSome = (Sections.ofChars cs).query.isSome
      ∧ u.fragment.isSome = (Sections.ofChars cs).fragment.isSome := by
  rw [readAfterScheme, isFile_of_not_special hscheme, hscheme] at h
  simp only [Bool.false_eq_true, if_false] at h
  split at h
  next inner _ =>
    obtain ⟨a, _, ha⟩ := bind_eq_ok_iff.1 h
    cases ha
    exact ⟨Option.isSome_map, Option.isSome_map⟩
  · cases h
    exact ⟨Option.isSome_map, Option.isSome_map⟩
  · cases h
    exact ⟨Option.isSome_map, Option.isSome_map⟩

end

/-! ## §6. Texts. -/

/-- Masking changes the password only. -/
theorem exists_redacted (u : Url) : ∃ password, u.redacted = { u with password := password } := by
  rw [redacted]
  split
  · exact ⟨u.password, rfl⟩
  · exact ⟨mask, rfl⟩

theorem mem_text_of_fragment {u : Url} (h : u.fragment.isSome = true) : '#' ∈ u.text.toList := by
  obtain ⟨cs, hcs⟩ := Option.isSome_iff_exists.1 h
  rw [text, String.toList_ofList, hcs]
  simp [marked]

theorem mem_text_of_query {u : Url} (h : u.query.isSome = true) : '?' ∈ u.text.toList := by
  obtain ⟨cs, hcs⟩ := Option.isSome_iff_exists.1 h
  rw [text, String.toList_ofList, hcs]
  simp [marked]

theorem length_le_count_segments (segs : List (List Char)) :
    segs.length ≤ (Path.segments segs).text.count '/' := by
  induction segs with
  | nil => exact Nat.le_refl 0
  | cons seg segs ih =>
    rw [Path.text] at ih ⊢
    rw [List.flatMap_cons, List.cons_append, List.count_cons_self, List.count_append,
      List.length_cons]
    omega

/-- Two slashes stand before a host, and one before each segment. -/
theorem le_count_text {u : Url} {host : Host} {segs : List (List Char)} (hhost : u.host = some host)
    (hpath : u.path = .segments segs) : 2 + segs.length ≤ u.text.toList.count '/' := by
  have hsegs := length_le_count_segments segs
  rw [text, String.toList_ofList, authorityText, hhost, hpath]
  simp only [List.count_append, List.count_cons]
  have hslashes : "//".toList.count '/' = 2 := by decide
  omega

/-- Nothing of a text that is no URL is shown, and something of any other. -/
theorem redact_eq_mask_iff (s : String) :
    redact s = "***" ↔ ∃ fault, read s = .error fault := by
  constructor
  · intro h
    cases hread : read s with
    | error fault => exact ⟨fault, rfl⟩
    | ok u =>
      have hcolon : ':' ∈ (redact s).toList := by
        rw [redact, hread]
        show ':' ∈ u.redacted.text.toList
        simp [text]
      rw [h] at hcolon
      exact absurd hcolon (by decide)
  · rintro ⟨fault, hfault⟩
    rw [redact, hfault]
    rfl

end Url

end CardStore
