/-
  CardStore.Proofs.Url.Redaction
  ──────────────────────────────
  **PASSWORDS IN ADDRESSES.**

  A password is masked where the reader of URLs finds it.  A slash, a question
  mark or a number sign ends what names a host, so that a password with one of
  them is no password to the reader: the characters before the mark are taken
  for a port, those behind it for a path, and nothing is masked.  Of tabs and
  line breaks alone nothing is left at all.

      mysql://app:secret@db:3306/cards   mysql://app:***@db:3306/cards
      mysql://app:1/x@db:3306/cards      mysql://app:1/x@db:3306/cards

  Main statements:
    * `Account.read_url` — what is read of an address whose password has no such mark.
    * `Account.redact_url` — a password that stays in its place is masked.
    * `Account.lookAlike_iff` — exactly these passwords are hidden, wherever an address is shown.
-/
import CardStore.Config.Entry
import CardStore.MySql.Address
import CardStore.Proofs.Url.Read

namespace CardStore.MySql

open Url

/-- The parts of an address, its password aside. -/
structure Account where
  user : String
  host : String
  port : Nat
  database : String
  user_letters : ∀ c ∈ user.toList, c.isAlpha = true
  host_letters : ∀ c ∈ host.toList, c.isAlpha = true
  port_le : port ≤ 65535
  database_letters : ∀ c ∈ database.toList, c.isAlpha = true

/-- Whether a password stays within its place, and is not empty there. -/
def Enclosed (password : String) : Prop :=
  (∀ c ∈ password.toList, IsPlain c) ∧ ∃ c ∈ password.toList, isKept c = true

instance (password : String) : Decidable (Enclosed password) :=
  @instDecidableAnd _ _ (List.decidableBAll _ _) (List.decidableBEx _ _)

/-- Whether two addresses look the same wherever they are shown: redacted, in the entry of a
database, and in what opens connections. -/
structure LookAlike (s t : String) : Prop where
  redacted : redact s = redact t
  entry : ∀ pool, DatabaseEntry.inspect ⟨.mysql s, pool⟩ = DatabaseEntry.inspect ⟨.mysql t, pool⟩
  factory : inspectAddress s = inspectAddress t

theorem lookAlike_iff_redact {s t : String} : LookAlike s t ↔ redact s = redact t := by
  constructor
  · exact LookAlike.redacted
  · intro h
    refine ⟨h, fun pool => DatabaseEntry.inspect_mysql_eq pool h, ?_⟩
    rw [inspectAddress, inspectAddress, h]

namespace Account

variable (a : Account)

/-- The address with a password. -/
def url (password : String) : String :=
  String.join ["mysql://", a.user, ":", password, "@", a.host, ":", Text.ofNat a.port, "/",
    a.database]

/-- The host and its port. -/
def place : List Char := a.host.toList ++ ':' :: Text.digitChars a.port

/-- What stands between the two slashes and the path. -/
def front (password : List Char) : List Char :=
  a.user.toList ++ ':' :: (password ++ '@' :: a.place)

/-- The address behind its scheme. -/
def chars (password : List Char) : List Char :=
  '/' :: '/' :: (a.front password ++ '/' :: a.database.toList)

theorem toList_url (password : String) :
    (a.url password).toList = "mysql:".toList ++ a.chars password.toList := by
  simp [url, String.join, chars, front, place, Text.ofNat]

/-! ## §1. What is read. -/

theorem not_mem_place {c : Char} (hletter : c.isAlpha = false) (hdigit : c.isDigit = false)
    (hcolon : c ≠ ':') : c ∉ a.place := by
  rw [place, List.mem_append, List.mem_cons, not_or, not_or]
  refine ⟨not_mem_of_isAlpha a.host_letters hletter, hcolon, fun hc => ?_⟩
  rw [List.all_eq_true.1 (Text.all_isDigit_digitChars a.port) c hc] at hdigit
  cases hdigit

theorem exists_toList_url (password : String) : ∃ cs last,
    (a.url password).toList = 'm' :: cs ++ [last] ∧ 0x20 < last.toNat := by
  rcases List.eq_nil_or_concat a.database.toList with hnil | ⟨cs, last, hlast⟩
  · refine ⟨"ysql://".toList ++ a.front password.toList, '/', ?_, by decide⟩
    rw [toList_url, chars, hnil]
    simp
  · refine ⟨"ysql://".toList ++ (a.front password.toList ++ '/' :: cs), last, ?_, ?_⟩
    · rw [toList_url, chars, hlast]
      simp
    · exact lt_toNat_of_isAlpha (a.database_letters last (by simp [hlast]))

/-- Of the whole address cleaning changes the password only. -/
theorem cleaned_url (password : String) :
    cleaned (a.url password) = "mysql:".toList ++ a.chars (password.toList.filter isKept) := by
  have hletters : ∀ {s : String}, (∀ c ∈ s.toList, c.isAlpha = true) →
      s.toList.filter isKept = s.toList :=
    fun h => filter_isKept fun c hc => lt_toNat_of_isAlpha (h c hc)
  have hdigits : (Text.digitChars a.port).filter isKept = Text.digitChars a.port :=
    filter_isKept fun c hc => lt_toNat_of_isDigit
      (List.all_eq_true.1 (Text.all_isDigit_digitChars a.port) c hc)
  have hmark : isKept '/' = true ∧ isKept ':' = true ∧ isKept '@' = true := by decide
  obtain ⟨cs, last, hchars, hlast⟩ := a.exists_toList_url password
  rw [cleaned_eq_filter hchars (by decide) hlast, toList_url]
  simp only [chars, front, place, List.filter_append, List.filter_cons_of_pos, hmark, hdigits,
    hletters a.user_letters, hletters a.host_letters, hletters a.database_letters]
  rfl

/-- What is read of the address, if the password is found in its place. -/
def parsed (password : List Char) : Url :=
  ⟨"mysql".toList, a.user.toList, password, some (.name a.host.toList), some a.port,
    .segments [a.database.toList], none, none⟩

/-- The scheme is read, and then the rest. -/
theorem read_url_eq (password : String) : Url.read (a.url password)
    = readAfterScheme "mysql".toList (a.chars (password.toList.filter isKept)) := by
  rw [Url.read, cleaned_url]
  rfl

theorem mem_front_iff {c : Char} (hletter : c.isAlpha = false) (hdigit : c.isDigit = false)
    (hcolon : c ≠ ':') (hat : c ≠ '@') (password : List Char) :
    c ∈ a.front password ↔ c ∈ password := by
  have huser : c ∉ a.user.toList := not_mem_of_isAlpha a.user_letters hletter
  have hplace : c ∉ a.place := a.not_mem_place hletter hdigit hcolon
  simp [front, huser, hplace, hcolon, hat]

/-- A mark behind the two slashes is one in the password. -/
theorem mem_rest_iff {mark : Char} (h : mark = '?' ∨ mark = '#') (password : List Char) :
    mark ∈ a.front password ++ '/' :: a.database.toList ↔ mark ∈ password := by
  obtain ⟨hletter, hdigit, hcolon, hat, hslash⟩ : mark.isAlpha = false ∧ mark.isDigit = false
      ∧ mark ≠ ':' ∧ mark ≠ '@' ∧ mark ≠ '/' := by
    rcases h with rfl | rfl <;> decide
  have hdatabase : mark ∉ a.database.toList := not_mem_of_isAlpha a.database_letters hletter
  simp [a.mem_front_iff hletter hdigit hcolon hat, hslash, hdatabase]

theorem plain_credentials {password : List Char} (h : ∀ c ∈ password, IsPlain c) :
    ∀ c ∈ a.user.toList ++ ':' :: password, IsPlain c := by
  intro c hc
  rcases List.mem_append.1 hc with huser | hc
  · exact isPlain_of_isAlpha (a.user_letters c huser)
  rcases List.mem_cons.1 hc with rfl | hpassword
  · decide
  · exact h c hpassword

theorem plain_front_iff (password : List Char) :
    (∀ c ∈ a.front password, IsPlain c) ↔ ∀ c ∈ password, IsPlain c := by
  have hmem : ∀ {mark}, mark = '/' ∨ mark = '?' ∨ mark = '#' →
      (mark ∈ a.front password ↔ mark ∈ password) := by
    rintro mark (rfl | rfl | rfl)
    all_goals exact a.mem_front_iff (by decide) (by decide) (by decide) (by decide) password
  rw [forall_isPlain_iff, forall_isPlain_iff, hmem (.inl rfl), hmem (.inr (.inl rfl)),
    hmem (.inr (.inr rfl))]

theorem not_special : isSpecial "mysql".toList = false := by decide

/-- Without a query or a fragment in it, the whole of it is read as what names a host and a path. -/
theorem readAfterScheme_chars {kept : List Char} (hfragment : '#' ∉ kept) (hquery : '?' ∉ kept) :
    readAfterScheme "mysql".toList (a.chars kept)
      = readPlaced "mysql".toList ⟨a.chars kept, none, none⟩
          (a.front kept ++ '/' :: a.database.toList) :=
  readAfterScheme_slashes not_special (by rwa [a.mem_rest_iff (.inr rfl)])
    (by rwa [a.mem_rest_iff (.inl rfl)])

/-- **An address** whose password has no mark that ends what names a host. -/
theorem read_url {password : String} (h : ∀ c ∈ password.toList.filter isKept, IsPlain c) :
    Url.read (a.url password) = if a.host = "" then .error .emptyHost
      else .ok (a.parsed (encode inUserInfo (password.toList.filter isKept))) := by
  generalize hkept : password.toList.filter isKept = kept at h
  obtain ⟨-, hquery, hfragment⟩ := (forall_isPlain_iff kept).1 h
  rw [read_url_eq, hkept, a.readAfterScheme_chars hfragment hquery,
    readPlaced_append not_special _ ((a.plain_front_iff kept).2 h), front, place,
    readAuthority_plain not_special a.user_letters a.host_letters a.port_le]
  by_cases hhost : a.host = ""
  · rw [if_pos hhost, if_pos (by rw [hhost]; rfl)]
    rfl
  · rw [if_neg hhost, if_neg (by rwa [String.toList_eq_nil_iff])]
    simp only [Except.map, List.nil_append, readPathAfterHost, not_special, isSlash_false,
      readSegments_letters not_special a.database_letters]
    rfl

/-- A path with another slash in the password has two segments at least. -/
theorem exists_segments_of_slash {kept : List Char} (hfragment : '#' ∉ kept) (hquery : '?' ∉ kept)
    (hslash : '/' ∈ kept) {u : Url} (h : readAfterScheme "mysql".toList (a.chars kept) = .ok u) :
    (∃ host, u.host = some host) ∧ ∃ segs, u.path = .segments segs ∧ 2 ≤ segs.length := by
  obtain ⟨before, behind, hkept, hbefore⟩ := List.eq_append_cons_of_mem hslash
  have hrest : a.front kept ++ '/' :: a.database.toList
      = (a.user.toList ++ ':' :: before)
        ++ '/' :: (behind ++ '@' :: (a.place ++ '/' :: a.database.toList)) := by
    rw [front, hkept]
    simp
  have hplace : '/' ∉ a.place := a.not_mem_place (by decide) (by decide) (by decide)
  have hmem : ∀ {c}, c ∈ before → c ∈ kept := fun hc => hkept ▸ List.mem_append_left _ hc
  have hplain : ∀ c ∈ before, IsPlain c :=
    (forall_isPlain_iff before).2
      ⟨hbefore, fun hc => hquery (hmem hc), fun hc => hfragment (hmem hc)⟩
  rw [a.readAfterScheme_chars hfragment hquery, hrest,
    readPlaced_append not_special _ (a.plain_credentials hplain)] at h
  -- whatever the characters before the slash name, the path is read from behind it
  generalize readAuthority _ _ _ = authority at h
  cases authority with
  | error fault => cases h
  | ok authority =>
    obtain ⟨segs, hsegs, hlength⟩ := exists_readPathAfterHost not_special
      (authority.rest ++ '/' :: behind) hplace a.database_letters
    cases h
    refine ⟨⟨authority.host, rfl⟩, segs, ?_, hlength⟩
    rw [← hsegs]
    simp [withSections]

/-! ## §2. What is shown. -/

theorem text_parsed {password : List Char} (h : password ≠ []) :
    (a.parsed password).text = a.url (String.ofList password) := by
  rw [← String.toList_inj, toList_url]
  simp [parsed, text, authorityText, credentials, portText, Path.text, Host.text, marked,
    chars, front, place, h]

theorem length_text_parsed_nil : (a.parsed []).text.length < (a.url "***").length := by
  rw [← String.length_toList, ← String.length_toList, toList_url]
  simp [parsed, text, authorityText, credentials, portText, Path.text, Host.text, marked,
    chars, front, place]
  split <;> simp <;> omega

theorem count_url : (a.url "***").toList.count '/' = 3 := by
  have hletters : ∀ s : String, (∀ c ∈ s.toList, c.isAlpha = true) → s.toList.count '/' = 0 :=
    fun s h => List.count_eq_zero.2 (not_mem_of_isAlpha h (by decide))
  have hplace := List.count_eq_zero.2
    (a.not_mem_place (c := '/') (by decide) (by decide) (by decide))
  rw [toList_url]
  simp [chars, front, List.count_append, hletters _ a.user_letters,
    hletters _ a.database_letters, hplace]

/-- A password that stays in its place is masked. -/
theorem redact_url {password : String} (h : Enclosed password) :
    redact (a.url password) = if a.host = "" then "***" else a.url "***" := by
  obtain ⟨hplain, c, hc, hkept⟩ := h
  have hread := a.read_url fun c hc => hplain c (List.mem_filter.1 hc).1
  have hne : encode inUserInfo (password.toList.filter isKept) ≠ [] := by
    rw [Ne, encode_eq_nil_iff]
    exact List.ne_nil_of_mem (List.mem_filter.2 ⟨hc, hkept⟩)
  rw [redact, hread]
  by_cases hhost : a.host = ""
  · rw [if_pos hhost, if_pos hhost]
    rfl
  · rw [if_neg hhost, if_neg hhost]
    have hmasked : (a.parsed (encode inUserInfo (password.toList.filter isKept))).redacted
        = a.parsed mask := by
      rw [redacted, parsed, if_neg (by simpa using hne)]
      rfl
    show (Url.redacted _).text = _
    rw [hmasked, a.text_parsed (by decide)]
    rfl

theorem not_mem_url {mark : Char} (h : mark = '?' ∨ mark = '#') :
    mark ∉ (a.url "***").toList := by
  have hrest : mark ∉ a.front "***".toList ++ '/' :: a.database.toList := by
    rw [a.mem_rest_iff h]
    rcases h with rfl | rfl <;> decide
  rw [toList_url, chars]
  rcases h with rfl | rfl <;> simpa using hrest

/-- What looks like an address with a masked password had no mark in its place. -/
theorem plain_of_text_eq {kept : List Char} {u : Url}
    (hread : readAfterScheme "mysql".toList (a.chars kept) = .ok u) {shown : List Char}
    (htext : ({ u with password := shown } : Url).text = a.url "***") :
    ∀ c ∈ kept, IsPlain c := by
  -- a query or a fragment would show its mark
  obtain ⟨hqueries, hfragments⟩ := isSome_readAfterScheme not_special hread
  have hfragment : '#' ∉ kept := by
    intro hmem
    have hchars : '#' ∈ a.chars kept :=
      .tail _ (.tail _ ((a.mem_rest_iff (.inr rfl) kept).2 hmem))
    rw [(isSome_fragment_ofChars _).2 hchars] at hfragments
    have hmark := mem_text_of_fragment (u := { u with password := shown }) hfragments
    rw [htext] at hmark
    exact a.not_mem_url (.inr rfl) hmark
  have hquery : '?' ∉ kept := by
    intro hmem
    have hchars : '?' ∈ a.chars kept :=
      .tail _ (.tail _ ((a.mem_rest_iff (.inl rfl) kept).2 hmem))
    have hnone : '#' ∉ a.chars kept := by
      simpa [chars] using (a.mem_rest_iff (.inr rfl) kept).not.2 hfragment
    rw [(isSome_query_ofChars hnone).2 hchars] at hqueries
    have hmark := mem_text_of_query (u := { u with password := shown }) hqueries
    rw [htext] at hmark
    exact a.not_mem_url (.inl rfl) hmark
  -- a slash in the password adds a segment to the path, and each segment shows its slash
  have hslash : '/' ∉ kept := by
    intro hmem
    obtain ⟨⟨host, hhost⟩, segs, hsegs, hlength⟩ :=
      a.exists_segments_of_slash hfragment hquery hmem hread
    have hcount := le_count_text (u := { u with password := shown }) hhost hsegs
    rw [htext, count_url] at hcount
    omega
  exact (forall_isPlain_iff kept).2 ⟨hslash, hquery, hfragment⟩

/-- A password that looks masked stays in its place. -/
theorem enclosed_of_redact (hhost : a.host ≠ "") {password : String}
    (h : redact (a.url password) = a.url "***") : Enclosed password := by
  cases hread : Url.read (a.url password) with
  | error fault =>
    have hcolon : ':' ∈ (a.url "***").toList := by simp [toList_url]
    rw [← h, (redact_eq_mask_iff _).2 ⟨fault, hread⟩] at hcolon
    exact absurd hcolon (by decide)
  | ok u =>
    obtain ⟨shown, hshown⟩ := exists_redacted u
    have htext : ({ u with password := shown } : Url).text = a.url "***" := by
      rw [← hshown, ← h, redact, hread]
    have hplain := a.plain_of_text_eq ((a.read_url_eq password).symm.trans hread) htext
    refine ⟨fun c hc => ?_, ?_⟩
    · by_cases hkept : isKept c = true
      · exact hplain c (List.mem_filter.2 ⟨hc, hkept⟩)
      · exact isPlain_of_not_isKept hkept
    -- of an empty password nothing is shown, not even that there is one
    · by_contra hnone
      have hempty : password.toList.filter isKept = [] := by
        rw [List.filter_eq_nil_iff]
        exact fun c hc hkept => hnone ⟨c, hc, hkept⟩
      have hlength := a.length_text_parsed_nil
      rw [← h, redact, a.read_url hplain, if_neg hhost, hempty] at hlength
      exact absurd hlength (Nat.lt_irrefl _)

/-- **Enclosed passwords are hidden, and no others**: an address looks like those with an enclosed
password exactly if its own is enclosed, or if it has no host and is no URL. -/
theorem lookAlike_iff (a : Account) {q : String} (hq : Enclosed q) (p : String) :
    LookAlike (a.url p) (a.url q)
      ↔ Enclosed p ∨ a.host = "" ∧ ∃ fault, Url.read (a.url p) = .error fault := by
  rw [lookAlike_iff_redact, a.redact_url hq]
  constructor
  · intro h
    by_cases hhost : a.host = ""
    · rw [if_pos hhost] at h
      exact .inr ⟨hhost, (redact_eq_mask_iff _).1 h⟩
    · rw [if_neg hhost] at h
      exact .inl (a.enclosed_of_redact hhost h)
  · rintro (hp | ⟨hhost, hfault⟩)
    · exact a.redact_url hp
    · rw [if_pos hhost]
      exact (redact_eq_mask_iff _).2 hfault

/-- The account `app` of the database `cards`. -/
def app : Account :=
  ⟨"app", "db", 3306, "cards", List.all_eq_true.1 (by decide), List.all_eq_true.1 (by decide),
    by decide, List.all_eq_true.1 (by decide)⟩

theorem lookAlike_iff_app : Enclosed "secret" ∧ LookAlike (app.url "p@ss:w") (app.url "secret")
    ∧ ¬ LookAlike (app.url "1/x") (app.url "secret") := by
  refine ⟨by decide, (lookAlike_iff app (by decide) _).2 (.inl (by decide)), fun h => ?_⟩
  rcases (lookAlike_iff app (by decide) _).1 h with hp | ⟨hhost, _⟩
  · exact absurd hp (by decide)
  · exact absurd hhost (by decide)

/-- Not every password is hidden: this one is shown as it is. -/
theorem not_lookAlike_slash : redact (app.url "1/x") = "mysql://app:1/x@db:3306/cards"
    ∧ ¬ ∀ (a : Account) (p q : String), p ≠ "" → q ≠ "" → LookAlike (a.url p) (a.url q) := by
  have hshown : redact (app.url "1/x") = "mysql://app:1/x@db:3306/cards" := by decide +kernel
  have hmasked : redact (app.url "pw") = "mysql://app:***@db:3306/cards" := by decide +kernel
  refine ⟨hshown, fun h => ?_⟩
  have hsame := (h app "1/x" "pw" (by decide) (by decide)).redacted
  rw [hshown, hmasked] at hsame
  exact absurd hsame (by decide)

end Account

end CardStore.MySql
