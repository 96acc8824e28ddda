/-
  CardStore.Proofs.Sql.Source
  ───────────────────────────
  **TOKENS THAT ARE WRITTEN ARE READ BACK.**

  A list of tokens is written one token right behind the other.  Read by the
  same dialect, the text has these tokens again, provided that no two
  neighbours grow together: two words, two signs or two literals.  A statement
  is taken apart by saying which tokens it was written from.

      UPDATE · T · SET · MC=?,AGE=? · WHERE · ID=?     (a blank is written ·)

  Main statements:
    * `Dialect.tokens?_source` — written tokens are read back, blanks aside.
    * `Dialect.unescape_escapeChars` — so is the text of a literal.
-/
import CardStore.Proofs.Lists
import CardStore.Proofs.Sql.Token

namespace CardStore.Sql

open Sql.Piece (chars lex)

/-! ## §1. Writing. -/

namespace Token

/-- The text of a token. -/
def source : Token → List Char
  | .word cs => cs
  | .comparison cs => cs
  | .literal raw => quote :: (raw ++ [quote])
  | .slot => [Sql.slot]
  | .opening => ['(']
  | .closing => [')']
  | .comma => [',']
  | .blank => [' ']
  | .other c => [c]

/-- What a token is read as. -/
def pieces : Token → List Piece
  | .literal raw => [.literal raw]
  | t => chars t.source

/-- A character that is no part of a larger token and has no token of its own kind. -/
def StandsAlone (c : Char) : Prop :=
  Token.ofChar c = .other c ∧ isWordPart c = false ∧ isComparisonPart c = false ∧ c ≠ quote

/-- A token that is written in a dialect: a word, a sign of one character, an escaped literal, or
a mark. -/
def Written (d : Dialect) : Token → Prop
  | .word cs => cs ≠ [] ∧ ∀ c ∈ cs, isWordPart c = true
  | .comparison cs => ∃ c, cs = [c] ∧ isComparisonPart c = true
  | .literal raw => ∃ s, raw = d.escapeChars s
  | .other c => StandsAlone c
  | _ => True

/-- Two tokens that do not grow together when one is written behind the other. -/
def Apart : Token → Token → Prop
  | .word _, .word _ => False
  | .comparison _, .comparison _ => False
  | .literal _, .literal _ => False
  | _, _ => True

/-- A token that nothing grows together with. -/
def isMark : Token → Bool
  | .word _ => false
  | .comparison _ => false
  | .literal _ => false
  | _ => true

theorem apart_mark_left {m : Token} (h : m.isMark = true) (t : Token) : Apart m t := by
  cases m with
  | word cs => cases h
  | comparison cs => cases h
  | literal raw => cases h
  | _ => trivial

theorem apart_mark_right {m : Token} (h : m.isMark = true) (t : Token) : Apart t m := by
  cases m with
  | word cs => cases h
  | comparison cs => cases h
  | literal raw => cases h
  | _ => cases t <;> trivial

theorem isWord_of_isMark {m : Token} (h : m.isMark = true) : m.isWord = false := by
  cases m with
  | word cs => cases h
  | _ => rfl

theorem apart_word_left {cs : List Char} {t : Token} (h : t.isWord = false) :
    Apart (.word cs) t := by
  cases t with
  | word cs' => cases h
  | _ => trivial

theorem apart_word_right {cs : List Char} {t : Token} (h : t.isWord = false) :
    Apart t (.word cs) := by
  cases t with
  | word cs' => cases h
  | _ => trivial

/-- Behind a mark tokens go on as they like. -/
theorem isChain_append_mark {ts us : List Token} {m : Token} (hm : m.isMark = true)
    (ht : ts.IsChain Apart) (hu : us.IsChain Apart) : (ts ++ m :: us).IsChain Apart :=
  isChain_append_of_free (apart_mark_left hm) (apart_mark_right hm) ht hu

theorem isChain_intercalate_mark {m : Token} (hm : m.isMark = true) {tss : List (List Token)}
    (h : ∀ ts ∈ tss, ts.IsChain Apart) : ([m].intercalate tss).IsChain Apart :=
  isChain_intercalate_of_free (apart_mark_left hm) (apart_mark_right hm) h

/-! ## §2. Reading back. -/

theorem quote_not_mem_source {d : Dialect} {t : Token} (ht : t.Written d)
    (hl : ∀ raw, t ≠ .literal raw) : quote ∉ t.source := by
  have hnot : isWordPart quote = false ∧ isComparisonPart quote = false := by decide
  cases t with
  | word cs =>
    intro hmem
    have hq := ht.2 quote hmem
    rw [hnot.1] at hq
    cases hq
  | comparison cs =>
    obtain ⟨c, rfl, hc⟩ := ht
    intro hmem
    have hq : quote = c := List.mem_singleton.1 hmem
    rw [← hq, hnot.2] at hc
    cases hc
  | literal raw => exact absurd rfl (hl raw)
  | slot => decide
  | opening => decide
  | closing => decide
  | comma => decide
  | blank => decide
  | other c =>
    intro hmem
    exact ht.2.2.2 (List.mem_singleton.1 hmem).symm

theorem source_ne_nil {d : Dialect} {t : Token} (ht : t.Written d) : t.source ≠ [] := by
  cases t with
  | word cs => exact ht.1
  | comparison cs =>
    obtain ⟨c, rfl, _⟩ := ht
    exact List.cons_ne_nil _ _
  | _ => exact List.cons_ne_nil _ _

/-- What follows a literal does not begin with a quote. -/
theorem head?_source_ne_quote {d : Dialect} {raw : List Char} {ts : List Token}
    (h : ∀ t ∈ ts, t.Written d) (hchain : (.literal raw :: ts).IsChain Apart) :
    (ts.flatMap source).head? ≠ some quote := by
  cases ts with
  | nil => exact nofun
  | cons t ts =>
    have ht := h t List.mem_cons_self
    have hl : ∀ raw', t ≠ .literal raw' := by
      rintro raw' rfl
      exact (List.isChain_cons_cons.1 hchain).1
    rw [List.flatMap_cons, List.head?_append_of_ne_nil _ (source_ne_nil ht)]
    intro hhead
    exact quote_not_mem_source ht hl (List.mem_of_mem_head? hhead)

theorem readFrom_source (d : Dialect) : ∀ (ts : List Token), (∀ t ∈ ts, t.Written d) →
    ts.IsChain Apart → d.readFrom .outside (ts.flatMap source) = some (ts.flatMap pieces) := by
  intro ts
  induction ts with
  | nil =>
    intro _ _
    rfl
  | cons t ts ih =>
    intro h hchain
    have hrest := ih (fun u hu => h u (List.mem_cons_of_mem _ hu)) hchain.tail
    rw [List.flatMap_cons, List.flatMap_cons]
    by_cases hl : ∃ raw, t = .literal raw
    · obtain ⟨raw, rfl⟩ := hl
      obtain ⟨s, rfl⟩ := h _ List.mem_cons_self
      -- the escaped text stays inside, and the quote behind it closes the literal
      have hreads : d.Reads (ts.flatMap source) (ts.flatMap pieces) :=
        ⟨hrest, head?_source_ne_quote (fun u hu => h u (List.mem_cons_of_mem _ hu)) hchain⟩
      show d.readFrom .outside (quote :: (d.escapeChars s ++ [quote]) ++ _) = _
      rw [List.cons_append, Dialect.readFrom, if_pos rfl, List.append_assoc,
        Dialect.readFrom_escape (.inl rfl), List.singleton_append, Dialect.readFrom, if_pos rfl,
        hreads.readFrom_atQuote, List.append_nil, List.reverse_reverse]
      rfl
    · have hl' : ∀ raw, t ≠ .literal raw := fun raw ht => hl ⟨raw, ht⟩
      have hpieces : t.pieces = chars t.source := by
        cases t with
        | literal raw => exact absurd rfl (hl' raw)
        | _ => rfl
      rw [Dialect.readFrom_chars_append d _ _
        (quote_not_mem_source (h t List.mem_cons_self) hl'), hrest, hpieces]
      rfl

/-- A mark is a character that always stands for itself. -/
theorem exists_char_of_isMark {d : Dialect} {t : Token} (ht : t.Written d)
    (hm : t.isMark = true) : ∃ c, t.pieces = [.char c] ∧ t = .ofChar c
      ∧ isWordPart c = false ∧ isComparisonPart c = false := by
  cases t with
  | word cs => cases hm
  | comparison cs => cases hm
  | literal raw => cases hm
  | slot => exact ⟨Sql.slot, rfl, rfl, by decide, by decide⟩
  | opening => exact ⟨'(', rfl, rfl, by decide, by decide⟩
  | closing => exact ⟨')', rfl, rfl, by decide, by decide⟩
  | comma => exact ⟨',', rfl, rfl, by decide, by decide⟩
  | blank => exact ⟨' ', rfl, rfl, by decide, by decide⟩
  | other c => exact ⟨c, rfl, ht.1.symm, ht.2.1, ht.2.2.1⟩

theorem not_isWordPart_of_isComparisonPart {c : Char} (h : isComparisonPart c = true) :
    isWordPart c = false := by
  rw [isComparisonPart, Bool.or_eq_true, Bool.or_eq_true, beq_iff_eq, beq_iff_eq, beq_iff_eq] at h
  rcases h with (rfl | rfl) | rfl
  · decide
  · decide
  · decide

theorem lex_pieces (d : Dialect) : ∀ (ts : List Token), (∀ t ∈ ts, t.Written d) →
    ts.IsChain Apart → lex (ts.flatMap pieces) = ts := by
  intro ts
  induction ts with
  | nil =>
    intro _ _
    rfl
  | cons t ts ih =>
    intro h hchain
    have hrest := ih (fun u hu => h u (List.mem_cons_of_mem _ hu)) hchain.tail
    have ht := h t List.mem_cons_self
    rw [List.flatMap_cons]
    by_cases hm : t.isMark = true
    · obtain ⟨c, hpieces, hc, hw, hs⟩ := exists_char_of_isMark ht hm
      rw [hpieces]
      show Piece.push (.char c) (lex (ts.flatMap pieces)) = _
      rw [hrest, Piece.push, hw, hs, hc]
      rfl
    · cases t with
      | word cs =>
        show lex (chars cs ++ ts.flatMap pieces) = _
        rw [Piece.lex_word_append ht.1 ht.2, hrest]
        -- what follows is no word, so nothing of it goes into this one
        intro w us heq
        rw [hrest] at heq
        rw [heq] at hchain
        exact (List.isChain_cons_cons.1 hchain).1
      | comparison cs =>
        obtain ⟨c, rfl, hc⟩ := ht
        show Piece.push (.char c) (lex (ts.flatMap pieces)) = _
        rw [hrest, Piece.push, not_isWordPart_of_isComparisonPart hc, hc]
        show Piece.pushComparison c ts = _
        unfold Piece.pushComparison
        split
        · exact ((List.isChain_cons_cons.1 hchain).1).elim
        · rfl
      | literal raw =>
        show Token.literal raw :: lex (ts.flatMap pieces) = _
        rw [hrest]
      | _ => exact absurd rfl hm

end Token

/-- **Written tokens are read back**, blanks aside. -/
theorem Dialect.tokens?_source (d : Dialect) {ts : List Token} (h : ∀ t ∈ ts, t.Written d)
    (hchain : ts.IsChain Token.Apart) :
    d.tokens? (String.ofList (ts.flatMap Token.source)) = some (ts.filter Token.counts) := by
  rw [tokens?, read?, String.toList_ofList, Token.readFrom_source d ts h hchain, Option.map_some,
    Piece.tokens, Token.lex_pieces d ts h hchain]

/-! ## §3. The text of literals. -/

/-- What a backslash and a character stand for in a literal of MySQL. -/
def escaped (c : Char) : List Char :=
  if c = '0' then [Char.ofNat 0]
  else if c = 'b' then [Char.ofNat 8]
  else if c = 'n' then ['\n']
  else if c = 'r' then ['\r']
  else if c = 't' then ['\t']
  else if c = 'Z' then [Char.ofNat 26]
  -- outside of patterns these two stand for themselves, the backslash included
  else if c = '%' ∨ c = '_' then [backslash, c]
  else [c]

/-- The text that a literal of MySQL stands for. -/
def unescapeBackslashes : List Char → List Char
  | [] => []
  | [c] => [c]
  | c :: c' :: cs =>
    if c = backslash then escaped c' ++ unescapeBackslashes cs
    else if c = quote ∧ c' = quote then quote :: unescapeBackslashes cs
    else c :: unescapeBackslashes (c' :: cs)

/-- The text that a literal stands for where only quotes are doubled. -/
def unescapeQuotes : List Char → List Char
  | [] => []
  | [c] => [c]
  | c :: c' :: cs =>
    if c = quote ∧ c' = quote then quote :: unescapeQuotes cs
    else c :: unescapeQuotes (c' :: cs)

namespace Dialect

/-- The text that a literal stands for. -/
def unescape : Dialect → List Char → List Char
  | .mysql => unescapeBackslashes
  | .oracle => unescapeQuotes

end Dialect

theorem unescapeQuotes_cons {c : Char} (hc : c ≠ quote) (cs : List Char) :
    unescapeQuotes (c :: cs) = c :: unescapeQuotes cs := by
  cases cs with
  | nil => rfl
  | cons c' cs => rw [unescapeQuotes, if_neg fun h => hc h.1]

theorem unescapeQuotes_doubleQuotes (s : List Char) : unescapeQuotes (doubleQuotes s) = s := by
  induction s with
  | nil => rfl
  | cons c s ih =>
    rw [doubleQuotes]
    split
    · rename_i hc
      rw [unescapeQuotes, if_pos ⟨rfl, rfl⟩, ih, hc]
    · rename_i hc
      rw [unescapeQuotes_cons hc, ih]

theorem unescapeBackslashes_cons {c : Char} (hq : c ≠ quote) (hb : c ≠ backslash)
    (cs : List Char) : unescapeBackslashes (c :: cs) = c :: unescapeBackslashes cs := by
  cases cs with
  | nil => rfl
  | cons c' cs => rw [unescapeBackslashes, if_neg hb, if_neg fun h => hq h.1]

theorem unescapeBackslashes_doubleBackslashes (s : List Char) :
    unescapeBackslashes (doubleBackslashes (doubleQuotes s)) = s := by
  induction s with
  | nil => rfl
  | cons c s ih =>
    rw [doubleQuotes]
    split
    · rename_i hc
      rw [doubleBackslashes, if_neg Dialect.quote_ne_backslash, doubleBackslashes,
        if_neg Dialect.quote_ne_backslash, unescapeBackslashes, if_neg Dialect.quote_ne_backslash,
        if_pos ⟨rfl, rfl⟩, ih, hc]
    · rename_i hc
      rw [doubleBackslashes]
      split
      -- the backslash in front takes the other one along
      · rename_i hb
        have hescaped : escaped backslash = [backslash] := by decide
        rw [unescapeBackslashes, if_pos rfl, ih, hescaped, hb]
        rfl
      · rename_i hb
        rw [unescapeBackslashes_cons hc hb, ih]

/-- **A text that was escaped for a literal** is what the literal stands for. -/
theorem Dialect.unescape_escapeChars (d : Dialect) (s : List Char) :
    d.unescape (d.escapeChars s) = s := by
  cases d with
  | mysql => exact unescapeBackslashes_doubleBackslashes s
  | oracle => exact unescapeQuotes_doubleQuotes s

end CardStore.Sql
