/-
  CardStore.Proofs.Sql.Literal
  ────────────────────────────
  **A LITERAL DENOTES WHAT WAS ESCAPED.**

  A backend that comes upon a quote outside of literals reads on until the
  literal is closed, and has the text then that it stands for.  Two quotes are
  one of this text; on MySQL a backslash takes the next character along, and
  two backslashes are one.  A quote that no other one follows closes.

      text       a\'b
      MySQL      'a\\''b'  AND …    →  a\'b  and  ␣AND …
      Oracle     'a\''b'   AND …    →  a\'b  and  ␣AND …

  Escaping writes either one twice, first the quotes and then the backslashes.
  So it leaves an even number of quotes, and a renderer that counts them is
  inside from the front of a literal to its end.

  Main statements:
    * `Dialect.readLiteral?_escape` — an escaped text is read back.
    * `Dialect.unescape_of_readBody?` — a literal is the text between its quotes, unescaped.
    * `Dialect.render_literal` — rendering copies a literal.
    * `Piece.settled_of_readFrom` — in a text that can be read literals stand apart.
    * `Dialect.literalAt_of_read` — what becomes of a literal of a statement.
-/
import CardStore.Proofs.Sql.Segment
import CardStore.Proofs.Sql.Source

namespace CardStore.Sql

/-! ## §1. The reader. -/

/-- Text in front of what has been read. -/
def pushText (front : List Char) (read : List Char × List Char) : List Char × List Char :=
  (front ++ read.1, read.2)

namespace Dialect

/-- Read the rest of a literal: the text that it stands for, and what follows its last quote. -/
def readBody? (d : Dialect) : List Char → Option (List Char × List Char)
  | [] => none
  | [c] => if c = quote then some ([], []) else none
  | c :: c' :: cs =>
    if c = quote then
      if c' = quote then (d.readBody? cs).map (pushText [quote]) else some ([], c' :: cs)
    else if d = .mysql ∧ c = backslash then (d.readBody? cs).map (pushText (escaped c'))
    else (d.readBody? (c' :: cs)).map (pushText [c])

/-- Read the literal at the front of a text. -/
def readLiteral? (d : Dialect) : List Char → Option (List Char × List Char)
  | [] => none
  | c :: cs => if c = quote then d.readBody? cs else none

variable (d : Dialect)

/-- A character that is neither a quote nor a backslash stands for itself. -/
theorem readBody?_char {c : Char} (hq : c ≠ quote) (hb : d = .mysql → c ≠ backslash)
    (cs : List Char) : d.readBody? (c :: cs) = (d.readBody? cs).map (pushText [c]) := by
  cases cs with
  | nil =>
    show (if c = quote then _ else none) = _
    rw [if_neg hq]
    rfl
  | cons c' cs => rw [readBody?, if_neg hq, if_neg fun h => hb h.1 h.2]

/-- A quote that no other one follows closes the literal. -/
theorem readBody?_close {rest : List Char} (h : rest.head? ≠ some quote) :
    d.readBody? (quote :: rest) = some ([], rest) := by
  cases rest with
  | nil => rfl
  | cons c cs =>
    have hc : c ≠ quote := fun hc => h (congrArg some hc)
    rw [readBody?, if_pos rfl, if_neg hc]

theorem pushText_append (front front' : List Char) (read : Option (List Char × List Char)) :
    (read.map (pushText front')).map (pushText front) = read.map (pushText (front ++ front')) := by
  cases read with
  | none => rfl
  | some read => simp [pushText]

theorem pushText_nil (read : Option (List Char × List Char)) : read.map (pushText []) = read := by
  cases read with
  | none => rfl
  | some read => rfl

/-- Two quotes bring the reader back to where it was. -/
theorem readBody?_doubleQuotes (cs : List Char) : ∀ s : List Char,
    oracle.readBody? (doubleQuotes s ++ cs) = (oracle.readBody? cs).map (pushText s) := by
  intro s
  have hd : oracle ≠ mysql := by decide
  induction s with
  | nil => rw [doubleQuotes, List.nil_append, pushText_nil]
  | cons c s ih =>
    rw [doubleQuotes]
    by_cases hc : c = quote
    · rw [if_pos hc, List.cons_append, List.cons_append, readBody?, if_pos rfl, if_pos rfl, ih,
        pushText_append, hc]
      rfl
    · rw [if_neg hc, List.cons_append, readBody?_char oracle hc (absurd · hd), ih, pushText_append]
      rfl

/-- So do two backslashes on MySQL, and a backslash in front of a quote is one of two. -/
theorem readBody?_doubleBackslashes (cs : List Char) : ∀ s : List Char,
    mysql.readBody? (doubleBackslashes (doubleQuotes s) ++ cs)
      = (mysql.readBody? cs).map (pushText s) := by
  intro s
  have hbackslash : escaped backslash = [backslash] := by decide
  induction s with
  | nil => rw [doubleQuotes, doubleBackslashes, List.nil_append, pushText_nil]
  | cons c s ih =>
    rw [doubleQuotes]
    by_cases hc : c = quote
    · rw [if_pos hc, doubleBackslashes, if_neg quote_ne_backslash, doubleBackslashes,
        if_neg quote_ne_backslash, List.cons_append, List.cons_append, readBody?, if_pos rfl,
        if_pos rfl, ih, pushText_append, hc]
      rfl
    rw [if_neg hc, doubleBackslashes]
    by_cases hb : c = backslash
    · rw [if_pos hb, List.cons_append, List.cons_append, readBody?,
        if_neg (Ne.symm quote_ne_backslash), if_pos ⟨rfl, rfl⟩, ih, pushText_append, hbackslash, hb]
      rfl
    · rw [if_neg hb, List.cons_append, readBody?_char mysql hc (fun _ => hb), ih, pushText_append]
      rfl

/-- An escaped text is read as it was before. -/
theorem readBody?_escapeChars (s cs : List Char) :
    d.readBody? (d.escapeChars s ++ cs) = (d.readBody? cs).map (pushText s) := by
  cases d with
  | mysql => exact readBody?_doubleBackslashes cs s
  | oracle => exact readBody?_doubleQuotes cs s

/-- **An escaped text between quotes is read back**, and what follows is left. -/
theorem readLiteral?_escape (s : List Char) {rest : List Char} (h : rest.head? ≠ some quote) :
    d.readLiteral? (quote :: (d.escapeChars s ++ quote :: rest)) = some (s, rest) := by
  rw [readLiteral?, if_pos rfl, readBody?_escapeChars, readBody?_close d h]
  simp [pushText]

/-- **A literal is the text between its quotes, unescaped.** -/
theorem unescape_of_readBody? : ∀ {cs s rest : List Char}, d.readBody? cs = some (s, rest) →
    ∃ raw, cs = raw ++ quote :: rest ∧ d.unescape raw = s
  | [], s, rest, h => by cases h
  | [c], s, rest, h => by
    rw [readBody?] at h
    obtain ⟨hc, hread⟩ := Option.ite_none_right_eq_some.1 h
    obtain ⟨rfl, rfl⟩ := Prod.mk.inj (Option.some.inj hread)
    exact ⟨[], by rw [hc]; rfl, by cases d <;> rfl⟩
  | c :: c' :: cs, s, rest, h => by
    rw [readBody?] at h
    by_cases hc : c = quote
    · rw [if_pos hc] at h
      by_cases hc' : c' = quote
      · rw [if_pos hc'] at h
        obtain ⟨⟨s', rest'⟩, hread, hpush⟩ := Option.map_eq_some_iff.1 h
        obtain ⟨rfl, rfl⟩ := Prod.mk.inj hpush
        obtain ⟨raw, rfl, hraw⟩ := unescape_of_readBody? hread
        refine ⟨quote :: quote :: raw, by rw [hc, hc']; rfl, ?_⟩
        cases d with
        | mysql =>
          show unescapeBackslashes (quote :: quote :: raw) = quote :: s'
          rw [unescapeBackslashes, if_neg quote_ne_backslash, if_pos ⟨rfl, rfl⟩]
          exact congrArg _ hraw
        | oracle =>
          show unescapeQuotes (quote :: quote :: raw) = quote :: s'
          rw [unescapeQuotes, if_pos ⟨rfl, rfl⟩]
          exact congrArg _ hraw
      · rw [if_neg hc'] at h
        obtain ⟨rfl, rfl⟩ := Prod.mk.inj (Option.some.inj h)
        exact ⟨[], by rw [hc]; rfl, by cases d <;> rfl⟩
    rw [if_neg hc] at h
    by_cases hb : d = .mysql ∧ c = backslash
    · rw [if_pos hb] at h
      obtain ⟨⟨s', rest'⟩, hread, hpush⟩ := Option.map_eq_some_iff.1 h
      obtain ⟨rfl, rfl⟩ := Prod.mk.inj hpush
      obtain ⟨raw, rfl, hraw⟩ := unescape_of_readBody? hread
      obtain ⟨rfl, rfl⟩ := hb
      refine ⟨backslash :: c' :: raw, rfl, ?_⟩
      show unescapeBackslashes (backslash :: c' :: raw) = escaped c' ++ s'
      rw [unescapeBackslashes, if_pos rfl]
      exact congrArg _ hraw
    · rw [if_neg hb] at h
      obtain ⟨⟨s', rest'⟩, hread, hpush⟩ := Option.map_eq_some_iff.1 h
      obtain ⟨rfl, rfl⟩ := Prod.mk.inj hpush
      obtain ⟨raw, hsplit, hraw⟩ := unescape_of_readBody? hread
      refine ⟨c :: raw, by rw [hsplit]; rfl, ?_⟩
      cases d with
      | mysql =>
        show unescapeBackslashes (c :: raw) = c :: s'
        rw [unescapeBackslashes_cons hc fun h => hb ⟨rfl, h⟩]
        exact congrArg _ hraw
      | oracle =>
        show unescapeQuotes (c :: raw) = c :: s'
        rw [unescapeQuotes_cons hc]
        exact congrArg _ hraw

/-! ## §2. Rendering a literal. -/

/-- A literal for the texts that hold another one. -/
def patternLiteral (s : String) : String := "'%" ++ d.escape s ++ "%'"

theorem toList_patternLiteral (s : String) :
    (d.patternLiteral s).toList = quote :: '%' :: (d.escapeChars s.toList ++ ['%', quote]) := by
  have hopen : "'%".toList = [quote, '%'] := by decide
  have hclose : "%'".toList = ['%', quote] := by decide
  rw [patternLiteral, String.toList_append, String.toList_append, hopen, hclose, escape,
    String.toList_ofList]
  rfl

/-- The literal denotes the text with a percent sign on either side. -/
theorem readLiteral?_patternLiteral (s : String) {rest : List Char} (h : rest.head? ≠ some quote) :
    d.readLiteral? ((d.patternLiteral s).toList ++ rest)
      = some ('%' :: (s.toList ++ ['%']), rest) := by
  have hquote : ('%' : Char) ≠ quote := by decide
  have hbackslash : ('%' : Char) ≠ backslash := by decide
  rw [toList_patternLiteral, List.cons_append, List.cons_append, List.append_assoc, readLiteral?,
    if_pos rfl, readBody?_char d hquote (fun _ => hbackslash), readBody?_escapeChars]
  show ((d.readBody? ('%' :: quote :: rest)).map _).map _ = _
  rw [readBody?_char d hquote (fun _ => hbackslash), readBody?_close d h]
  simp [pushText]

/-- **Rendering copies a literal** behind text in which all literals are closed. -/
theorem render_literal (r : Dialect) {front : List Char} (hfront : front.count quote % 2 = 0)
    (s : String) (rest : List Char) :
    d.renderFrom false 0 0 (front ++ (r.patternLiteral s).toList ++ rest)
      = d.renderFrom false 0 0 front ++ (r.patternLiteral s).toList
        ++ d.renderFrom false (slotsOutside false front) 0 rest := by
  have hquote : ('%' : Char) ≠ quote := by decide
  have hinside : insideBehind false front = false := by
    rw [insideBehind_eq_xor, hfront]
    rfl
  have hsplit : front ++ (r.patternLiteral s).toList ++ rest
      = front ++ quote :: ('%' :: (r.escapeChars s.toList ++ '%' :: quote :: rest)) := by
    rw [toList_patternLiteral]
    simp
  rw [hsplit, renderFrom_append_quote, hinside, Bool.not_false, renderFrom_inside d _ hquote,
    renderFrom_escapeChars, renderFrom_inside d _ hquote, renderFrom, if_pos rfl,
    toList_patternLiteral, Nat.zero_add]
  simp

end Dialect

/-! ## §3. Literals stand apart. -/

namespace Piece

def isLiteral : Piece → Bool
  | .char _ => false
  | .literal _ => true

/-- Pieces as a text has them that can be read: quotes are in literals only, an even number in each,
and there is a character between two literals. -/
structure Settled (ps : List Piece) : Prop where
  outside : ∀ c, Piece.char c ∈ ps → c ≠ quote
  even : ∀ raw, Piece.literal raw ∈ ps → raw.count quote % 2 = 0
  apart : ps.IsChain fun p q => ¬ (p.isLiteral = true ∧ q.isLiteral = true)

theorem settled_nil : Settled [] :=
  ⟨fun _ h => absurd h List.not_mem_nil, fun _ h => absurd h List.not_mem_nil, List.isChain_nil⟩

theorem Settled.char_cons {c : Char} {ps : List Piece} (hc : c ≠ quote) (h : Settled ps) :
    Settled (.char c :: ps) := by
  refine ⟨?_, ?_, List.isChain_cons.2 ⟨fun _ _ hboth => Bool.false_ne_true hboth.1, h.apart⟩⟩
  · intro c' hc'
    rcases List.mem_cons.1 hc' with heq | hc'
    · rw [Piece.char.inj heq]
      exact hc
    · exact h.outside c' hc'
  · intro raw hraw
    rcases List.mem_cons.1 hraw with heq | hraw
    · cases heq
    · exact h.even raw hraw

/-- A literal that no other one follows. -/
theorem Settled.literal_cons {raw : List Char} {ps : List Piece}
    (hraw : raw.count quote % 2 = 0) (hps : ∀ p ∈ ps.head?, p.isLiteral = false)
    (h : Settled ps) : Settled (.literal raw :: ps) := by
  refine ⟨?_, ?_, List.isChain_cons.2 ⟨?_, h.apart⟩⟩
  · intro c hc
    rcases List.mem_cons.1 hc with heq | hc
    · cases heq
    · exact h.outside c hc
  · intro raw' hraw'
    rcases List.mem_cons.1 hraw' with heq | hraw'
    · rw [Piece.literal.inj heq]
      exact hraw
    · exact h.even raw' hraw'
  · intro q hq hboth
    rw [hps q hq] at hboth
    exact Bool.false_ne_true hboth.2

/-- All literals of such a text are closed at its end. -/
theorem count_quote_of_settled : ∀ {ps qs : List Piece}, Settled (ps ++ qs) →
    (ps.flatMap source).count quote % 2 = 0 := by
  intro ps qs
  induction ps with
  | nil =>
    intro _
    rfl
  | cons p ps ih =>
    intro h
    have hrest : Settled (ps ++ qs) :=
      ⟨fun c hc => h.outside c (List.mem_cons_of_mem _ hc),
        fun raw hraw => h.even raw (List.mem_cons_of_mem _ hraw), h.apart.tail⟩
    have hcount := ih hrest
    rw [List.flatMap_cons, List.count_append]
    cases p with
    | char c =>
      have hc : c ≠ quote := h.outside c List.mem_cons_self
      show ([c].count quote + _) % 2 = 0
      rw [List.count_singleton, if_neg (by simpa using hc), Nat.zero_add]
      exact hcount
    | literal raw =>
      have hraw := h.even raw List.mem_cons_self
      show ((quote :: raw ++ [quote]).count quote + _) % 2 = 0
      rw [List.count_append, List.count_cons_self, List.count_singleton_self]
      omega

/-- What follows a literal does not begin with a quote. -/
theorem head?_ne_quote_of_settled {ps qs : List Piece} {raw : List Char}
    (h : Settled (ps ++ .literal raw :: qs)) : (qs.flatMap source).head? ≠ some quote := by
  cases qs with
  | nil => simp
  | cons q qs =>
    cases q with
    | char c =>
      have hc : c ≠ quote := h.outside c (by simp)
      intro hhead
      exact hc (Option.some.inj hhead)
    | literal raw' =>
      have hchain := (List.isChain_append.1 h.apart).2.1
      exact absurd ⟨rfl, rfl⟩ (List.isChain_cons_cons.1 hchain).1

end Piece

/-- A place at which an even number of quotes of a literal has been read. -/
def Place.Even : Place → Prop
  | .outside => True
  | .inside raw => raw.count quote % 2 = 0
  | .atQuote raw => raw.count quote % 2 = 0
  | .escaped _ => False

/-- **In a text that can be read literals stand apart**, where quotes are all that counts. -/
theorem Piece.settled_of_readFrom : ∀ (cs : List Char) (place : Place) (ps : List Piece),
    Dialect.oracle.readFrom place cs = some ps → place.Even → Settled ps := by
  intro cs
  induction cs with
  | nil =>
    intro place ps h heven
    cases place <;> simp only [Dialect.readFrom, Option.some.injEq, reduceCtorEq] at h
    · subst h
      exact settled_nil
    · subst h
      rw [Place.Even] at heven
      exact settled_nil.literal_cons (by rw [List.count_reverse]; exact heven) (by simp)
  | cons c cs ih =>
    intro place ps h heven
    cases place with
    | outside =>
      rw [Dialect.readFrom] at h
      split at h
      · exact ih _ _ h rfl
      · rename_i hc
        obtain ⟨qs, hq, rfl⟩ := Option.map_eq_some_iff.1 h
        exact (ih _ _ hq trivial).char_cons hc
    | inside raw =>
      rw [Place.Even] at heven
      rw [Dialect.readFrom] at h
      split at h
      · exact ih _ _ h heven
      · rename_i hc
        rw [if_neg (by simp)] at h
        refine ih _ _ h ?_
        rw [Place.Even, List.count_cons_of_ne hc]
        exact heven
    | atQuote raw =>
      rw [Place.Even] at heven
      rw [Dialect.readFrom] at h
      split at h
      -- the second quote of a pair
      · rename_i hc
        refine ih _ _ h ?_
        rw [Place.Even, hc, List.count_cons_self, List.count_cons_self]
        omega
      · rename_i hc
        obtain ⟨qs, hq, rfl⟩ := Option.map_eq_some_iff.1 h
        have hrest := (ih _ _ hq trivial).char_cons hc
        exact hrest.literal_cons (by rw [List.count_reverse]; exact heven)
          (by simp [Piece.isLiteral])
    | escaped raw => exact heven.elim

/-! ## §4. Literals of statements. -/

namespace Dialect

/-- **A literal that a statement holds**, with the pieces before and behind it, and the text that it
denotes there. -/
structure LiteralAt (d : Dialect) (sql literal : String) (text : List Char)
    (before behind : List Piece) : Prop where
  /-- The statement is read with the literal between the other pieces. -/
  read : ∃ raw, d.read? sql = some (before ++ .literal raw :: behind)
    ∧ (Piece.literal raw).source = literal.toList
  /-- Where the reader comes upon the literal it denotes the text, and what is behind it is left. -/
  denotes : d.readLiteral? (literal.toList ++ behind.flatMap Piece.source)
    = some (text, behind.flatMap Piece.source)
  /-- Rendering the statement copies the literal. -/
  copied : (d.render sql).toList
    = d.renderFrom false 0 0 (before.flatMap Piece.source) ++ literal.toList
      ++ d.renderFrom false (slotsOutside false (before.flatMap Piece.source)) 0
        (behind.flatMap Piece.source)

/-- A literal for the texts that hold another one, in a statement that can be read. -/
theorem literalAt_of_read {d : Dialect} {sql s : String} {before behind : List Piece}
    (hown : d.read? sql
      = some (before ++ .literal ('%' :: (d.escapeChars s.toList ++ ['%'])) :: behind))
    (hquotes : oracle.read? sql
      = some (before ++ .literal ('%' :: (d.escapeChars s.toList ++ ['%'])) :: behind)) :
    d.LiteralAt sql (d.patternLiteral s) ('%' :: (s.toList ++ ['%'])) before behind := by
  have hsource : (Piece.literal ('%' :: (d.escapeChars s.toList ++ ['%']))).source
      = (d.patternLiteral s).toList := by
    rw [toList_patternLiteral, Piece.source]
    simp
  have hsettled := Piece.settled_of_readFrom _ _ _ hquotes trivial
  have htext := oracle.source_readFrom _ _ _ hquotes
  rw [List.flatMap_append, List.flatMap_cons, hsource] at htext
  refine ⟨⟨_, hown, hsource⟩, ?_, ?_⟩
  · exact d.readLiteral?_patternLiteral s (Piece.head?_ne_quote_of_settled hsettled)
  · have hcopied := d.render_literal d (Piece.count_quote_of_settled hsettled) s
      (behind.flatMap Piece.source)
    rw [List.append_assoc, htext] at hcopied
    rw [render, String.toList_ofList]
    exact hcopied

end Dialect

end CardStore.Sql
