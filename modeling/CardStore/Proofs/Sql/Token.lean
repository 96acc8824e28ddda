/-
  CardStore.Proofs.Sql.Token
  ──────────────────────────
  **THE TOKENS OF A STATEMENT.**

  What stands outside of literals falls into words, comparison signs and
  single marks, with blanks between them that do not count; a literal is one
  token.  A word or a sign goes on as long as its characters do, so that texts
  one behind the other may grow together where they meet, unless the second
  one begins with something else.

      T0.N BETWEEN ? AND ?
      word word    slot word slot

  Main statements:
    * `lex_append` — texts that do not grow together have their tokens one behind the other.
    * `tokens_leaf`, `tokens_parens`, `tokens_joined` — the tokens of a predicate.
-/
import CardStore.Proofs.Sql.Predicate

namespace CardStore.Sql

open Sql.Piece (chars)

/-! ## §1. Tokens. -/

/-- A token; blanks are kept until all tokens are found. -/
inductive Token where
  /-- A name, a keyword or a number; the name of a column goes on behind a point. -/
  | word (cs : List Char)
  | comparison (cs : List Char)
  | literal (raw : List Char)
  | slot
  | opening
  | closing
  | comma
  | blank
  | other (c : Char)
  deriving DecidableEq, Repr

/-- Whether a token counts. -/
def Token.counts : Token → Bool
  | .blank => false
  | _ => true

def Token.isWord : Token → Bool
  | .word _ => true
  | _ => false

/-- A character of a word. -/
def isWordPart (c : Char) : Bool := isIdentifierPart c || c == '.'

/-- A character of a comparison sign. -/
def isComparisonPart (c : Char) : Bool := c == '<' || c == '=' || c == '>'

/-- The token of a character that always stands for itself. -/
def Token.ofChar (c : Char) : Token :=
  if c = Sql.slot then .slot
  else if c = '(' then .opening
  else if c = ')' then .closing
  else if c = ',' then .comma
  else if c.isWhitespace then .blank
  else .other c

namespace Piece

/-- Put a character in front of tokens, into the word that they begin with if they do. -/
def pushWord (c : Char) : List Token → List Token
  | .word cs :: ts => .word (c :: cs) :: ts
  | ts => .word [c] :: ts

/-- Put a character in front of tokens, into the sign that they begin with if they do. -/
def pushComparison (c : Char) : List Token → List Token
  | .comparison cs :: ts => .comparison (c :: cs) :: ts
  | ts => .comparison [c] :: ts

/-- Put a piece in front of tokens. -/
def push : Piece → List Token → List Token
  | .literal raw, ts => .literal raw :: ts
  | .char c, ts =>
    if isWordPart c then pushWord c ts
    else if isComparisonPart c then pushComparison c ts
    else .ofChar c :: ts

/-- The tokens of pieces, blanks included. -/
def lex (ps : List Piece) : List Token := ps.foldr push []

/-- The tokens of pieces. -/
def tokens (ps : List Piece) : List Token := (lex ps).filter Token.counts

end Piece

/-- The tokens of the text of a statement, by the literal rules of a dialect. -/
def Dialect.tokens? (d : Dialect) (sql : String) : Option (List Token) :=
  (d.read? sql).map Piece.tokens

/-! ## §2. Tokens of texts one behind the other. -/

namespace Piece

/-- Tokens that nothing in front of them goes into. -/
def Breaks : List Token → Prop
  | .word _ :: _ => False
  | .comparison _ :: _ => False
  | _ => True

theorem push_of_breaks (p : Piece) {ts : List Token} (h : Breaks ts) :
    push p ts = push p [] ++ ts := by
  cases p with
  | literal raw => rfl
  | char c =>
    rw [push, push]
    split
    -- only tokens that the character could go into would make a difference
    · cases ts with
      | nil => rfl
      | cons t ts => cases t <;> first | rfl | exact h.elim
    · split
      · cases ts with
        | nil => rfl
        | cons t ts => cases t <;> first | rfl | exact h.elim
      · rfl

/-- What stands behind the first token has no part in it. -/
theorem push_cons_append (p : Piece) (t : Token) (ts us : List Token) :
    push p (t :: ts ++ us) = push p (t :: ts) ++ us := by
  cases p with
  | literal raw => rfl
  | char c =>
    rw [push, push]
    split
    · cases t <;> rfl
    · split
      · cases t <;> rfl
      · rfl

theorem foldr_push_of_breaks (ps : List Piece) {ts : List Token} (h : Breaks ts) :
    ps.foldr push ts = lex ps ++ ts := by
  induction ps with
  | nil => rfl
  | cons p ps ih =>
    rw [List.foldr_cons, ih]
    show _ = push p (lex ps) ++ ts
    -- the piece goes in front of the tokens of its own text, or of what follows if it has none
    cases hps : lex ps with
    | nil => exact push_of_breaks p h
    | cons t us => exact push_cons_append p t us ts

/-- **Texts that do not grow together** have their tokens one behind the other. -/
theorem lex_append (ps : List Piece) {qs : List Piece} (h : Breaks (lex qs)) :
    lex (ps ++ qs) = lex ps ++ lex qs := by
  rw [lex, List.foldr_append]
  exact foldr_push_of_breaks ps h

/-- A word is one token where none follows. -/
theorem lex_word_append {cs : List Char} (hne : cs ≠ []) (hw : ∀ c ∈ cs, isWordPart c = true)
    {qs : List Piece} (hq : ∀ w us, lex qs ≠ .word w :: us) :
    lex (chars cs ++ qs) = .word cs :: lex qs := by
  induction cs with
  | nil => exact absurd rfl hne
  | cons c cs ih =>
    have hc := hw c List.mem_cons_self
    show push (.char c) (lex (chars cs ++ qs)) = _
    rw [push, if_pos hc]
    cases cs with
    | nil =>
      show pushWord c (lex qs) = _
      unfold pushWord
      split
      · rename_i w us hlex
        exact absurd hlex (hq w us)
      · rfl
    | cons d ds =>
      rw [ih (by simp) fun e he => hw e (List.mem_cons_of_mem _ he)]
      rfl

theorem tokens_append_of_breaks (ps : List Piece) {qs : List Piece} (h : Breaks (lex qs)) :
    tokens (ps ++ qs) = tokens ps ++ tokens qs := by
  rw [tokens, lex_append ps h, List.filter_append]
  rfl

end Piece

/-! ## §3. Tokens of predicates. -/

namespace Token

def keyword (s : String) : Token := .word s.toList

/-- The connective of a group. -/
def connective : Logic → Token
  | .and => keyword "AND"
  | .or => keyword "OR"

/-- The word that turns a test into its opposite. -/
def negation (negated : Bool) : List Token := if negated then [keyword "NOT"] else []

/-- Bind slots with commas between them. -/
def slots (n : Nat) : List Token := [.comma].intercalate (List.replicate n [.slot])

theorem filter_counts_slots (n : Nat) : (slots n).filter counts = slots n := by
  rw [List.filter_eq_self]
  intro t ht
  rcases Text.mem_intercalate ht with ht | ⟨part, hpart, ht⟩
  · rw [List.mem_singleton] at ht
    rw [ht]
    rfl
  · rw [List.eq_of_mem_replicate hpart, List.mem_singleton] at ht
    rw [ht]
    rfl

end Token

namespace Piece

theorem push_opening (ts : List Token) : push (.char '(') ts = .opening :: ts := by
  have hw : ¬ isWordPart '(' := by decide
  have hc : ¬ isComparisonPart '(' := by decide
  rw [push, if_neg hw, if_neg hc]
  rfl

theorem lex_brackets (ps : List Piece) :
    lex (.char '(' :: ps ++ [.char ')']) = .opening :: (lex ps ++ [.closing]) := by
  have hclosing : lex [.char ')'] = [.closing] := by decide
  show push (.char '(') (lex (ps ++ [.char ')'])) = _
  rw [lex_append ps (by rw [hclosing]; trivial), hclosing, push_opening]

/-- Brackets are two tokens around those of what stands in them. -/
theorem tokens_brackets (ps : List Piece) :
    tokens (.char '(' :: ps ++ [.char ')']) = .opening :: (tokens ps ++ [.closing]) := by
  rw [tokens, lex_brackets, List.filter_cons_of_pos rfl, List.filter_append]
  rfl

theorem lex_connective_append (logic : Logic) (qs : List Piece) :
    lex (chars (connective logic).toList ++ qs)
      = .blank :: .connective logic :: .blank :: lex qs := by
  have hblank : lex (.char ' ' :: qs) = .blank :: lex qs := by
    have hw : ¬ isWordPart ' ' := by decide
    have hc : ¬ isComparisonPart ' ' := by decide
    show push (.char ' ') (lex qs) = _
    rw [push, if_neg hw, if_neg hc]
    rfl
  -- the blank at the end keeps the word of the connective apart from what follows
  have hfront : ∃ front, chars (connective logic).toList = front ++ [.char ' ']
      ∧ lex front = [.blank, .connective logic] := by
    cases logic with
    | and => exact ⟨chars " AND".toList, by decide, by decide⟩
    | or => exact ⟨chars " OR".toList, by decide, by decide⟩
  obtain ⟨front, hchars, hlex⟩ := hfront
  rw [hchars, List.append_assoc, List.singleton_append,
    lex_append front (by rw [hblank]; trivial), hblank, hlex]
  rfl

theorem tokens_connective_append (logic : Logic) (qs : List Piece) :
    tokens (chars (connective logic).toList ++ qs) = .connective logic :: tokens qs := by
  rw [tokens, lex_connective_append]
  cases logic <;> rfl

/-- Texts with a connective between them have their tokens with the connective between them. -/
theorem tokens_intercalate (logic : Logic) (pss : List (List Piece)) :
    tokens ((chars (connective logic).toList).intercalate pss)
      = [Token.connective logic].intercalate (pss.map tokens) := by
  induction pss with
  | nil => rfl
  | cons ps pss ih =>
    cases pss with
    | nil => simp
    | cons qs pss =>
      -- a connective begins with a blank, which nothing in front of it goes into
      have hbreaks : Breaks (lex (chars (connective logic).toList
          ++ (chars (connective logic).toList).intercalate (qs :: pss))) := by
        rw [lex_connective_append]
        trivial
      rw [List.intercalate_cons_cons, List.append_assoc, tokens_append_of_breaks ps hbreaks,
        tokens_connective_append, ih]
      simp

theorem isWordPart_of_isIdentifierPart {c : Char} (h : isIdentifierPart c = true) :
    isWordPart c = true := by
  rw [isWordPart, h, Bool.true_or]

/-- The two names of a column and the point between them are parts of one word. -/
theorem isWordPart_of_qualified {column : String} (hq : Qualified column) :
    ∀ c ∈ column.toList, isWordPart c = true := by
  obtain ⟨table, name, ht, hn, rfl⟩ := hq
  intro c hc
  rw [String.toList_append, String.toList_append, List.mem_append, List.mem_append] at hc
  rcases hc with (hc | hc) | hc
  · exact isWordPart_of_isIdentifierPart (ht.2 c hc)
  · rw [List.mem_singleton.1 (show c ∈ ['.'] from hc)]
    decide
  · exact isWordPart_of_isIdentifierPart (hn.2 c hc)

/-- A column is one token where no word follows. -/
theorem tokens_column_append {column : String} (hq : Qualified column) {qs : List Piece}
    {t : Token} {ts : List Token} (hlex : lex qs = t :: ts) (ht : t.isWord = false) :
    tokens (chars column.toList ++ qs)
      = .word column.toList :: (t :: ts).filter Token.counts := by
  have hnext : ∀ w us, lex qs ≠ .word w :: us := by
    intro w us h
    rw [hlex, List.cons.injEq] at h
    rw [h.1] at ht
    cases ht
  rw [tokens, lex_word_append hq.ne_nil (isWordPart_of_qualified hq) hnext, List.filter_cons_of_pos rfl, hlex]

theorem lex_slots (n : Nat) : lex (chars (Predicate.slots n).toList) = Token.slots n := by
  rw [Predicate.toList_slots, Token.slots]
  induction n with
  | zero => rfl
  | succ n ih =>
    cases n with
    | zero => decide
    | succ n =>
      -- slots and commas are tokens of their own, whatever follows
      have hmarks : ∀ ts, push (.char slot) (push (.char ',') ts) = .slot :: .comma :: ts := by
        intro ts
        have hslot : ¬ isWordPart slot ∧ ¬ isComparisonPart slot := by decide
        have hcomma : ¬ isWordPart ',' ∧ ¬ isComparisonPart ',' := by decide
        rw [push, if_neg hslot.1, if_neg hslot.2, push, if_neg hcomma.1, if_neg hcomma.2]
        rfl
      simp only [List.replicate_succ, List.intercalate_cons_cons] at ih ⊢
      rw [← ih]
      exact hmarks _

end Piece

namespace Predicate

/-- The tokens of a predicate on one column. -/
def leafTokens (d : Dialect) : Predicate → List Token
  | .compare column c _ => [.word column.toList, .comparison c.symbol.toList, .slot]
  | .isNull column negated =>
    .word column.toList :: .keyword "IS" :: (Token.negation negated ++ [.keyword "NULL"])
  | .isIn _ negated [] => [.keyword "1", .comparison ['='], .keyword (if negated then "1" else "0")]
  | .isIn column negated (v :: vs) =>
    .word column.toList :: (Token.negation negated
      ++ .keyword "IN" :: .opening :: (Token.slots (v :: vs).length ++ [.closing]))
  | .like column negated pattern =>
    .word column.toList :: (Token.negation negated
      ++ [.keyword "LIKE", .literal ('%' :: (d.escapeChars pattern.toList ++ ['%']))])
  | .between column negated _ _ =>
    .word column.toList :: (Token.negation negated
      ++ [.keyword "BETWEEN", .slot, .keyword "AND", .slot])
  | .parens _ => []
  | .joined _ _ => []

/-- **The tokens of a leaf.** -/
theorem tokens_leaf (d : Dialect) {p : Predicate} {column : String}
    (hp : p.column? = some column) (hq : Qualified column) :
    Piece.tokens (p.pieces d) = p.leafTokens d := by
  cases p with
  | parens p => cases hp
  | joined logic ps => cases hp
  | compare column c value =>
    obtain rfl : column = _ := Option.some.inj hp
    have hlex : Piece.lex (chars (c.symbol.toList ++ "?".toList))
        = [.comparison c.symbol.toList, .slot] := by
      cases c <;> decide +kernel
    show Piece.tokens (chars (column ++ c.symbol ++ "?").toList) = _
    rw [String.toList_append, String.toList_append, List.append_assoc, Piece.chars_append,
      Piece.tokens_column_append hq hlex rfl]
    rfl
  | isNull column negated =>
    obtain rfl : column = _ := Option.some.inj hp
    have hlex : Piece.lex (chars (if negated then " IS NOT NULL" else " IS NULL").toList)
        = .blank :: .keyword "IS" :: .blank
          :: (if negated then [.keyword "NOT", .blank, .keyword "NULL"]
            else [.keyword "NULL"]) := by
      cases negated <;> decide +kernel
    show Piece.tokens (chars (column ++ _).toList) = _
    rw [String.toList_append, Piece.chars_append, Piece.tokens_column_append hq hlex rfl]
    cases negated <;> rfl
  | isIn column negated items =>
    obtain rfl : column = _ := Option.some.inj hp
    cases items with
    | nil =>
      show Piece.tokens (chars (if negated then "1=1" else "1=0").toList)
        = [.keyword "1", .comparison ['='], .keyword (if negated then "1" else "0")]
      cases negated <;> decide +kernel
    | cons v vs =>
      have hword : Piece.lex (chars (" ".toList ++ (Operator.isIn negated).symbol.toList
          ++ " ".toList)) = .blank :: (if negated
            then [.keyword "NOT", .blank, .keyword "IN", .blank]
            else [.keyword "IN", .blank]) := by
        cases negated <;> decide +kernel
      have hbrackets : Piece.lex (.char '(' :: chars (slots (v :: vs).length).toList
          ++ [.char ')']) = .opening :: (Token.slots (v :: vs).length ++ [.closing]) := by
        rw [Piece.lex_brackets, Piece.lex_slots]
      -- the bracket breaks the text in two: words in front, the list behind
      have hlex : Piece.lex (chars (" ".toList ++ (Operator.isIn negated).symbol.toList
          ++ " ".toList) ++ (.char '(' :: chars (slots (v :: vs).length).toList ++ [.char ')']))
            = .blank :: ((if negated
              then [.keyword "NOT", .blank, .keyword "IN", .blank]
              else [.keyword "IN", .blank])
                ++ .opening :: (Token.slots (v :: vs).length ++ [.closing])) := by
        rw [Piece.lex_append _ (by rw [hbrackets]; trivial), hword, hbrackets]
        rfl
      rw [pieces, String.toList_append, String.toList_append, String.toList_append,
        List.append_assoc, List.append_assoc, Piece.chars_append, List.append_assoc,
        ← List.append_assoc " ".toList, Piece.tokens_column_append hq hlex rfl,
        List.filter_cons_of_neg (by decide), List.filter_append, List.filter_cons_of_pos rfl,
        List.filter_append, Token.filter_counts_slots]
      cases negated <;> rfl
  | like column negated pattern =>
    obtain rfl : column = _ := Option.some.inj hp
    have hword : Piece.lex (chars (" ".toList ++ (Operator.like negated).symbol.toList
        ++ " ".toList)) = .blank :: (if negated
          then [.keyword "NOT", .blank, .keyword "LIKE", .blank]
          else [.keyword "LIKE", .blank]) := by
      cases negated <;> decide +kernel
    have hlex : ∀ raw, Piece.lex (chars (" ".toList ++ (Operator.like negated).symbol.toList
        ++ " ".toList) ++ [.literal raw]) = .blank :: ((if negated
          then [.keyword "NOT", .blank, .keyword "LIKE", .blank]
          else [.keyword "LIKE", .blank]) ++ [.literal raw]) := by
      intro raw
      rw [Piece.lex_append _ (show Piece.Breaks (Piece.lex [.literal raw]) from trivial), hword]
      rfl
    rw [pieces, String.toList_append, String.toList_append, String.toList_append,
      List.append_assoc, List.append_assoc, Piece.chars_append, List.append_assoc,
      ← List.append_assoc " ".toList, Piece.tokens_column_append hq (hlex _) rfl]
    cases negated <;> rfl
  | between column negated low high =>
    obtain rfl : column = _ := Option.some.inj hp
    have hlex : Piece.lex (chars (" ".toList ++ (Operator.between negated).symbol.toList
        ++ " ? AND ?".toList)) = .blank :: (if negated
          then [.keyword "NOT", .blank, .keyword "BETWEEN", .blank, .slot, .blank, .keyword "AND",
            .blank, .slot]
          else [.keyword "BETWEEN", .blank, .slot, .blank, .keyword "AND", .blank, .slot]) := by
      cases negated <;> decide +kernel
    show Piece.tokens (chars (column ++ " " ++ _ ++ " ? AND ?").toList) = _
    rw [String.toList_append, String.toList_append, String.toList_append,
      List.append_assoc, List.append_assoc, Piece.chars_append, ← List.append_assoc " ".toList,
      Piece.tokens_column_append hq hlex rfl]
    cases negated <;> rfl

theorem tokens_parens (d : Dialect) (p : Predicate) :
    Piece.tokens (pieces d (.parens p))
      = .opening :: (Piece.tokens (p.pieces d) ++ [.closing]) := by
  rw [pieces]
  exact Piece.tokens_brackets _

theorem tokens_joined (d : Dialect) (logic : Logic) (ps : List Predicate) :
    Piece.tokens (pieces d (.joined logic ps))
      = [Token.connective logic].intercalate (ps.map fun p => Piece.tokens (p.pieces d)) := by
  rw [pieces, piecesAll_eq_map, Piece.tokens_intercalate, List.map_map]
  rfl

end Predicate

end CardStore.Sql
