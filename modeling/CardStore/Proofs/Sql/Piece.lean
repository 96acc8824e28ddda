/-
  CardStore.Proofs.Sql.Piece
  ──────────────────────────
  **LITERALS AS A BACKEND READS THEM.**

  A backend cuts the text of a statement into quoted literals and the
  characters that stand outside of them.  A quote opens a literal, a doubled
  quote inside stands for one, any other quote closes it; on MySQL a backslash
  inside takes the next character along, whatever it is.

      T0.MC LIKE '%a''b%' AND T0.ID=?
      └─ chars ─┘└literal┘└── chars ──┘

  Main statements:
    * `source_readFrom` — reading loses nothing of the text.
    * `Reads.append` — texts that are read by themselves are read the same way
      one behind the other.
    * `readFrom_escape` — a text that was escaped for a literal stays inside of it.
-/
import CardStore.Sql.Dialect

namespace CardStore.Sql

/-! ## §1. Pieces of a text. -/

/-- A character outside of literals, or a literal with the text between its quotes. -/
inductive Piece where
  | char (c : Char)
  | literal (raw : List Char)
  deriving DecidableEq, Repr

namespace Piece

/-- The text of a piece. -/
def source : Piece → List Char
  | .char c => [c]
  | .literal raw => quote :: raw ++ [quote]

/-- Characters outside of literals. -/
def chars (cs : List Char) : List Piece := cs.map .char

@[simp] theorem chars_nil : chars [] = [] := rfl

@[simp] theorem chars_cons (c : Char) (cs : List Char) : chars (c :: cs) = .char c :: chars cs :=
  rfl

@[simp] theorem chars_append (cs ds : List Char) : chars (cs ++ ds) = chars cs ++ chars ds :=
  List.map_append

end Piece

/-! ## §2. The reader. -/

/-- Where a reader stands; the text of a literal that it has read so far is kept last character
first. -/
inductive Place where
  | outside
  | inside (raw : List Char)
  /-- Behind a quote that closes the literal unless another one follows. -/
  | atQuote (raw : List Char)
  /-- Behind a backslash that takes the next character along. -/
  | escaped (raw : List Char)

namespace Dialect

/-- Read a text from a place on; a literal that is never closed cannot be read. -/
def readFrom (d : Dialect) : Place → List Char → Option (List Piece)
  | .outside, [] => some []
  | .inside _, [] => none
  | .atQuote raw, [] => some [.literal raw.reverse]
  | .escaped _, [] => none
  | .outside, c :: cs =>
    if c = quote then d.readFrom (.inside []) cs
    else (d.readFrom .outside cs).map (Piece.char c :: ·)
  | .inside raw, c :: cs =>
    if c = quote then d.readFrom (.atQuote raw) cs
    else if d = .mysql ∧ c = backslash then d.readFrom (.escaped (c :: raw)) cs
    else d.readFrom (.inside (c :: raw)) cs
  | .atQuote raw, c :: cs =>
    if c = quote then d.readFrom (.inside (c :: quote :: raw)) cs
    else (d.readFrom .outside cs).map ([Piece.literal raw.reverse, Piece.char c] ++ ·)
  | .escaped raw, c :: cs => d.readFrom (.inside (c :: raw)) cs

/-- Read the text of a statement. -/
def read? (d : Dialect) (sql : String) : Option (List Piece) := d.readFrom .outside sql.toList

/-- What has been read of a literal at a place, its opening quote included. -/
def consumed : Place → List Char
  | .outside => []
  | .inside raw => quote :: raw.reverse
  | .atQuote raw => quote :: raw.reverse ++ [quote]
  | .escaped raw => quote :: raw.reverse

/-- **Reading loses nothing**: the pieces, one behind the other, are the text. -/
theorem source_readFrom (d : Dialect) :
    ∀ (cs : List Char) (place : Place) (ps : List Piece),
      d.readFrom place cs = some ps → ps.flatMap Piece.source = consumed place ++ cs := by
  intro cs
  induction cs with
  | nil =>
    intro place ps h
    -- a text may end outside of literals or behind a closing quote, and nowhere else
    cases place <;> simp only [readFrom, Option.some.injEq, reduceCtorEq] at h
    · subst h
      rfl
    · subst h
      simp [Piece.source, consumed]
  | cons c cs ih =>
    intro place ps h
    cases place with
    | outside =>
      rw [readFrom] at h
      split at h
      · rename_i hc
        -- the quote that opens a literal is not in a piece yet, but consumed
        rw [ih _ _ h, hc]
        rfl
      · obtain ⟨qs, hq, rfl⟩ := Option.map_eq_some_iff.1 h
        rw [List.flatMap_cons, ih _ _ hq]
        rfl
    | inside raw =>
      rw [readFrom] at h
      split at h
      · rename_i hc
        rw [ih _ _ h, hc]
        simp [consumed]
      · split at h
        · rw [ih _ _ h]
          simp [consumed]
        · rw [ih _ _ h]
          simp [consumed]
    | atQuote raw =>
      rw [readFrom] at h
      split at h
      -- doubled, so the literal goes on; else it is closed, and the character is outside
      · rw [ih _ _ h]
        simp [consumed]
      · obtain ⟨qs, hq, rfl⟩ := Option.map_eq_some_iff.1 h
        rw [List.flatMap_append, ih _ _ hq]
        simp [Piece.source, consumed]
    | escaped raw =>
      rw [readFrom] at h
      rw [ih _ _ h]
      simp [consumed]

/-! ## §3. Texts one behind the other. -/

/-- A text is read as some pieces, and does not go on with a literal that ends right before it. -/
structure Reads (d : Dialect) (cs : List Char) (ps : List Piece) : Prop where
  read : d.readFrom .outside cs = some ps
  front : cs.head? ≠ some quote

/-- A text behind a closed literal is read as it would be by itself. -/
theorem Reads.readFrom_atQuote {d : Dialect} {cs : List Char} {ps : List Piece}
    (h : d.Reads cs ps) (raw : List Char) :
    d.readFrom (.atQuote raw) cs = some (.literal raw.reverse :: ps) := by
  cases cs with
  | nil =>
    have hr := h.read
    rw [readFrom, Option.some.injEq] at hr
    subst hr
    rfl
  | cons c cs =>
    have hc : c ≠ quote := by
      intro hc
      exact h.front (by rw [hc]; rfl)
    have hr := h.read
    rw [readFrom, if_neg hc] at hr
    obtain ⟨qs, hq, rfl⟩ := Option.map_eq_some_iff.1 hr
    rw [readFrom, if_neg hc, hq]
    rfl

/-- The text in front may begin anywhere, so that the induction on it passes through literals. -/
theorem Reads.readFrom_append {d : Dialect} {bs : List Char} {qs : List Piece}
    (hb : d.Reads bs qs) :
    ∀ (cs : List Char) (place : Place) (ps : List Piece),
      d.readFrom place cs = some ps → d.readFrom place (cs ++ bs) = some (ps ++ qs) := by
  intro cs
  induction cs with
  | nil =>
    intro place ps h
    cases place <;> simp only [readFrom, Option.some.injEq, reduceCtorEq] at h
    -- this is where the front of the second text matters: a quote there would be a doubled one
    · subst h
      exact hb.read
    · subst h
      exact hb.readFrom_atQuote _
  | cons c cs ih =>
    intro place ps h
    rw [List.cons_append]
    cases place with
    | outside =>
      rw [readFrom] at h ⊢
      split
      · rename_i hc
        rw [if_pos hc] at h
        exact ih _ _ h
      · rename_i hc
        rw [if_neg hc] at h
        obtain ⟨rs, hr, rfl⟩ := Option.map_eq_some_iff.1 h
        rw [ih _ _ hr]
        rfl
    | inside raw =>
      rw [readFrom] at h ⊢
      split
      · rename_i hc
        rw [if_pos hc] at h
        exact ih _ _ h
      · rename_i hc
        rw [if_neg hc] at h
        split
        · rename_i hb
          rw [if_pos hb] at h
          exact ih _ _ h
        · rename_i hb
          rw [if_neg hb] at h
          exact ih _ _ h
    | atQuote raw =>
      rw [readFrom] at h ⊢
      split
      · rename_i hc
        rw [if_pos hc] at h
        exact ih _ _ h
      · rename_i hc
        rw [if_neg hc] at h
        obtain ⟨rs, hr, rfl⟩ := Option.map_eq_some_iff.1 h
        rw [ih _ _ hr]
        rfl
    | escaped raw =>
      rw [readFrom] at h ⊢
      exact ih _ _ h

/-- **Texts one behind the other** are read as their pieces one behind the other. -/
theorem Reads.append {d : Dialect} {cs bs : List Char} {ps qs : List Piece}
    (ha : d.Reads cs ps) (hb : d.Reads bs qs) : d.Reads (cs ++ bs) (ps ++ qs) := by
  refine ⟨hb.readFrom_append cs .outside ps ha.read, ?_⟩
  cases cs with
  | nil => exact hb.front
  | cons c cs => exact ha.front

/-- A text without quotes is read character by character. -/
theorem readFrom_chars_append (d : Dialect) (rest : List Char) :
    ∀ (cs : List Char), quote ∉ cs →
      d.readFrom .outside (cs ++ rest)
        = (d.readFrom .outside rest).map (Piece.chars cs ++ ·) := by
  intro cs
  induction cs with
  | nil =>
    intro _
    simp
  | cons c cs ih =>
    intro h
    have hc : c ≠ quote := fun hc => h (hc ▸ List.mem_cons_self)
    rw [List.cons_append, readFrom, if_neg hc, ih fun hq => h (List.mem_cons_of_mem _ hq),
      Option.map_map]
    rfl

theorem Reads.of_not_mem (d : Dialect) {cs : List Char} (h : quote ∉ cs) :
    d.Reads cs (Piece.chars cs) := by
  constructor
  · have hr := d.readFrom_chars_append [] cs h
    rw [List.append_nil] at hr
    rw [hr]
    simp [readFrom]
  · intro hf
    exact h (List.mem_of_mem_head? hf)

/-! ## §4. Escaped texts. -/

/-- Whether text composed for one dialect is read as meant by the literal rules of another: by
its own rules it is, and also where quotes are all that counts. -/
def ReadableBy (d r : Dialect) : Prop := r = d ∨ r = .oracle

theorem quote_ne_backslash : quote ≠ backslash := by decide

theorem readFrom_doubleQuotes (rest : List Char) :
    ∀ (s raw : List Char),
      oracle.readFrom (.inside raw) (doubleQuotes s ++ rest)
        = oracle.readFrom (.inside ((doubleQuotes s).reverse ++ raw)) rest := by
  intro s
  induction s with
  | nil =>
    intro raw
    rfl
  | cons c s ih =>
    intro raw
    rw [doubleQuotes]
    split
    -- behind the first quote the reader waits, and the second one brings it back
    · show oracle.readFrom (.inside raw) (quote :: quote :: (doubleQuotes s ++ rest)) = _
      rw [readFrom, if_pos rfl, readFrom, if_pos rfl, ih]
      simp
    · rename_i hc
      show oracle.readFrom (.inside raw) (c :: (doubleQuotes s ++ rest)) = _
      rw [readFrom, if_neg hc, if_neg (by simp), ih]
      simp

/-- By the rules of MySQL a doubled backslash is one that takes the other along; where only
quotes count, both are plain characters. -/
theorem readFrom_doubleBackslashes (r : Dialect) (rest : List Char) :
    ∀ (s raw : List Char),
      r.readFrom (.inside raw) (doubleBackslashes (doubleQuotes s) ++ rest)
        = r.readFrom (.inside ((doubleBackslashes (doubleQuotes s)).reverse ++ raw)) rest := by
  intro s
  induction s with
  | nil =>
    intro raw
    rfl
  | cons c s ih =>
    intro raw
    rw [doubleQuotes]
    split
    · simp only [doubleBackslashes, if_neg quote_ne_backslash]
      show r.readFrom (.inside raw)
        (quote :: quote :: (doubleBackslashes (doubleQuotes s) ++ rest)) = _
      rw [readFrom, if_pos rfl, readFrom, if_pos rfl, ih]
      simp
    · rename_i hc
      rw [doubleBackslashes]
      split
      · rename_i hb
        subst hb
        show r.readFrom (.inside raw)
          (backslash :: backslash :: (doubleBackslashes (doubleQuotes s) ++ rest)) = _
        cases r with
        -- the first backslash takes the second one along
        | mysql =>
          rw [readFrom, if_neg hc, if_pos ⟨rfl, rfl⟩, readFrom, ih]
          simp
        -- a backslash is a character like any other
        | oracle =>
          rw [readFrom, if_neg hc, if_neg (by simp), readFrom, if_neg hc, if_neg (by simp), ih]
          simp
      · rename_i hb
        show r.readFrom (.inside raw) (c :: (doubleBackslashes (doubleQuotes s) ++ rest)) = _
        rw [readFrom, if_neg hc, if_neg fun h => hb h.2, ih]
        simp

/-- **A text that was escaped for a literal stays inside of it.** -/
theorem readFrom_escape {d r : Dialect} (h : d.ReadableBy r) (s rest raw : List Char) :
    r.readFrom (.inside raw) (d.escapeChars s ++ rest)
      = r.readFrom (.inside ((d.escapeChars s).reverse ++ raw)) rest := by
  cases d with
  | mysql => exact readFrom_doubleBackslashes r rest s raw
  | oracle =>
    -- quotes are all that the dialect escapes, so quotes must be all that counts
    have hr : r = .oracle := h.elim id id
    subst hr
    exact readFrom_doubleQuotes rest s raw

/-- A literal of an escaped text, with plain text in front of it and plain characters around the
escaped ones, is one piece. -/
theorem Reads.literal {d r : Dialect} (h : d.ReadableBy r) {cs : List Char} (hne : cs ≠ [])
    (hcs : quote ∉ cs) (s : List Char) :
    r.Reads (cs ++ quote :: '%' :: (d.escapeChars s ++ ['%', quote]))
      (Piece.chars cs ++ [.literal ('%' :: (d.escapeChars s ++ ['%']))]) := by
  have hp : ('%' : Char) ≠ quote := by decide
  have hb : ('%' : Char) ≠ backslash := by decide
  constructor
  · rw [readFrom_chars_append r _ cs hcs, readFrom, if_pos rfl, readFrom, if_neg hp,
      if_neg fun h => hb h.2, readFrom_escape h, readFrom, if_neg hp, if_neg fun h => hb h.2,
      readFrom, if_pos rfl, readFrom]
    simp
  · obtain ⟨c, cs, rfl⟩ := List.exists_cons_of_ne_nil hne
    intro hf
    have hc : c = quote := by simpa using hf
    exact hcs (hc ▸ List.mem_cons_self)

end Dialect

end CardStore.Sql
