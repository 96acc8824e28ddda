/-
  CardStore.Proofs.Sql.Slice
  ──────────────────────────
  **THE ROWS THAT A CLAUSE LETS THROUGH.**

  A server numbers the rows of a result from 0, skips some of them and stops
  after others.  MySQL writes both numbers behind one word, in either order,
  and knows no skipping without stopping.  Oracle has a clause for each, and
  either of them may be missing.

      MySQL     LIMIT 20,10                               rows 20 to 29
      Oracle    OFFSET 20 ROWS FETCH NEXT 10 ROWS ONLY    rows 20 to 29

  Main statements:
    * `Dialect.slice?_limitClause` — the clauses are read by the servers that they are for.
    * `Dialect.selects_sliceOf_iff` — and let the rows through that were asked for.
-/
import CardStore.Proofs.Sql.Native

namespace CardStore.Sql

open Sql.Token (keyword)

/-! ## §1. Slices. -/

/-- The rows that are let through: those behind some that are skipped, and no more than a number of
them if there is one. -/
structure Slice where
  skip : Nat
  count : Option Nat
  deriving DecidableEq, Repr

/-- Whether the row at an index is let through. -/
def Slice.Selects (s : Slice) (k : Nat) : Prop := s.skip ≤ k ∧ ∀ n ∈ s.count, k < s.skip + n

instance (s : Slice) (k : Nat) : Decidable (s.Selects k) :=
  inferInstanceAs (Decidable (s.skip ≤ k ∧ ∀ n ∈ s.count, k < s.skip + n))

/-! ## §2. How servers read clauses. -/

namespace Token

/-- The token of a number. -/
def numeral (n : Nat) : Token := .word (Text.digitChars n)

/-- The number that a word of digits stands for. -/
def number? : Token → Option Nat
  | .word cs => if cs ≠ [] ∧ cs.all Char.isDigit then some (digitsValue 0 cs) else none
  | _ => none

/-- The number of a clause of MySQL, which has 64 bits. -/
def limitNumber? (t : Token) : Option Nat := t.number?.filter (· ≤ offsetLimit)

/-- The word for rows, of which there may be one. -/
def isRows (t : Token) : Bool := t = keyword "ROWS" ∨ t = keyword "ROW"

theorem number?_numeral (n : Nat) : (numeral n).number? = some n := by
  show (if Text.digitChars n ≠ [] ∧ _ then _ else none) = _
  rw [if_pos ⟨Text.digitChars_ne_nil n, Text.all_isDigit_digitChars n⟩,
    Text.digitsValue_digitChars]

theorem limitNumber?_numeral {n : Nat} (h : n ≤ offsetLimit) :
    (numeral n).limitNumber? = some n := by
  rw [limitNumber?, number?_numeral, Option.filter_some, if_pos (decide_eq_true h)]

theorem written_numeral (d : Dialect) (n : Nat) : (numeral n).Written d :=
  ⟨Text.digitChars_ne_nil n, fun c hc =>
    Piece.isWordPart_of_isIdentifierPart (isIdentifierPart_digits n c hc)⟩

end Token

open Token (numeral number? limitNumber? isRows)

namespace Dialect

/-- Read the clause of MySQL: `LIMIT count`, `LIMIT skip,count` or `LIMIT count OFFSET skip`. -/
def limitSlice? : List Token → Option Slice
  | [] => some ⟨0, none⟩
  | [limit, n] =>
    if limit = keyword "LIMIT" then (limitNumber? n).map fun n => ⟨0, some n⟩ else none
  | [limit, m, mark, n] =>
    if limit = keyword "LIMIT" then do
      let m ← limitNumber? m
      let n ← limitNumber? n
      if mark = .comma then some ⟨m, some n⟩
      else if mark = keyword "OFFSET" then some ⟨n, some m⟩
      else none
    else none
  | _ => none

/-- Read the second clause of Oracle, `FETCH NEXT count ROWS ONLY`, if it is there; one row is
fetched where no number is given. -/
def fetchCount? : List Token → Option (Option Nat)
  | [] => some none
  | [fetch, next, rows, only] =>
    if fetch = keyword "FETCH" ∧ (next = keyword "NEXT" ∨ next = keyword "FIRST") ∧ isRows rows
        ∧ only = keyword "ONLY" then some (some 1) else none
  | [fetch, next, n, rows, only] =>
    if fetch = keyword "FETCH" ∧ (next = keyword "NEXT" ∨ next = keyword "FIRST") ∧ isRows rows
        ∧ only = keyword "ONLY" then (number? n).map some else none
  | _ => none

/-- Read the clauses of Oracle, the first of which is `OFFSET skip ROWS` if it is there. -/
def fetchSlice? : List Token → Option Slice
  | offset :: n :: rows :: rest =>
    if offset = keyword "OFFSET" ∧ isRows rows then do
      let skip ← number? n
      let count ← fetchCount? rest
      some ⟨skip, count⟩
    else (fetchCount? (offset :: n :: rows :: rest)).map fun count => ⟨0, count⟩
  | ts => (fetchCount? ts).map fun count => ⟨0, count⟩

/-- Read the tokens of a clause by the syntax of a server. -/
def clauseSlice? : Dialect → List Token → Option Slice
  | .mysql => limitSlice?
  | .oracle => fetchSlice?

/-- The rows that a server lets through for the text of a clause, if it can read it. -/
def slice? (d : Dialect) (clause : String) : Option Slice :=
  (d.tokens? clause).bind d.clauseSlice?

/-! ## §3. The clauses that are written. -/

/-- The clause of MySQL that skips and stops. -/
def limitTokens (o l : Nat) : List Token :=
  [.blank, keyword "LIMIT", .blank, numeral o, .comma, numeral l]

/-- The clause of Oracle that skips. -/
def offsetTokens (o : Nat) : List Token :=
  [.blank, keyword "OFFSET", .blank, numeral o, .blank, keyword "ROWS"]

/-- The clause of Oracle that stops. -/
def fetchTokens (l : Nat) : List Token :=
  [.blank, keyword "FETCH", .blank, keyword "NEXT", .blank, numeral l, .blank, keyword "ROWS",
    .blank, keyword "ONLY"]

/-- The tokens that a clause is written as. -/
def clauseTokens : Dialect → (limit offset : Option Nat) → List Token
  | _, none, none => []
  | .mysql, some l, some o => limitTokens o l
  | .mysql, some l, none => [.blank, keyword "LIMIT", .blank, numeral l]
  | .mysql, none, some o => limitTokens o offsetLimit
  | .oracle, some l, offset => offsetTokens (offset.getD 0) ++ fetchTokens l
  | .oracle, none, some o => offsetTokens o

/-- What a clause is to let through; MySQL stops after as many rows as it can count where it is
not asked to stop. -/
def sliceOf : Dialect → (limit offset : Option Nat) → Slice
  | .mysql, none, some o => ⟨o, some offsetLimit⟩
  | _, limit, offset => ⟨offset.getD 0, limit⟩

theorem source_limitTokens (o l : Nat) : (limitTokens o l).flatMap Token.source
    = " LIMIT ".toList ++ (Text.digitChars o ++ (",".toList ++ Text.digitChars l)) := by
  simp only [limitTokens, keyword, numeral, List.flatMap_cons, List.flatMap_nil, Token.source,
    List.append_nil]
  rfl

theorem source_offsetTokens (o : Nat) : (offsetTokens o).flatMap Token.source
    = " OFFSET ".toList ++ (Text.digitChars o ++ " ROWS".toList) := by
  simp only [offsetTokens, keyword, numeral, List.flatMap_cons, List.flatMap_nil, Token.source,
    List.append_nil]
  rfl

theorem source_fetchTokens (l : Nat) : (fetchTokens l).flatMap Token.source
    = " FETCH NEXT ".toList ++ (Text.digitChars l ++ " ROWS ONLY".toList) := by
  simp only [fetchTokens, keyword, numeral, List.flatMap_cons, List.flatMap_nil, Token.source,
    List.append_nil]
  rfl

/-- **A clause is the text of its tokens.** -/
theorem source_clauseTokens (d : Dialect) (limit offset : Option Nat) :
    (d.clauseTokens limit offset).flatMap Token.source = (d.limitClause limit offset).toList := by
  have hnext : " ROWS FETCH NEXT ".toList = " ROWS".toList ++ " FETCH NEXT ".toList := by decide
  have hfirst : " OFFSET 0 ROWS FETCH NEXT ".toList
      = " OFFSET ".toList ++ ('0' :: " ROWS FETCH NEXT ".toList) := by decide
  have hzero : Text.digitChars 0 = ['0'] := Text.digitChars_of_lt (by decide)
  match d, limit, offset with
  | .mysql, none, none => rfl
  | .oracle, none, none => rfl
  | .mysql, some l, some o =>
    show _ = (" LIMIT " ++ Text.ofNat o ++ "," ++ Text.ofNat l).toList
    simp only [clauseTokens, source_limitTokens, Text.ofNat, String.toList_append,
      String.toList_ofList, List.append_assoc]
  | .mysql, some l, none =>
    show _ = (" LIMIT " ++ Text.ofNat l).toList
    simp only [clauseTokens, keyword, numeral, List.flatMap_cons, List.flatMap_nil, Token.source,
      List.append_nil, Text.ofNat, String.toList_append, String.toList_ofList]
    rfl
  | .mysql, none, some o =>
    show _ = (" LIMIT " ++ Text.ofNat o ++ "," ++ Text.ofNat offsetLimit).toList
    simp only [clauseTokens, source_limitTokens, Text.ofNat, String.toList_append,
      String.toList_ofList, List.append_assoc]
  | .oracle, some l, some o =>
    show _ = (" OFFSET " ++ Text.ofNat o ++ " ROWS FETCH NEXT " ++ Text.ofNat l
      ++ " ROWS ONLY").toList
    simp only [clauseTokens, List.flatMap_append, source_offsetTokens, source_fetchTokens,
      Option.getD_some, Text.ofNat, String.toList_append, String.toList_ofList, hnext,
      List.append_assoc]
  | .oracle, some l, none =>
    show _ = (" OFFSET 0 ROWS FETCH NEXT " ++ Text.ofNat l ++ " ROWS ONLY").toList
    simp only [clauseTokens, List.flatMap_append, source_offsetTokens, source_fetchTokens,
      Option.getD_none, Text.ofNat, String.toList_append, String.toList_ofList, hfirst, hnext,
      hzero, List.append_assoc, List.cons_append, List.nil_append]
  | .oracle, none, some o =>
    show _ = (" OFFSET " ++ Text.ofNat o ++ " ROWS").toList
    simp only [clauseTokens, source_offsetTokens, Text.ofNat, String.toList_append,
      String.toList_ofList, List.append_assoc]

variable {d : Dialect}

theorem legible_limitTokens (o l : Nat) : Token.Legible d (limitTokens o l) := by
  refine .mark_cons rfl trivial ?_
  refine .word_mark (Token.written_word (by decide)) rfl trivial ?_
  refine .word_mark (Token.written_numeral d o) rfl trivial ?_
  exact .singleton (Token.written_numeral d l)

theorem legible_offsetTokens (o : Nat) : Token.Legible d (offsetTokens o) := by
  refine .mark_cons rfl trivial ?_
  refine .word_mark (Token.written_word (by decide)) rfl trivial ?_
  refine .word_mark (Token.written_numeral d o) rfl trivial ?_
  exact .singleton (Token.written_word (by decide))

/-- The clause that stops begins with a blank, so it may stand behind any tokens. -/
theorem legible_append_fetchTokens {ts : List Token} (h : Token.Legible d ts) (l : Nat) :
    Token.Legible d (ts ++ fetchTokens l) := by
  refine h.append_mark rfl trivial ?_
  refine .word_mark (Token.written_word (by decide)) rfl trivial ?_
  refine .word_mark (Token.written_word (by decide)) rfl trivial ?_
  refine .word_mark (Token.written_numeral d l) rfl trivial ?_
  refine .word_mark (Token.written_word (by decide)) rfl trivial ?_
  exact .singleton (Token.written_word (by decide))

theorem legible_clauseTokens (d : Dialect) (limit offset : Option Nat) :
    Token.Legible d (d.clauseTokens limit offset) := by
  match d, limit, offset with
  | .mysql, none, none => exact .nil
  | .oracle, none, none => exact .nil
  | .mysql, some l, some o => exact legible_limitTokens o l
  | .mysql, some l, none =>
    refine .mark_cons rfl trivial (.word_mark (Token.written_word (by decide)) rfl trivial ?_)
    exact .singleton (Token.written_numeral _ l)
  | .mysql, none, some o => exact legible_limitTokens o offsetLimit
  | .oracle, some l, offset => exact legible_append_fetchTokens (legible_offsetTokens _) l
  | .oracle, none, some o => exact legible_offsetTokens o

/-! ## §4. What is read. -/

theorem limitSlice?_limitTokens {o l : Nat} (ho : o ≤ offsetLimit) (hl : l ≤ offsetLimit) :
    limitSlice? ((limitTokens o l).filter Token.counts) = some ⟨o, some l⟩ := by
  show limitSlice? [keyword "LIMIT", numeral o, .comma, numeral l] = _
  rw [limitSlice?, if_pos rfl, Token.limitNumber?_numeral ho, Token.limitNumber?_numeral hl]
  rfl

theorem fetchSlice?_offsetTokens_append (o : Nat) (rest : List Token) :
    fetchSlice? ((offsetTokens o ++ rest).filter Token.counts)
      = (fetchCount? (rest.filter Token.counts)).map fun count => ⟨o, count⟩ := by
  rw [List.filter_append]
  show fetchSlice? (keyword "OFFSET" :: numeral o :: keyword "ROWS" :: rest.filter Token.counts) = _
  rw [fetchSlice?, if_pos ⟨rfl, by decide⟩, Token.number?_numeral]
  cases fetchCount? (rest.filter Token.counts) <;> rfl

theorem fetchCount?_fetchTokens (l : Nat) :
    fetchCount? ((fetchTokens l).filter Token.counts) = some (some l) := by
  show fetchCount? [keyword "FETCH", keyword "NEXT", numeral l, keyword "ROWS", keyword "ONLY"] = _
  rw [fetchCount?, if_pos ⟨rfl, .inl rfl, by decide, rfl⟩, Token.number?_numeral]
  rfl

theorem clauseSlice?_clauseTokens (d : Dialect) {limit offset : Option Nat}
    (hl : ∀ l ∈ limit, l ≤ offsetLimit) (ho : ∀ o ∈ offset, o ≤ offsetLimit) :
    d.clauseSlice? ((d.clauseTokens limit offset).filter Token.counts)
      = some (d.sliceOf limit offset) := by
  match d, limit, offset with
  | .mysql, none, none => rfl
  | .oracle, none, none => rfl
  | .mysql, some l, some o => exact limitSlice?_limitTokens (ho o rfl) (hl l rfl)
  | .mysql, some l, none =>
    show limitSlice? [keyword "LIMIT", numeral l] = _
    rw [limitSlice?, if_pos rfl, Token.limitNumber?_numeral (hl l rfl)]
    rfl
  | .mysql, none, some o => exact limitSlice?_limitTokens (ho o rfl) (Nat.le_refl _)
  | .oracle, some l, offset =>
    show fetchSlice? ((offsetTokens (offset.getD 0) ++ fetchTokens l).filter Token.counts) = _
    rw [fetchSlice?_offsetTokens_append, fetchCount?_fetchTokens]
    rfl
  | .oracle, none, some o =>
    show fetchSlice? ((offsetTokens o).filter Token.counts) = _
    rw [← List.append_nil (offsetTokens o), fetchSlice?_offsetTokens_append]
    rfl

/-- **The clauses are read by the servers that they are for**, if the numbers have 64 bits. -/
theorem slice?_limitClause (d : Dialect) {limit offset : Option Nat}
    (hl : ∀ l ∈ limit, l ≤ offsetLimit) (ho : ∀ o ∈ offset, o ≤ offsetLimit) :
    d.slice? (d.limitClause limit offset) = some (d.sliceOf limit offset) := by
  have hlegible := d.legible_clauseTokens limit offset
  have htext : d.limitClause limit offset
      = String.ofList ((d.clauseTokens limit offset).flatMap Token.source) := by
    rw [source_clauseTokens, String.ofList_toList]
  rw [slice?, htext, d.tokens?_source hlegible.written hlegible.apart, Option.bind_some,
    clauseSlice?_clauseTokens d hl ho]

/-- The same rows, with the numbers in opposite order. -/
example : Dialect.mysql.slice? " LIMIT 20,10" = some ⟨20, some 10⟩
    ∧ Dialect.oracle.slice? " OFFSET 20 ROWS FETCH NEXT 10 ROWS ONLY" = some ⟨20, some 10⟩ := by
  decide +kernel

/-- **The rows that were asked for** are let through, of as many rows as MySQL can count. -/
theorem selects_sliceOf_iff (d : Dialect) (limit offset : Option Nat) {k : Nat}
    (hk : k < offsetLimit) : (d.sliceOf limit offset).Selects k
      ↔ offset.getD 0 ≤ k ∧ ∀ l ∈ limit, k < offset.getD 0 + l := by
  match d, limit, offset with
  | .mysql, none, some o =>
    -- the number of rows that MySQL is made to stop after lies behind all that it can count
    show (o ≤ k ∧ ∀ n ∈ some offsetLimit, k < o + n) ↔ _
    have hstop : ∀ n ∈ some offsetLimit, k < o + n := by
      rintro n ⟨⟩
      exact Nat.lt_of_lt_of_le hk (Nat.le_add_left _ _)
    exact ⟨fun h => ⟨h.1, nofun⟩, fun h => ⟨h.1, hstop⟩⟩
  | .mysql, none, none => exact Iff.rfl
  | .mysql, some l, offset => exact Iff.rfl
  | .oracle, limit, offset => exact Iff.rfl

end Dialect

end CardStore.Sql
