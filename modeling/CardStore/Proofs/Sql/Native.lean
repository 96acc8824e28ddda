/-
  CardStore.Proofs.Sql.Native
  ───────────────────────────
  **WHAT A SERVER READS OF A RENDERED STATEMENT.**

  A server takes a native text apart by its own literal rules and numbers the
  bind slots: MySQL counts them, and Oracle reads the number that stands in
  the text.  Either way the bind slots of a rendered statement are numbered
  from left to right, outside of all literals.

      MySQL       VALUES ( ?  , SYSDATE() , 'it''s ?' )
      Oracle      VALUES ( :1 , SYSDATE   , 'it''s ?' )
      read        VALUES ( #1 , SYSDATE … , literal   )

  Main statements:
    * `Part.legible_native` — the tokens of a rendered statement are read back.
    * `Dialect.prepare?_render` — what a server reads of a rendered statement.
    * `Part.binds_eachFrom` — its bind slots are numbered from left to right.
-/
import CardStore.Number.Numeral
import CardStore.Proofs.Sql.Part

namespace CardStore.Sql

open Sql.Token (keyword)

/-! ## §1. Tokens of the native text. -/

namespace Part

variable {d : Dialect}

theorem legible_slotTokens (d : Dialect) (n : Nat) {ts : List Token} (h : Token.Legible d ts)
    (hhead : ∀ u ∈ ts.head?, u.isWord = false) : Token.Legible d (d.slotTokens n ++ ts) := by
  cases d with
  | mysql => exact h.mark_cons rfl trivial
  | oracle =>
    have hnumber : (Token.word (Text.digitChars n)).Written .oracle :=
      ⟨Text.digitChars_ne_nil n, fun c hc =>
        Piece.isWordPart_of_isIdentifierPart (isIdentifierPart_digits n c hc)⟩
    have hcolon : Token.StandsAlone ':' := ⟨by decide, by decide, by decide, by decide⟩
    refine .mark_cons rfl hcolon (.cons hnumber h ?_)
    intro u hu
    exact Token.apart_word_left (hhead u hu)

theorem legible_nowTokens (d : Dialect) {ts : List Token} (h : Token.Legible d ts)
    (hhead : ∀ u ∈ ts.head?, u.isWord = false) : Token.Legible d (d.nowTokens ++ ts) := by
  have hword : (keyword "SYSDATE").Written d := Token.written_word (by decide)
  cases d with
  | mysql => exact .word_mark hword rfl trivial (h.mark_cons rfl trivial)
  | oracle => exact h.cons hword fun u hu => Token.apart_word_left (hhead u hu)

/-- The native tokens of what follows a part begin as the parts meet. -/
theorem head?_native (d : Dialect) (n : Nat) {p : Part} {ps : List Part}
    (h : Composed d (p :: ps)) :
    ∀ u ∈ (eachFrom d.native n ps).head?, match p with
      | .same t => Token.Apart t u
      | _ => u.isWord = false := by
  cases ps with
  | nil => exact nofun
  | cons q ps =>
    have hmeet := (List.isChain_cons_cons.1 h.meet).1
    intro u hu
    cases q with
    | same t =>
      obtain rfl := Option.some.inj hu
      cases p with
      | same t' => exact hmeet.1
      | slot => exact hmeet
      | now => exact hmeet
    | slot =>
      have hmark : u.isMark = true := by
        cases d with
        | mysql => rw [← Option.some.inj hu]; rfl
        | oracle => rw [← Option.some.inj hu]; rfl
      cases p with
      | same t => exact Token.apart_mark_right hmark t
      | slot => exact Token.isWord_of_isMark hmark
      | now => exact Token.isWord_of_isMark hmark
    | now =>
      obtain rfl : u = keyword "SYSDATE" := by
        cases d with
        | mysql => exact (Option.some.inj hu).symm
        | oracle => exact (Option.some.inj hu).symm
      cases p with
      | same t => exact Token.apart_word_right hmeet
      | slot => cases hmeet
      | now => cases hmeet

/-- **The tokens of a rendered statement** are read back. -/
theorem legible_native : ∀ {ps : List Part} (n : Nat), Composed d ps →
    Token.Legible d (eachFrom d.native n ps) := by
  intro ps
  induction ps with
  | nil => exact fun _ _ => .nil
  | cons p ps ih =>
    intro n h
    have hrest := ih (n + p.slots) h.tail
    have hhead := head?_native d (n + p.slots) h
    cases p with
    | same t => exact hrest.cons (h.written _ List.mem_cons_self).1 hhead
    | slot => exact legible_slotTokens d (n + 1) hrest hhead
    | now => exact legible_nowTokens d hrest hhead

end Part

/-! ## §2. What a server reads. -/

/-- What a server reads: tokens, and numbered bind slots among them. -/
inductive Lexeme where
  | token (t : Token)
  | bind (n : Nat)
  deriving DecidableEq, Repr

namespace Dialect

/-- Bind slots are numbered as they come. -/
def countBinds : Nat → List Token → List Lexeme
  | _, [] => []
  | n, t :: ts =>
    if t = .slot then .bind (n + 1) :: countBinds (n + 1) ts else .token t :: countBinds n ts

/-- The number of a bind slot that is written with a colon. -/
def bindNumber? : Token → Token → Option Nat
  | .other c, .word cs =>
    if c = ':' ∧ cs.all Char.isDigit then some (digitsValue 0 cs) else none
  | _, _ => none

/-- Bind slots have the numbers that they are written with. -/
def readBinds : List Token → List Lexeme
  | [] => []
  | [t] => [.token t]
  | t :: u :: ts => match bindNumber? t u with
    | some n => .bind n :: readBinds ts
    | none => .token t :: readBinds (u :: ts)

/-- Tokens with the bind slots that a server knows by its own rules. -/
def lexemes : Dialect → List Token → List Lexeme
  | .mysql => countBinds 0
  | .oracle => readBinds

/-- What a server reads of a native text that it is to prepare. -/
def prepare? (d : Dialect) (native : String) : Option (List Lexeme) :=
  (d.tokens? native).map d.lexemes

/-- What a server reads of a part. -/
def reading (d : Dialect) (n : Nat) : Part → List Lexeme
  | .same t => if t.counts then [.token t] else []
  | .slot => [.bind (n + 1)]
  | .now => d.nowTokens.map .token

theorem bindNumber?_digitChars (n : Nat) :
    bindNumber? (.other ':') (.word (Text.digitChars n)) = some n := by
  rw [bindNumber?, if_pos ⟨rfl, Text.all_isDigit_digitChars n⟩, Text.digitsValue_digitChars]

theorem readBinds_of_ne {t : Token} (h : t ≠ .other ':') (ts : List Token) :
    readBinds (t :: ts) = .token t :: readBinds ts := by
  cases ts with
  | nil => rfl
  | cons u ts =>
    have hnone : bindNumber? t u = none := by
      unfold bindNumber?
      split
      · exact if_neg fun hc => h (congrArg Token.other hc.1)
      · rfl
    rw [readBinds, hnone]

variable {d : Dialect}

/-- **MySQL numbers bind slots** from left to right. -/
theorem countBinds_native : ∀ {ps : List Part} (n : Nat), (∀ p ∈ ps, p.Written d) →
    countBinds n ((Part.eachFrom mysql.native n ps).filter Token.counts)
      = Part.eachFrom mysql.reading n ps := by
  intro ps
  induction ps with
  | nil => exact fun _ _ => rfl
  | cons p ps ih =>
    intro n h
    obtain ⟨hp, hps⟩ := List.forall_mem_cons.1 h
    rw [Part.eachFrom, Part.eachFrom, List.filter_append, ← ih _ hps]
    cases p with
    | slot => rfl
    | now => rfl
    | same t =>
      have hslot : t ≠ .slot := hp.2.1
      by_cases ht : t.counts = true
      · rw [native, reading, if_pos ht, List.filter_cons_of_pos ht]
        show countBinds n (t :: _) = _
        rw [countBinds, if_neg hslot]
        rfl
      · rw [native, reading, if_neg ht, List.filter_cons_of_neg ht]
        rfl

/-- **Oracle finds the numbers** that they were rendered with. -/
theorem readBinds_native : ∀ {ps : List Part} (n : Nat), (∀ p ∈ ps, p.Written d) →
    readBinds ((Part.eachFrom oracle.native n ps).filter Token.counts)
      = Part.eachFrom oracle.reading n ps := by
  intro ps
  induction ps with
  | nil => exact fun _ _ => rfl
  | cons p ps ih =>
    intro n h
    obtain ⟨hp, hps⟩ := List.forall_mem_cons.1 h
    rw [Part.eachFrom, Part.eachFrom, List.filter_append, ← ih _ hps]
    cases p with
    | slot =>
      show readBinds (.other ':' :: .word (Text.digitChars (n + 1)) :: _) = _
      rw [readBinds, bindNumber?_digitChars]
      rfl
    | now =>
      have hword : keyword "SYSDATE" ≠ .other ':' := by decide
      exact readBinds_of_ne hword _
    | same t =>
      have hcolon : t ≠ .other ':' := hp.2.2
      by_cases ht : t.counts = true
      · rw [native, reading, if_pos ht, List.filter_cons_of_pos ht]
        exact readBinds_of_ne hcolon _
      · rw [native, reading, if_neg ht, List.filter_cons_of_neg ht]
        rfl

/-- **What a server reads of a rendered statement**: its parts, and its bind slots numbered from
left to right. -/
theorem prepare?_render {ps : List Part} (h : Part.Composed d ps) :
    d.prepare? (d.render (String.ofList (ps.flatMap Part.text)))
      = some (Part.eachFrom d.reading 0 ps) := by
  have hlegible := Part.legible_native 0 h
  rw [render, String.toList_ofList, d.renderFrom_parts 0 h, prepare?,
    d.tokens?_source hlegible.written hlegible.apart, Option.map_some]
  cases d with
  | mysql => exact congrArg some (countBinds_native 0 h.written)
  | oracle => exact congrArg some (readBinds_native 0 h.written)

end Dialect

namespace Lexeme

/-- The number of a bind slot. -/
def bind? : Lexeme → Option Nat
  | .bind n => some n
  | .token _ => none

end Lexeme

/-- **The bind slots of a statement** are numbered from left to right, without a gap. -/
theorem Part.binds_eachFrom (d : Dialect) (ps : List Part) (n : Nat) :
    (eachFrom d.reading n ps).filterMap Lexeme.bind?
      = List.range' (n + 1) (ps.map slots).sum := by
  have hnow : (d.nowTokens.map Lexeme.token).filterMap Lexeme.bind? = [] := by
    cases d <;> rfl
  induction ps generalizing n with
  | nil => rfl
  | cons p ps ih =>
    rw [eachFrom, List.filterMap_append, ih]
    cases p with
    | slot =>
      show (n + 1) :: List.range' (n + 1 + 1) _ = List.range' (n + 1) (1 + (ps.map slots).sum)
      rw [Nat.add_comm 1, List.range'_succ]
    | now =>
      rw [Dialect.reading, hnow]
      show List.range' (n + 0 + 1) _ = List.range' (n + 1) (0 + (ps.map slots).sum)
      rw [Nat.add_zero, Nat.zero_add]
    | same t =>
      have hnone : (d.reading n (.same t)).filterMap Lexeme.bind? = [] := by
        rw [Dialect.reading]
        split <;> rfl
      rw [hnone]
      show List.range' (n + 0 + 1) _ = List.range' (n + 1) (0 + (ps.map slots).sum)
      rw [Nat.add_zero, Nat.zero_add]

/-- The numbers of the bind slots of a native text, outside of its literals. -/
def Dialect.bindNumbers? (d : Dialect) (native : String) : Option (List Nat) :=
  (d.prepare? native).map (·.filterMap Lexeme.bind?)

theorem Dialect.bindNumbers?_render {d : Dialect} {ps : List Part} (h : Part.Composed d ps) :
    d.bindNumbers? (d.render (String.ofList (ps.flatMap Part.text)))
      = some (List.range' 1 (ps.map Part.slots).sum) := by
  rw [bindNumbers?, prepare?_render h, Option.map_some, Part.binds_eachFrom]

end CardStore.Sql
