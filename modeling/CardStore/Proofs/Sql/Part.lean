/-
  CardStore.Proofs.Sql.Part
  ─────────────────────────
  **STATEMENTS ARE RENDERED PART BY PART.**

  A statement in canonical form falls into parts: bind slots, the server
  clock, and tokens that no dialect changes.  Parts that neither grow together
  nor make a call where they meet are rendered one after another, whatever
  stands in their literals, and the tokens of the native text are known.

      canonical   VALUES ( ?  , SYSDATE() , 'it''s ?' )
      MySQL       VALUES ( ?  , SYSDATE() , 'it''s ?' )
      Oracle      VALUES ( :1 , SYSDATE   , 'it''s ?' )

  Main statements:
    * `Part.clear_text` — a word is not called by the part behind it.
    * `Dialect.renderFrom_parts` — a statement is rendered part by part.
-/
import CardStore.Proofs.Sql.Statement
import Mathlib.Algebra.Order.Ring.Nat

namespace CardStore.Sql

open Sql.Token (keyword)

/-! ## §1. Parts of statements. -/

/-- A part of a statement in canonical form. -/
inductive Part where
  /-- A token that no dialect changes. -/
  | same (t : Token)
  | slot
  /-- The server clock. -/
  | now

namespace Part

/-- The tokens that a part is written as. -/
def tokens : Part → List Token
  | .same t => [t]
  | .slot => [.slot]
  | .now => [keyword "SYSDATE", .opening, .closing]

def text (p : Part) : List Char := p.tokens.flatMap Token.source

/-- The number of bind slots of a part. -/
def slots : Part → Nat
  | .slot => 1
  | _ => 0

/-- Something of every part, which may depend on the number of slots in front of it. -/
def eachFrom {α : Type} (f : Nat → Part → List α) : Nat → List Part → List α
  | _, [] => []
  | n, p :: ps => f n p ++ eachFrom f (n + p.slots) ps

theorem eachFrom_append {α : Type} (f : Nat → Part → List α) (ps qs : List Part) (n : Nat) :
    eachFrom f n (ps ++ qs) = eachFrom f n ps ++ eachFrom f (n + (ps.map slots).sum) qs := by
  induction ps generalizing n with
  | nil => rfl
  | cons p ps ih =>
    rw [List.cons_append, eachFrom, ih, eachFrom, List.append_assoc, List.map_cons, List.sum_cons,
      Nat.add_assoc]

/-- Parts that can be written one behind the other: they do not grow together in any dialect, and
make no empty brackets, which only the clock has. -/
def Meet : Part → Part → Prop
  | .same t, .same u => Token.Apart t u ∧ ¬ (t = .opening ∧ u = .closing)
  | .same t, .now => t.isWord = false
  -- the number of a slot is a word, and so is the clock without its brackets
  | .slot, .same u => u.isWord = false
  | .now, .same u => u.isWord = false
  | .slot, .now => False
  | .now, .now => False
  | _, .slot => True

/-- A part that is written in a dialect; a colon would name a slot. -/
def Written (d : Dialect) : Part → Prop
  | .same t => t.Written d ∧ t ≠ .slot ∧ t ≠ .other ':'
  | _ => True

/-- A part that can stand anywhere. -/
structure Free (m : Part) : Prop where
  left : ∀ p, Meet m p
  right : ∀ p, Meet p m

theorem free_same {t : Token} (hm : t.isMark = true) (ho : t ≠ .opening) (hc : t ≠ .closing) :
    Free (.same t) := by
  have hw := Token.isWord_of_isMark hm
  refine ⟨?_, ?_⟩
  · intro p
    cases p with
    | same u => exact ⟨Token.apart_mark_left hm u, fun h => ho h.1⟩
    | slot => trivial
    | now => exact hw
  · intro p
    cases p with
    | same u => exact ⟨Token.apart_mark_right hm u, fun h => hc h.2⟩
    | slot => exact hw
    | now => exact hw

theorem free_comma : Free (.same .comma) := free_same rfl (by decide) (by decide)

theorem free_blank : Free (.same .blank) := free_same rfl (by decide) (by decide)

theorem written_comma (d : Dialect) : Written d (.same .comma) := ⟨trivial, by decide, by decide⟩

theorem written_blank (d : Dialect) : Written d (.same .blank) := ⟨trivial, by decide, by decide⟩

theorem written_word {d : Dialect} {cs : List Char} (h : (Token.word cs).Written d) :
    Written d (.same (.word cs)) := ⟨h, nofun, nofun⟩

/-- **A statement in canonical form** that can be written and rendered. -/
structure Composed (d : Dialect) (ps : List Part) : Prop where
  written : ∀ p ∈ ps, p.Written d
  meet : ps.IsChain Meet

namespace Composed

variable {d : Dialect} {ps qs : List Part} {m : Part}

theorem nil : Composed d [] := ⟨fun _ h => absurd h List.not_mem_nil, .nil⟩

theorem cons {p : Part} (hp : p.Written d) (h : Composed d ps)
    (hhead : ∀ q ∈ ps.head?, Meet p q) : Composed d (p :: ps) :=
  ⟨List.forall_mem_cons.2 ⟨hp, h.written⟩, List.isChain_cons.2 ⟨hhead, h.meet⟩⟩

theorem tail {p : Part} (h : Composed d (p :: ps)) : Composed d ps :=
  ⟨(List.forall_mem_cons.1 h.written).2, h.meet.tail⟩

theorem singleton {p : Part} (hp : p.Written d) : Composed d [p] := nil.cons hp nofun

theorem append_free (hp : Composed d ps) (hm : Free m) (hw : m.Written d) (hq : Composed d qs) :
    Composed d (ps ++ m :: qs) :=
  ⟨List.forall_mem_append.2 ⟨hp.written, List.forall_mem_cons.2 ⟨hw, hq.written⟩⟩,
    isChain_append_of_free hm.left hm.right hp.meet hq.meet⟩

theorem intercalate_free (hm : Free m) (hw : m.Written d) {parts : List (List Part)}
    (h : ∀ part ∈ parts, Composed d part) : Composed d ([m].intercalate parts) := by
  refine ⟨?_, isChain_intercalate_of_free hm.left hm.right fun part hpart => (h part hpart).meet⟩
  intro p hp
  rcases Text.mem_intercalate hp with hp | ⟨part, hpart, hp⟩
  · rw [List.mem_singleton.1 hp]
    exact hw
  · exact (h part hpart).written p hp

theorem append_blank (hp : Composed d ps) (hq : Composed d qs) :
    Composed d (ps ++ .same .blank :: qs) := hp.append_free free_blank (written_blank d) hq

/-- A word and the blank behind it. -/
theorem word_blank {cs : List Char} (hcs : (Token.word cs).Written d) (h : Composed d ps) :
    Composed d (.same (.word cs) :: .same .blank :: ps) :=
  (singleton (written_word hcs)).append_blank h

/-- Brackets around something are no call without arguments. -/
theorem brackets (hp : Composed d ps) (hne : ps ≠ [])
    (hplain : ∀ p ∈ ps, p ≠ .same .opening ∧ p ≠ .same .closing) (hq : Composed d qs) :
    Composed d (.same .opening :: (ps ++ .same .closing :: qs)) := by
  have hclosing : Composed d (.same .closing :: qs) := by
    refine hq.cons ⟨trivial, by decide, by decide⟩ ?_
    intro q _
    cases q with
    | same t => exact ⟨Token.apart_mark_left rfl t, fun h => absurd h.1 (by decide)⟩
    | slot => trivial
    | now => rfl
  have hinner : Composed d (ps ++ .same .closing :: qs) := by
    refine ⟨List.forall_mem_append.2 ⟨hp.written, hclosing.written⟩,
      List.isChain_append.2 ⟨hp.meet, hclosing.meet, ?_⟩⟩
    intro p hlast q hq
    rw [← Option.some.inj hq]
    cases p with
    | same t =>
      refine ⟨Token.apart_mark_right rfl t, ?_⟩
      rintro ⟨rfl, _⟩
      exact (hplain _ (List.mem_of_mem_getLast? hlast)).1 rfl
    | slot => rfl
    | now => rfl
  refine hinner.cons ⟨trivial, by decide, by decide⟩ ?_
  intro q hq
  obtain ⟨p, ps, rfl⟩ := List.exists_cons_of_ne_nil hne
  rw [← Option.some.inj hq]
  cases p with
  | same t =>
    refine ⟨Token.apart_mark_left rfl t, ?_⟩
    rintro ⟨_, rfl⟩
    exact (hplain _ List.mem_cons_self).2 rfl
  | slot => trivial
  | now => rfl

end Composed

end Part

/-! ## §2. Rendering. -/

namespace Dialect

/-- The tokens of the bind slot at a position. -/
def slotTokens : Dialect → Nat → List Token
  | .mysql, _ => [.slot]
  | .oracle, n => [.other ':', .word (Text.digitChars n)]

/-- The tokens of the server clock. -/
def nowTokens : Dialect → List Token
  | .mysql => [keyword "SYSDATE", .opening, .closing]
  | .oracle => [keyword "SYSDATE"]

/-- The tokens that a part is rendered as. -/
def native (d : Dialect) (n : Nat) : Part → List Token
  | .same t => [t]
  | .slot => d.slotTokens (n + 1)
  | .now => d.nowTokens

theorem source_slotTokens (d : Dialect) (n : Nat) :
    (d.slotTokens n).flatMap Token.source = (d.placeholder n).toList := by
  cases d with
  | mysql =>
    show [Sql.slot] = "?".toList
    decide
  | oracle =>
    have hcolon : ":".toList = [':'] := by decide
    show [':'] ++ (Text.digitChars n ++ []) = (":" ++ Text.ofNat n).toList
    rw [String.toList_append, hcolon, Text.ofNat, String.toList_ofList, List.append_nil]

theorem source_nowTokens (d : Dialect) : d.nowTokens.flatMap Token.source = d.now.toList := by
  cases d <;> decide

/-- A text that a word in front of it ends at, and that does not call the word. -/
structure Clear (cs : List Char) : Prop where
  word : ∀ c ∈ cs.head?, isWordPart c = false
  call : ∀ rest, cs ≠ '(' :: ')' :: rest

theorem isWordPart_of_toLower {c : Char} (h : c.toLower ∈ "sysdate".toList) :
    isWordPart c = true := by
  have hletters : ∀ d ∈ "sysdate".toList, isWordPart d = true := List.all_eq_true.1 (by decide)
  by_cases hupper : c.isUpper = true
  · have halpha : c.isAlpha = true := by
      show (c.isUpper || c.isLower) = true
      rw [hupper, Bool.true_or]
    rw [isWordPart, isIdentifierPart, Text.isLetterOrDigit, Text.isLetter_of_isAlpha c halpha]
    rfl
  · have hsame : c.toLower = c := dif_neg fun h => hupper (decide_eq_true h)
    rw [hsame] at h
    exact hletters c h

/-- The clock is not found where a word that is not called begins. -/
theorem dropIgnoreCase?_of_clear {cs rest : List Char} (hcs : ∀ c ∈ cs, isWordPart c = true)
    (hrest : Clear rest) :
    Text.dropIgnoreCase? canonicalNow.toList (cs ++ rest) = none := by
  by_contra hsome
  obtain ⟨behind, hd⟩ := Option.ne_none_iff_exists'.1 hsome
  obtain ⟨word, heq, hword⟩ := exists_call_of_dropIgnoreCase? hd
  have hletters : ∀ c ∈ word, isWordPart c = true := fun c hc =>
    isWordPart_of_toLower (hword ▸ List.mem_map_of_mem hc)
  -- both words go on to the first character that is no part of a word
  have htake := congrArg (List.takeWhile isWordPart) heq
  rw [List.takeWhile_append_of_pos hcs, List.takeWhile_append_of_pos hletters] at htake
  have hopening : isWordPart '(' = false := by decide
  have hstop : rest.takeWhile isWordPart = [] := by
    cases rest with
    | nil => rfl
    | cons c rest => rw [List.takeWhile_cons_of_neg (by rw [hrest.word c rfl]; decide)]
  rw [hstop, List.takeWhile_cons_of_neg (by rw [hopening]; decide), List.append_nil,
    List.append_nil] at htake
  rw [htake] at heq
  exact hrest.call behind (List.append_cancel_left heq)

/-- Nor is it found where a character stands that is no part of a word. -/
theorem dropIgnoreCase?_of_not_isWordPart {c : Char} (h : isWordPart c = false)
    (rest : List Char) : Text.dropIgnoreCase? canonicalNow.toList (c :: rest) = none := by
  by_contra hsome
  obtain ⟨behind, hd⟩ := Option.ne_none_iff_exists'.1 hsome
  obtain ⟨word, heq, hword⟩ := exists_call_of_dropIgnoreCase? hd
  cases word with
  | nil => exact absurd hword (by decide)
  | cons c' word =>
    rw [(List.cons.inj heq).1,
      isWordPart_of_toLower (hword ▸ List.mem_map_of_mem List.mem_cons_self)] at h
    cases h

variable (d : Dialect) (n : Nat)

/-- A character that stands for itself is rendered as it is. -/
theorem renderFrom_char {c : Char} (hw : isWordPart c = false) (hq : c ≠ quote) (hs : c ≠ slot)
    (rest : List Char) :
    d.renderFrom false n 0 (c :: rest) = c :: d.renderFrom false n 0 rest := by
  rw [renderFrom, if_neg hq, if_neg Bool.false_ne_true, if_neg hs,
    dropIgnoreCase?_of_not_isWordPart hw]
  rfl

/-- So is a word that is not called. -/
theorem renderFrom_word {cs rest : List Char} (hcs : ∀ c ∈ cs, isWordPart c = true)
    (hrest : Clear rest) :
    d.renderFrom false n 0 (cs ++ rest) = cs ++ d.renderFrom false n 0 rest := by
  have hmarks : isWordPart quote = false ∧ isWordPart slot = false := by decide
  induction cs with
  | nil => rfl
  | cons c cs ih =>
    have hc := hcs c List.mem_cons_self
    have hquote : c ≠ quote := fun h => by rw [h, hmarks.1] at hc; cases hc
    have hslot : c ≠ slot := fun h => by rw [h, hmarks.2] at hc; cases hc
    have hnow := dropIgnoreCase?_of_clear hcs hrest
    rw [List.cons_append] at hnow ⊢
    rw [renderFrom, if_neg hquote, if_neg Bool.false_ne_true, if_neg hslot, hnow,
      ih fun c' hc' => hcs c' (List.mem_cons_of_mem _ hc')]
    rfl

/-- A bind slot is rendered as the mark of its position. -/
theorem renderFrom_slot (rest : List Char) : d.renderFrom false n 0 (slot :: rest)
    = (d.placeholder (n + 1)).toList ++ d.renderFrom false (n + 1) 0 rest := by
  have hquote : slot ≠ quote := by decide
  rw [renderFrom, if_neg hquote, if_neg Bool.false_ne_true, if_pos rfl]

/-- The clock is rendered as that of the server. -/
theorem renderFrom_now (rest : List Char) : d.renderFrom false n 0 (canonicalNow.toList ++ rest)
    = d.now.toList ++ d.renderFrom false n 0 rest := by
  have hchars : canonicalNow.toList = ['S', 'Y', 'S', 'D', 'A', 'T', 'E', '(', ')'] := by decide
  have hfound : (Text.dropIgnoreCase? canonicalNow.toList ('S' :: (['Y', 'S', 'D', 'A', 'T', 'E',
      '(', ')'] ++ rest))).isSome = true := by
    rw [hchars]
    simp [Text.dropIgnoreCase?]
  rw [hchars]
  show d.renderFrom false n 0 ('S' :: (['Y', 'S', 'D', 'A', 'T', 'E', '(', ')'] ++ rest)) = _
  rw [renderFrom, if_neg (by decide), if_neg Bool.false_ne_true, if_neg (by decide), if_pos hfound]
  rfl

/-- A literal of an escaped text is rendered as it is. -/
theorem renderFrom_literal (r : Dialect) (s rest : List Char) :
    d.renderFrom false n 0 ((Token.literal (r.escapeChars s)).source ++ rest)
      = (Token.literal (r.escapeChars s)).source ++ d.renderFrom false n 0 rest := by
  show d.renderFrom false n 0 (quote :: (r.escapeChars s ++ [quote] ++ rest))
    = quote :: (r.escapeChars s ++ [quote] ++ _)
  rw [renderFrom, if_pos rfl, Bool.not_false, List.append_assoc, renderFrom_escapeChars,
    List.singleton_append, renderFrom, if_pos rfl, Bool.not_true, List.append_assoc]
  rfl

end Dialect

/-! ## §3. Parts one after another. -/

namespace Part

variable {d : Dialect}

/-- A token that is neither word nor literal is one character, which tells the token unless it is
a sign. -/
theorem exists_sole_char {t : Token} (ht : t.Written d) (hw : t.isWord = false)
    (hl : ∀ raw, t ≠ .literal raw) :
    ∃ c, t.source = [c] ∧ isWordPart c = false ∧ c ≠ quote
      ∧ (isComparisonPart c = false → t = .ofChar c) := by
  cases t with
  | word cs => cases hw
  | literal raw => exact absurd rfl (hl raw)
  | comparison cs =>
    obtain ⟨c, rfl, hc⟩ := ht
    refine ⟨c, rfl, Token.not_isWordPart_of_isComparisonPart hc, ?_, ?_⟩
    · rintro rfl
      exact absurd hc (by decide)
    · intro hnot
      rw [hc] at hnot
      cases hnot
  | other c => exact ⟨c, rfl, ht.2.1, ht.2.2.2, fun _ => ht.1.symm⟩
  | slot => exact ⟨_, rfl, by decide, by decide, fun _ => rfl⟩
  | opening => exact ⟨_, rfl, by decide, by decide, fun _ => rfl⟩
  | closing => exact ⟨_, rfl, by decide, by decide, fun _ => rfl⟩
  | comma => exact ⟨_, rfl, by decide, by decide, fun _ => rfl⟩
  | blank => exact ⟨_, rfl, by decide, by decide, fun _ => rfl⟩

/-- How a token begins: with a bracket only if it is one. -/
theorem exists_head_source {t : Token} (ht : t.Written d) :
    ∃ c cs, t.source = c :: cs ∧ (t.isWord = false → isWordPart c = false)
      ∧ (c = '(' → t = .opening ∧ cs = []) ∧ (c = ')' → t = .closing) := by
  have hbrackets : isWordPart '(' = false ∧ isWordPart ')' = false
      ∧ isComparisonPart '(' = false ∧ isComparisonPart ')' = false := by decide
  by_cases hword : t.isWord = true
  · cases t with
    | word cs =>
      obtain ⟨c, cs, rfl⟩ := List.exists_cons_of_ne_nil ht.1
      have hc := ht.2 c List.mem_cons_self
      refine ⟨c, cs, rfl, nofun, ?_, ?_⟩
      · rintro rfl
        exact absurd hc (by decide)
      · rintro rfl
        exact absurd hc (by decide)
    | _ => cases hword
  · by_cases hliteral : ∃ raw, t = .literal raw
    · obtain ⟨raw, rfl⟩ := hliteral
      have hquote : isWordPart quote = false ∧ quote ≠ '(' ∧ quote ≠ ')' := by decide
      exact ⟨quote, _, rfl, fun _ => hquote.1, fun h => absurd h hquote.2.1,
        fun h => absurd h hquote.2.2⟩
    · obtain ⟨c, hsource, hc, _, hchar⟩ := exists_sole_char ht (Bool.eq_false_iff.2 hword)
        fun raw hraw => hliteral ⟨raw, hraw⟩
      refine ⟨c, [], hsource, fun _ => hc, ?_, ?_⟩
      · rintro rfl
        exact ⟨hchar hbrackets.2.2.1, rfl⟩
      · rintro rfl
        exact hchar hbrackets.2.2.2

/-- Behind an opening bracket no closing one follows at once. -/
theorem head?_text_ne_closing {ps : List Part} (h : Composed d (.same .opening :: ps)) :
    (ps.flatMap text).head? ≠ some ')' := by
  cases ps with
  | nil => exact nofun
  | cons p ps =>
    have hmeet := (List.isChain_cons_cons.1 h.meet).1
    cases p with
    | slot => exact fun hhead => absurd (Option.some.inj hhead) (by decide)
    | now => exact fun hhead => absurd (Option.some.inj hhead) (by decide)
    | same t =>
      obtain ⟨c, cs, hsource, _, _, hclosing⟩ :=
        exists_head_source (h.tail.written (.same t) List.mem_cons_self).1
      have htext : (Part.same t :: ps).flatMap text = c :: (cs ++ ps.flatMap text) := by
        rw [List.flatMap_cons, text, tokens, List.flatMap_singleton, hsource]
        rfl
      rw [htext]
      intro hhead
      exact hmeet.2 ⟨rfl, hclosing (Option.some.inj hhead)⟩

/-- **A word ends where the next part begins**, and is not called by it. -/
theorem clear_text {cs : List Char} {ps : List Part}
    (h : Composed d (.same (.word cs) :: ps)) : Dialect.Clear (ps.flatMap text) := by
  cases ps with
  | nil => exact ⟨nofun, nofun⟩
  | cons p ps =>
    have hmeet := (List.isChain_cons_cons.1 h.meet).1
    cases p with
    | slot =>
      refine ⟨fun c hc => ?_, fun rest hcall => absurd (List.cons.inj hcall).1 (by decide)⟩
      rw [← Option.some.inj hc]
      decide
    | now => cases hmeet
    | same t =>
      have ht : t.isWord = false := by
        cases t with
        | word cs' => exact hmeet.1.elim
        | _ => rfl
      obtain ⟨c, cs', hsource, hword, hopening, _⟩ :=
        exists_head_source (h.tail.written (.same t) List.mem_cons_self).1
      have htext : (Part.same t :: ps).flatMap text = c :: (cs' ++ ps.flatMap text) := by
        rw [List.flatMap_cons, text, tokens, List.flatMap_singleton, hsource]
        rfl
      rw [htext]
      refine ⟨fun c' hc' => Option.some.inj hc' ▸ hword ht, ?_⟩
      intro rest hcall
      obtain ⟨hc, hrest⟩ := List.cons.inj hcall
      -- the bracket is all of its token, so that the other one would be that of the next part
      obtain ⟨rfl, rfl⟩ := hopening hc
      exact head?_text_ne_closing h.tail (congrArg List.head? hrest)

end Part

/-- **A statement is rendered part by part.** -/
theorem Dialect.renderFrom_parts (r : Dialect) {d : Dialect} : ∀ {ps : List Part} (n : Nat),
    Part.Composed d ps → r.renderFrom false n 0 (ps.flatMap Part.text)
      = (Part.eachFrom r.native n ps).flatMap Token.source := by
  intro ps
  induction ps with
  | nil => exact fun _ _ => rfl
  | cons p ps ih =>
    intro n h
    rw [List.flatMap_cons, Part.eachFrom, List.flatMap_append, ← ih (n + p.slots) h.tail]
    cases p with
    | slot =>
      show r.renderFrom false n 0 (slot :: _) = _
      rw [renderFrom_slot, native, source_slotTokens]
      rfl
    | now =>
      have htext : Part.text .now = canonicalNow.toList := by decide
      rw [htext, renderFrom_now, native, source_nowTokens]
      rfl
    | same t =>
      have ht := h.written _ List.mem_cons_self
      rw [Part.text, Part.tokens, native, List.flatMap_singleton]
      show r.renderFrom false n 0 (t.source ++ ps.flatMap Part.text) = _
      by_cases hword : t.isWord = true
      · cases t with
        | word cs => exact renderFrom_word r n ht.1.2 (Part.clear_text h)
        | _ => cases hword
      · by_cases hliteral : ∃ raw, t = .literal raw
        · obtain ⟨raw, rfl⟩ := hliteral
          obtain ⟨s, rfl⟩ := ht.1
          exact renderFrom_literal r n d s _
        · obtain ⟨c, hsource, hc, hquote, hchar⟩ := Part.exists_sole_char ht.1
            (Bool.eq_false_iff.2 hword) fun raw hraw => hliteral ⟨raw, hraw⟩
          have hslot : c ≠ slot := by
            rintro rfl
            exact ht.2.1 (hchar (by decide))
          rw [hsource]
          exact renderFrom_char r n hc hquote hslot _

end CardStore.Sql
