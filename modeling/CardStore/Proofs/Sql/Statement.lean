/-
  CardStore.Proofs.Sql.Statement
  ──────────────────────────────
  **STATEMENTS ARE READ BACK.**

  A server that is sent a text and parameters makes a statement of them: it
  takes the text apart by its own literal rules, finds the columns and terms
  by their places, and gives each bind slot the next parameter.  The texts of
  updates, of insertions and of selections from one table by identifier are
  read as the statements that they are the texts of.

      UPDATE T SET MC=?,RUDAT=SYSDATE() WHERE ID=?     with two parameters

  Main statements:
    * `Update.read?_tokens`, `Insert.read?_tokens` — changes are read back.
    * `Find.read?_tokens` — so are selections by identifier.
-/
import CardStore.Proofs.Sql.Source
import CardStore.Sql.Change
import CardStore.Sql.Select

namespace CardStore.Sql

open Sql.Token (keyword)

/-! ## §1. Legible tokens. -/

namespace Token

/-- Tokens that are read back when they are written one right behind the other. -/
structure Legible (d : Dialect) (ts : List Token) : Prop where
  written : ∀ t ∈ ts, t.Written d
  apart : ts.IsChain Apart

namespace Legible

variable {d : Dialect} {ts us : List Token} {m : Token}

theorem nil : Legible d [] := ⟨fun _ h => absurd h List.not_mem_nil, .nil⟩

theorem singleton {t : Token} (ht : t.Written d) : Legible d [t] := by
  refine ⟨?_, List.isChain_singleton t⟩
  intro u hu
  rw [List.mem_singleton.1 hu]
  exact ht

/-- A mark keeps the tokens on both of its sides apart. -/
theorem append_mark (ht : Legible d ts) (hm : m.isMark = true) (hw : m.Written d)
    (hu : Legible d us) : Legible d (ts ++ m :: us) := by
  refine ⟨?_, isChain_append_mark hm ht.apart hu.apart⟩
  intro t hmem
  rcases List.mem_append.1 hmem with hmem | hmem
  · exact ht.written t hmem
  · rcases List.mem_cons.1 hmem with rfl | hmem
    · exact hw
    · exact hu.written t hmem

theorem mark_cons (hm : m.isMark = true) (hw : m.Written d) (hu : Legible d us) :
    Legible d (m :: us) := nil.append_mark hm hw hu

theorem word_mark {cs : List Char} (hcs : (Token.word cs).Written d) (hm : m.isMark = true)
    (hw : m.Written d) (hu : Legible d us) : Legible d (.word cs :: m :: us) :=
  (singleton hcs).append_mark hm hw hu

theorem cons {t : Token} (ht : t.Written d) (hu : Legible d us)
    (hhead : ∀ u ∈ us.head?, Apart t u) : Legible d (t :: us) := by
  refine ⟨?_, List.isChain_cons.2 ⟨hhead, hu.apart⟩⟩
  intro u hmem
  rcases List.mem_cons.1 hmem with rfl | hmem
  · exact ht
  · exact hu.written u hmem

/-- A word and what it is set or compared to. -/
theorem equals {cs : List Char} (hcs : (Token.word cs).Written d) (hu : Legible d us)
    (hhead : ∀ u ∈ us.head?, Apart (.comparison ['=']) u) :
    Legible d (.word cs :: .comparison ['='] :: us) := by
  have hsign : Legible d (.comparison ['='] :: us) := cons ⟨'=', rfl, by decide⟩ hu hhead
  refine cons hcs hsign ?_
  intro u hu
  rw [← Option.some.inj hu]
  trivial

theorem intercalate_mark (hm : m.isMark = true) (hw : m.Written d) {tss : List (List Token)}
    (h : ∀ ts ∈ tss, Legible d ts) : Legible d ([m].intercalate tss) := by
  refine ⟨?_, isChain_intercalate_mark hm fun ts hts => (h ts hts).apart⟩
  intro t ht
  rcases Text.mem_intercalate ht with ht | ⟨ts, hts, ht⟩
  · rw [List.mem_singleton.1 ht]
    exact hw
  · exact (h ts hts).written t ht

end Legible

theorem written_word {d : Dialect} {name : String} (h : IsWord name) :
    (Token.word name.toList).Written d := by
  refine ⟨?_, ?_⟩
  · intro hnil
    exact h.1 (String.toList_inj.1 hnil)
  · intro c hc
    exact Piece.isWordPart_of_isIdentifierPart (h.2 c hc)

theorem written_qualified {d : Dialect} {name : String} (h : Qualified name) :
    (Token.word name.toList).Written d := ⟨h.ne_nil, Piece.isWordPart_of_qualified h⟩

/-- Blanks do not count, neither do those in the parts of a list. -/
theorem filter_counts_intercalate {m : Token} (hm : m.counts = true) (tss : List (List Token)) :
    ([m].intercalate tss).filter counts
      = [m].intercalate (tss.map fun ts => ts.filter counts) := by
  induction tss with
  | nil => rfl
  | cons ts tss ih =>
    cases tss with
    | nil => simp
    | cons us tss =>
      rw [List.intercalate_cons_cons, List.filter_append, List.filter_append, ih,
        List.filter_cons_of_pos hm]
      simp [List.intercalate_cons_cons]

theorem flatMap_intercalate {α β : Type} (f : α → List β) (separator : List α)
    (parts : List (List α)) : (separator.intercalate parts).flatMap f
      = (separator.flatMap f).intercalate (parts.map fun part => part.flatMap f) := by
  induction parts with
  | nil => rfl
  | cons part parts ih =>
    cases parts with
    | nil => simp
    | cons part' parts =>
      rw [List.intercalate_cons_cons, List.flatMap_append, List.flatMap_append, ih]
      simp [List.intercalate_cons_cons]

end Token

/-! ## §2. Terms. -/

namespace Term

/-- The tokens that a term is written as. -/
def tokens (d : Dialect) : Term → List Token
  | .bound _ => [.slot]
  | .now => [keyword "SYSDATE", .opening, .closing]
  | .literal s => [.literal (d.escapeChars s.toList)]

/-- Read a term; a slot takes the next parameter. -/
def read? (d : Dialect) : List Token → List Value → Option (Term × List Value)
  | [.slot], v :: vs => some (.bound v, vs)
  | [.literal raw], vs => some (.literal (String.ofList (d.unescape raw)), vs)
  | [.word w, .opening, .closing], vs =>
    if .word w = keyword "SYSDATE" then some (.now, vs) else none
  | _, _ => none

/-- Read terms one after another. -/
def readAll? (d : Dialect) : List (List Token) → List Value → Option (List Term × List Value)
  | [], vs => some ([], vs)
  | ts :: tss, vs => do
    let (term, vs) ← read? d ts vs
    let (terms, vs) ← readAll? d tss vs
    some (term :: terms, vs)

theorem source_tokens (d : Dialect) (t : Term) :
    (t.tokens d).flatMap Token.source = (t.text d).toList := by
  cases t with
  | bound v =>
    show [Sql.slot] = "?".toList
    decide
  | now =>
    show [keyword "SYSDATE", .opening, .closing].flatMap Token.source = canonicalNow.toList
    decide
  | literal s =>
    have hquote : "'".toList = [quote] := by decide
    show quote :: (d.escapeChars s.toList ++ [quote]) ++ [] = ("'" ++ d.escape s ++ "'").toList
    simp only [String.toList_append, Dialect.escape, String.toList_ofList, hquote,
      List.append_nil, List.cons_append, List.nil_append]

theorem legible_tokens (d : Dialect) (t : Term) : Token.Legible d (t.tokens d) := by
  cases t with
  | bound v => exact .singleton trivial
  | now => exact .word_mark (Token.written_word (by decide)) rfl trivial (.singleton trivial)
  | literal s => exact .singleton ⟨s.toList, rfl⟩

theorem apart_tokens (d : Dialect) (t : Term) :
    ∀ u ∈ (t.tokens d).head?, Token.Apart (.comparison ['=']) u := by
  intro u hu
  cases t with
  | bound v =>
    rw [← Option.some.inj hu]
    trivial
  | now =>
    rw [← Option.some.inj hu]
    trivial
  | literal s =>
    rw [← Option.some.inj hu]
    trivial

theorem read?_tokens (d : Dialect) (t : Term) (vs : List Value) :
    read? d (t.tokens d) (t.params ++ vs) = some (t, vs) := by
  cases t with
  | bound v => rfl
  | now => rfl
  | literal s =>
    show some (Term.literal (String.ofList (d.unescape (d.escapeChars s.toList))), vs) = _
    rw [Dialect.unescape_escapeChars, String.ofList_toList]

theorem of_mem_tokens {d : Dialect} {t : Term} {token : Token} (h : token ∈ t.tokens d) :
    token.counts = true ∧ token ≠ .comma := by
  cases t with
  | bound v =>
    rw [List.mem_singleton.1 h]
    exact ⟨rfl, nofun⟩
  | now =>
    have hall : ∀ token ∈ [keyword "SYSDATE", .opening, .closing],
        token.counts = true ∧ token ≠ .comma := by decide
    exact hall token h
  | literal s =>
    rw [List.mem_singleton.1 h]
    exact ⟨rfl, nofun⟩

/-- **Terms are read back**, each with its own parameters. -/
theorem readAll?_tokens (d : Dialect) (terms : List Term) (vs : List Value) :
    readAll? d (terms.map (tokens d)) (terms.flatMap params ++ vs) = some (terms, vs) := by
  induction terms with
  | nil => rfl
  | cons t terms ih =>
    rw [List.map_cons, List.flatMap_cons, List.append_assoc, readAll?, read?_tokens]
    show (do
      let (terms, vs) ← readAll? d (terms.map (tokens d)) (terms.flatMap params ++ vs)
      some (t :: terms, vs)) = _
    rw [ih]
    rfl

end Term

/-- Something is read from every part. -/
theorem mapM_map_eq_some {α β γ : Type} {f : α → β} {g : β → Option γ} {h : α → γ}
    (hg : ∀ a, g (f a) = some (h a)) (as : List α) : (as.map f).mapM g = some (as.map h) := by
  induction as with
  | nil => rfl
  | cons a as ih =>
    rw [List.map_cons, List.mapM_cons, hg, ih]
    rfl

/-! ## §3. Updates. -/

/-- The columns of changes are names. -/
def Assignments.Named (as : Assignments) : Prop := ∀ a ∈ as, IsWord a.1

theorem Assignments.Named.append {as as' : Assignments} (h : as.Named) (h' : as'.Named) :
    Assignments.Named (as ++ as') := List.forall_mem_append.2 ⟨h, h'⟩

namespace Update

/-- The tokens of the condition on the identifier. -/
def condition : List Token :=
  [keyword "WHERE", .blank, .word idPath.toList, .comparison ['='], .slot]

/-- The tokens that a column and its term are written as. -/
def itemTokens (d : Dialect) (a : String × Term) : List Token :=
  .word a.1.toList :: .comparison ['='] :: a.2.tokens d

/-- The tokens that an update is written as. -/
def tokens (d : Dialect) (u : Update) : List Token :=
  keyword "UPDATE" :: .blank :: .word u.table.toList :: .blank :: keyword "SET" :: .blank
    :: ([.comma].intercalate (u.sets.map (itemTokens d)) ++ .blank :: condition)

/-- The column of the tokens of a column and its term. -/
def column? : List Token → Option String
  | .word c :: .comparison ['='] :: _ => some (String.ofList c)
  | _ => none

/-- Read an update: columns and terms stand between the first three words and the condition. -/
def read? (d : Dialect) (ts : List Token) (vs : List Value) : Option Update :=
  match ts with
  | head :: .word table :: set :: rest =>
    let items := (rest.take (rest.length - 4)).splitOn .comma
    if head = keyword "UPDATE" ∧ set = keyword "SET"
        ∧ rest.drop (rest.length - 4) = condition.filter Token.counts then do
      let columns ← items.mapM column?
      let (terms, left) ← Term.readAll? d (items.map (·.drop 2)) vs
      match left with
      | [id] => some ⟨String.ofList table, columns.zip terms, id⟩
      | _ => none
    else none
  | _ => none

theorem source_tokens (d : Dialect) (u : Update) :
    String.ofList ((u.tokens d).flatMap Token.source) = u.text d := by
  have hupdate : "UPDATE ".toList = "UPDATE".toList ++ [' '] := by decide
  have hset : " SET ".toList = ' ' :: ("SET".toList ++ [' ']) := by decide
  have hwhere : " WHERE ".toList = ' ' :: ("WHERE".toList ++ [' ']) := by decide
  have hmarks : ",".toList = [','] ∧ "=".toList = ['='] ∧ "=?".toList = ['=', Sql.slot] := by
    decide
  have hitem (a : String × Term) : (itemTokens d a).flatMap Token.source
      = (a.1 ++ "=" ++ a.2.text d).toList := by
    rw [String.toList_append, String.toList_append, ← Term.source_tokens, hmarks.2.1]
    simp only [itemTokens, List.flatMap_cons, Token.source, List.append_assoc]
  rw [← String.toList_inj, String.toList_ofList]
  show _ = ("UPDATE " ++ u.table ++ " SET "
    ++ Text.joined "," (u.sets.map fun a => a.1 ++ "=" ++ a.2.text d)
    ++ " WHERE " ++ idPath ++ "=?").toList
  simp only [tokens, condition, keyword, String.toList_append, Text.toList_joined,
    List.flatMap_cons, List.flatMap_append, Token.flatMap_intercalate, List.flatMap_nil,
    Token.source, List.map_map, hupdate, hset, hwhere, hmarks, Function.comp_def, hitem]
  simp only [List.append_assoc, List.cons_append, List.nil_append, List.append_nil]

theorem legible_tokens (d : Dialect) {u : Update} (ht : IsWord u.table) (hs : u.sets.Named) :
    Token.Legible d (u.tokens d) := by
  have hitem : ∀ ts ∈ u.sets.map (itemTokens d), Token.Legible d ts := by
    intro ts hts
    obtain ⟨a, ha, rfl⟩ := List.mem_map.1 hts
    exact .equals (Token.written_word (hs a ha)) (a.2.legible_tokens d) (a.2.apart_tokens d)
  have hcondition : Token.Legible d condition := by
    refine .word_mark (Token.written_word (by decide)) rfl trivial ?_
    refine .equals (Token.written_word (by decide)) (.singleton trivial) ?_
    exact Term.apart_tokens d (.bound u.id)
  refine .word_mark (Token.written_word (by decide)) rfl trivial ?_
  refine .word_mark (Token.written_word ht) rfl trivial ?_
  refine .word_mark (Token.written_word (by decide)) rfl trivial ?_
  exact (Token.Legible.intercalate_mark (m := .comma) rfl trivial hitem).append_mark rfl trivial hcondition

/-- **Updates are read back.** -/
theorem read?_tokens (d : Dialect) {u : Update} (hs : u.sets ≠ []) :
    read? d ((u.tokens d).filter Token.counts) u.params = some u := by
  have hitems : ∀ ts ∈ u.sets.map (itemTokens d), ∀ t ∈ ts, t.counts = true ∧ t ≠ .comma := by
    intro ts hts t ht
    obtain ⟨a, _, rfl⟩ := List.mem_map.1 hts
    rcases List.mem_cons.1 ht with rfl | ht
    · exact ⟨rfl, nofun⟩
    · rcases List.mem_cons.1 ht with rfl | ht
      · exact ⟨rfl, nofun⟩
      · exact Term.of_mem_tokens ht
  let body := [Token.comma].intercalate (u.sets.map (itemTokens d))
  have hfilter : (u.tokens d).filter Token.counts = keyword "UPDATE" :: .word u.table.toList
      :: keyword "SET" :: (body ++ condition.filter Token.counts) := by
    have hbody : body.filter Token.counts = body := by
      rw [Token.filter_counts_intercalate rfl, List.map_congr_left fun ts hts =>
        List.filter_eq_self.2 fun t ht => (hitems ts hts t ht).1, List.map_id']
    show keyword "UPDATE" :: .word u.table.toList :: keyword "SET"
      :: (body ++ .blank :: condition).filter Token.counts = _
    rw [List.filter_append, hbody]
    rfl
  -- the condition is as long as it is, whatever stands in front of it
  have hlength : (body ++ condition.filter Token.counts).length - 4 = body.length := by
    rw [List.length_append]
    rfl
  have hsplit : body.splitOn .comma = u.sets.map (itemTokens d) := by
    apply List.splitOn_intercalate
    · intro ts hts hcomma
      exact (hitems ts hts .comma hcomma).2 rfl
    · rw [ne_eq, List.map_eq_nil_iff]
      exact hs
  have hcolumn (a : String × Term) : column? (itemTokens d a) = some a.1 :=
    congrArg some String.ofList_toList
  have hterms : (u.sets.map (itemTokens d)).map (·.drop 2)
      = (u.sets.map Prod.snd).map (Term.tokens d) := by
    rw [List.map_map, List.map_map]
    rfl
  have hparams : u.params = (u.sets.map Prod.snd).flatMap Term.params ++ [u.id] := by
    rw [params, Assignments.params, List.flatMap_map]
  rw [hfilter, read?]
  simp only [hlength, List.take_left, List.drop_left, hsplit, mapM_map_eq_some hcolumn, hterms, hparams,
    Term.readAll?_tokens, and_self, if_true]
  show some (Update.mk (String.ofList u.table.toList)
    ((u.sets.map Prod.fst).zip (u.sets.map Prod.snd)) u.id) = some u
  rw [String.ofList_toList, ← List.zip_of_prod rfl rfl]

/-- A server reads an update from its text and its parameters. -/
theorem read?_text (d : Dialect) {u : Update} (ht : IsWord u.table) (hs : u.sets.Named)
    (hne : u.sets ≠ []) :
    (d.tokens? (u.text d)).bind (read? d · u.params) = some u := by
  have hlegible := legible_tokens d ht hs
  rw [← source_tokens, d.tokens?_source hlegible.written hlegible.apart, Option.bind_some,
    read?_tokens d hne]

end Update

/-! ## §4. Insertions. -/

namespace Insert

/-- The tokens that an insertion is written as. -/
def tokens (d : Dialect) (i : Insert) : List Token :=
  keyword "INSERT" :: .blank :: keyword "INTO" :: .blank :: .word i.table.toList :: .blank
    :: .opening :: ([.comma].intercalate (i.items.map fun a => [.word a.1.toList])
      ++ .closing :: .blank :: keyword "VALUES" :: .blank
      :: .opening :: ([.comma].intercalate (i.items.map fun a => a.2.tokens d) ++ [.closing]))

/-- The column that is one word. -/
def column? : List Token → Option String
  | [.word c] => some (String.ofList c)
  | _ => none

/-- Read an insertion: columns stand in the first brackets and terms in the second ones, as many
of each, and all parameters are used up. -/
def read? (d : Dialect) (ts : List Token) (vs : List Value) : Option Insert :=
  match ts with
  | insert :: into :: .word table :: .opening :: rest =>
    let columns := rest.takeWhile (· != .closing)
    match rest.drop columns.length with
    | .closing :: values :: .opening :: body =>
      if insert = keyword "INSERT" ∧ into = keyword "INTO" ∧ values = keyword "VALUES"
          ∧ body.getLast? = some .closing then do
        let columns ← (columns.splitOn .comma).mapM column?
        let (terms, left) ← Term.readAll? d (body.dropLast.splitOn .comma) vs
        if columns.length = terms.length ∧ left.isEmpty then
          some ⟨String.ofList table, columns.zip terms⟩
        else none
      else none
    | _ => none
  | _ => none

theorem source_tokens (d : Dialect) (i : Insert) :
    String.ofList ((i.tokens d).flatMap Token.source) = i.text d := by
  have hinsert : "INSERT INTO ".toList
      = "INSERT".toList ++ ' ' :: ("INTO".toList ++ [' ']) := by decide
  have hvalues : ") VALUES (".toList
      = ')' :: ' ' :: ("VALUES".toList ++ [' ', '(']) := by decide
  have hmarks : ",".toList = [','] ∧ " (".toList = [' ', '('] ∧ ")".toList = [')'] := by decide
  rw [← String.toList_inj, String.toList_ofList]
  show _ = ("INSERT INTO " ++ i.table ++ " (" ++ Text.joined "," (i.items.map fun a => a.1)
    ++ ") VALUES (" ++ Text.joined "," (i.items.map fun a => a.2.text d) ++ ")").toList
  simp only [tokens, keyword, String.toList_append, Text.toList_joined,
    List.flatMap_cons, List.flatMap_append, Token.flatMap_intercalate, List.flatMap_nil,
    Token.source, List.map_map, hinsert, hvalues, hmarks, Function.comp_def, Term.source_tokens]
  simp only [List.append_assoc, List.cons_append, List.nil_append, List.append_nil]

theorem legible_tokens (d : Dialect) {i : Insert} (ht : IsWord i.table) (hs : i.items.Named) :
    Token.Legible d (i.tokens d) := by
  have hcolumns : ∀ ts ∈ i.items.map fun a => [Token.word a.1.toList], Token.Legible d ts := by
    intro ts hts
    obtain ⟨a, ha, rfl⟩ := List.mem_map.1 hts
    exact .singleton (Token.written_word (hs a ha))
  have hterms : ∀ ts ∈ i.items.map fun a => a.2.tokens d, Token.Legible d ts := by
    intro ts hts
    obtain ⟨a, _, rfl⟩ := List.mem_map.1 hts
    exact a.2.legible_tokens d
  have hvalues : Token.Legible d (.blank :: keyword "VALUES" :: .blank :: .opening
      :: ([.comma].intercalate (i.items.map fun a => a.2.tokens d) ++ [.closing])) := by
    refine .mark_cons rfl trivial ?_
    refine .word_mark (Token.written_word (by decide)) rfl trivial ?_
    refine .mark_cons rfl trivial ?_
    exact (Token.Legible.intercalate_mark (m := .comma) rfl trivial hterms).append_mark rfl
      trivial .nil
  refine .word_mark (Token.written_word (by decide)) rfl trivial ?_
  refine .word_mark (Token.written_word (by decide)) rfl trivial ?_
  refine .word_mark (Token.written_word ht) rfl trivial ?_
  refine .mark_cons rfl trivial ?_
  exact (Token.Legible.intercalate_mark (m := .comma) rfl trivial hcolumns).append_mark rfl
    trivial hvalues

/-- **Insertions are read back.** -/
theorem read?_tokens (d : Dialect) {i : Insert} (hs : i.items ≠ []) :
    read? d ((i.tokens d).filter Token.counts) i.params = some i := by
  let columns := [Token.comma].intercalate (i.items.map fun a => [Token.word a.1.toList])
  let body := [Token.comma].intercalate (i.items.map fun a => a.2.tokens d)
  have hwords : ∀ ts ∈ i.items.map fun a => [Token.word a.1.toList], ∀ t ∈ ts, t.isWord := by
    intro ts hts t ht
    obtain ⟨a, _, rfl⟩ := List.mem_map.1 hts
    rw [List.mem_singleton.1 ht]
    rfl
  have hterms : ∀ ts ∈ i.items.map fun a => a.2.tokens d,
      ∀ t ∈ ts, t.counts = true ∧ t ≠ .comma := by
    intro ts hts t ht
    obtain ⟨a, _, rfl⟩ := List.mem_map.1 hts
    exact Term.of_mem_tokens ht
  have hfilter : (i.tokens d).filter Token.counts = keyword "INSERT" :: keyword "INTO"
      :: .word i.table.toList :: .opening :: (columns ++ .closing :: keyword "VALUES"
        :: .opening :: (body ++ [.closing])) := by
    have hcolumns : columns.filter Token.counts = columns := by
      rw [Token.filter_counts_intercalate rfl, List.map_map]
      rfl
    have hbody : body.filter Token.counts = body := by
      rw [Token.filter_counts_intercalate rfl, List.map_congr_left fun ts hts =>
        List.filter_eq_self.2 fun t ht => (hterms ts hts t ht).1, List.map_id']
    show keyword "INSERT" :: keyword "INTO" :: .word i.table.toList :: .opening
      :: (columns ++ .closing :: .blank :: keyword "VALUES" :: .blank :: .opening
        :: (body ++ [.closing])).filter Token.counts = _
    rw [List.filter_append, hcolumns]
    show _ :: _ :: _ :: _ :: (columns ++ Token.closing :: keyword "VALUES" :: .opening
      :: (body ++ [Token.closing]).filter Token.counts) = _
    rw [List.filter_append, hbody]
    rfl
  -- the first closing bracket is the one behind the columns
  have htake (rest : List Token) :
      (columns ++ Token.closing :: rest).takeWhile (· != Token.closing) = columns := by
    rw [List.takeWhile_append_of_pos]
    · exact List.append_nil columns
    · intro t ht
      rcases Text.mem_intercalate ht with ht | ⟨ts, hts, ht⟩
      · rw [List.mem_singleton.1 ht]
        rfl
      · have hword := hwords ts hts t ht
        cases t <;> first | rfl | cases hword
  have hne {α : Type} (f : String × Term → α) : i.items.map f ≠ [] := by
    rw [ne_eq, List.map_eq_nil_iff]
    exact hs
  have hsplitColumns : columns.splitOn .comma = i.items.map fun a => [.word a.1.toList] := by
    refine List.splitOn_intercalate _ ?_ (hne _)
    intro ts hts hcomma
    exact Bool.false_ne_true (hwords ts hts .comma hcomma)
  have hsplitTerms : body.splitOn .comma = (i.items.map Prod.snd).map (Term.tokens d) := by
    rw [List.map_map]
    refine List.splitOn_intercalate _ ?_ (hne _)
    intro ts hts hcomma
    exact (hterms ts hts .comma hcomma).2 rfl
  have hcolumn (a : String × Term) : column? [.word a.1.toList] = some a.1 :=
    congrArg some String.ofList_toList
  have hparams : i.params = (i.items.map Prod.snd).flatMap Term.params ++ [] := by
    rw [params, Assignments.params, List.flatMap_map, List.append_nil]
  rw [hfilter, read?]
  simp only [htake, List.drop_left, List.getLast?_concat, List.dropLast_concat, hsplitColumns,
    hsplitTerms, mapM_map_eq_some hcolumn, hparams, Term.readAll?_tokens, and_self, if_true]
  show (if (i.items.map Prod.fst).length = (i.items.map Prod.snd).length ∧ _ then
    some (Insert.mk (String.ofList i.table.toList)
      ((i.items.map Prod.fst).zip (i.items.map Prod.snd))) else none) = some i
  rw [if_pos ⟨by rw [List.length_map, List.length_map], rfl⟩, String.ofList_toList,
    ← List.zip_of_prod rfl rfl]

/-- A server reads an insertion from its text and its parameters. -/
theorem read?_text (d : Dialect) {i : Insert} (ht : IsWord i.table) (hs : i.items.Named)
    (hne : i.items ≠ []) :
    (d.tokens? (i.text d)).bind (read? d · i.params) = some i := by
  have hlegible := legible_tokens d ht hs
  rw [← source_tokens, d.tokens?_source hlegible.written hlegible.apart, Option.bind_some,
    read?_tokens d hne]

/-- An insertion is not read as an update. -/
theorem update?_text (d : Dialect) {i : Insert} (ht : IsWord i.table) (hs : i.items.Named)
    (vs : List Value) : (d.tokens? (i.text d)).bind (Update.read? d · vs) = none := by
  have hlegible := legible_tokens d ht hs
  have hhead : ¬ keyword "INSERT" = keyword "UPDATE" := by decide
  -- the first word tells them apart
  have hnone (table : List Char) (set : Token) (rest : List Token) :
      Update.read? d (keyword "INSERT" :: .word table :: set :: rest) vs = none := by
    unfold Update.read?
    dsimp only
    rw [if_neg fun h => hhead h.1]
  rw [← source_tokens, d.tokens?_source hlegible.written hlegible.apart, Option.bind_some]
  exact hnone _ _ _

end Insert

/-! ## §5. Selections by identifier. -/

/-- A selection of the rows of one table whose column has a value. -/
structure Find where
  /-- The columns, each with its name in the result. -/
  columns : List (String × String)
  table : String
  /-- What the table is called in the statement. -/
  name : String
  column : String
  value : Value

namespace Find

/-- The canonical text. -/
def text (f : Find) : String :=
  "SELECT " ++ Text.joined "," (f.columns.map fun c => c.1 ++ " " ++ c.2) ++ " FROM " ++ f.table
    ++ " " ++ f.name ++ " WHERE " ++ f.column ++ "=?"

/-- The columns are written with the name of a table, and all names are names. -/
structure Named (f : Find) : Prop where
  columns : ∀ c ∈ f.columns, Qualified c.1 ∧ IsWord c.2
  table : IsWord f.table
  name : IsWord f.name
  column : Qualified f.column

/-- The tokens behind the columns. -/
def ending (f : Find) : List Token :=
  [keyword "FROM", .blank, .word f.table.toList, .blank, .word f.name.toList, .blank,
    keyword "WHERE", .blank, .word f.column.toList, .comparison ['='], .slot]

/-- The tokens that a selection is written as. -/
def tokens (f : Find) : List Token :=
  keyword "SELECT" :: .blank
    :: ([.comma].intercalate
      (f.columns.map fun c => [.word c.1.toList, .blank, .word c.2.toList]) ++ .blank :: f.ending)

/-- A column and its name in the result. -/
def column? : List Token → Option (String × String)
  | [.word c, .word name] => some (String.ofList c, String.ofList name)
  | _ => none

/-- Read a selection: the columns stand between the first word and the last seven tokens. -/
def read? (ts : List Token) (vs : List Value) : Option Find :=
  match ts with
  | select :: rest =>
    match rest.drop (rest.length - 7), vs with
    | [source, .word table, .word name, condition, .word column, .comparison ['='], .slot],
        [value] =>
      if select = keyword "SELECT" ∧ source = keyword "FROM" ∧ condition = keyword "WHERE" then do
        let columns ← ((rest.take (rest.length - 7)).splitOn .comma).mapM column?
        some ⟨columns, String.ofList table, String.ofList name, String.ofList column, value⟩
      else none
    | _, _ => none
  | _ => none

theorem source_tokens (f : Find) : String.ofList (f.tokens.flatMap Token.source) = f.text := by
  have hselect : "SELECT ".toList = "SELECT".toList ++ [' '] := by decide
  have hsource : " FROM ".toList = ' ' :: ("FROM".toList ++ [' ']) := by decide
  have hwhere : " WHERE ".toList = ' ' :: ("WHERE".toList ++ [' ']) := by decide
  have hmarks : ",".toList = [','] ∧ " ".toList = [' '] ∧ "=?".toList = ['=', Sql.slot] := by
    decide
  rw [← String.toList_inj, String.toList_ofList]
  show _ = ("SELECT " ++ Text.joined "," (f.columns.map fun c => c.1 ++ " " ++ c.2) ++ " FROM "
    ++ f.table ++ " " ++ f.name ++ " WHERE " ++ f.column ++ "=?").toList
  simp only [tokens, ending, keyword, String.toList_append, Text.toList_joined,
    List.flatMap_cons, List.flatMap_append, Token.flatMap_intercalate, List.flatMap_nil,
    Token.source, List.map_map, hselect, hsource, hwhere, hmarks, Function.comp_def]
  simp only [List.append_assoc, List.cons_append, List.nil_append, List.append_nil]

theorem legible_tokens (d : Dialect) {f : Find} (h : f.Named) : Token.Legible d f.tokens := by
  have hcolumns : ∀ ts ∈ f.columns.map fun c => [Token.word c.1.toList, .blank, .word c.2.toList],
      Token.Legible d ts := by
    intro ts hts
    obtain ⟨c, hc, rfl⟩ := List.mem_map.1 hts
    exact .word_mark (Token.written_qualified (h.columns c hc).1) rfl trivial
      (.singleton (Token.written_word (h.columns c hc).2))
  have hending : Token.Legible d f.ending := by
    refine .word_mark (Token.written_word (by decide)) rfl trivial ?_
    refine .word_mark (Token.written_word h.table) rfl trivial ?_
    refine .word_mark (Token.written_word h.name) rfl trivial ?_
    refine .word_mark (Token.written_word (by decide)) rfl trivial ?_
    refine .equals (Token.written_qualified h.column) (.singleton trivial) ?_
    exact Term.apart_tokens d (.bound f.value)
  refine .word_mark (Token.written_word (by decide)) rfl trivial ?_
  exact (Token.Legible.intercalate_mark (m := .comma) rfl trivial hcolumns).append_mark rfl
    trivial hending

/-- **Selections by identifier are read back.** -/
theorem read?_tokens {f : Find} (hc : f.columns ≠ []) :
    read? (f.tokens.filter Token.counts) [f.value] = some f := by
  let body := [Token.comma].intercalate
    (f.columns.map fun c => [Token.word c.1.toList, .word c.2.toList])
  have hfilter : f.tokens.filter Token.counts
      = keyword "SELECT" :: (body ++ f.ending.filter Token.counts) := by
    show keyword "SELECT" :: ([Token.comma].intercalate (f.columns.map fun c =>
      [.word c.1.toList, .blank, .word c.2.toList]) ++ .blank :: f.ending).filter Token.counts = _
    rw [List.filter_append, Token.filter_counts_intercalate rfl, List.map_map]
    rfl
  have hlength : (body ++ f.ending.filter Token.counts).length - 7 = body.length := by
    rw [List.length_append]
    rfl
  have hsplit : body.splitOn .comma
      = f.columns.map fun c => [.word c.1.toList, .word c.2.toList] := by
    refine List.splitOn_intercalate _ ?_ (by rw [ne_eq, List.map_eq_nil_iff]; exact hc)
    intro ts hts hcomma
    obtain ⟨c, _, rfl⟩ := List.mem_map.1 hts
    rcases List.mem_cons.1 hcomma with h | hcomma
    · cases h
    · cases List.mem_singleton.1 hcomma
  have hcolumn (c : String × String) :
      column? [.word c.1.toList, .word c.2.toList] = some c := by
    rw [column?, String.ofList_toList, String.ofList_toList]
  have hending : f.ending.filter Token.counts
      = [keyword "FROM", .word f.table.toList, .word f.name.toList, keyword "WHERE",
        .word f.column.toList, .comparison ['='], .slot] := rfl
  rw [hfilter]
  unfold read?
  dsimp only
  rw [hlength, List.drop_left, List.take_left, hending, hsplit, mapM_map_eq_some hcolumn]
  show some (Find.mk (f.columns.map fun c => c) (String.ofList f.table.toList)
    (String.ofList f.name.toList) (String.ofList f.column.toList) f.value) = some f
  rw [String.ofList_toList, String.ofList_toList, String.ofList_toList, List.map_id']

/-- A server reads a selection by identifier from its text and its parameter. -/
theorem read?_text (d : Dialect) {f : Find} (h : f.Named) (hc : f.columns ≠ []) :
    (d.tokens? f.text).bind (read? · [f.value]) = some f := by
  have hlegible := legible_tokens d h
  rw [← source_tokens, d.tokens?_source hlegible.written hlegible.apart, Option.bind_some,
    read?_tokens hc]

end Find

end CardStore.Sql
