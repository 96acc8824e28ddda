/-
  CardStore.Proofs.Sql.Prepared
  ─────────────────────────────
  **WHAT A SERVER PREPARES.**

  Before any parameter is bound, a server makes a statement of the native
  text: columns on one side, and on the other side what they are set to, which
  is a numbered bind slot, the clock of the server or a literal's text.  Lists
  fall apart at their commas, and a column and what stands opposite to it
  belong together.

      INSERT INTO T (ID,MC,RCDAT) VALUES (:1,:2,SYSDATE)
                     ID ↦ #1   MC ↦ #2   RCDAT ↦ clock

  Main statements:
    * `PreparedUpdate.ofText?_render` — what is prepared of an update.
    * `PreparedInsert.ofText?_render` — what is prepared of an insertion.
    * `Update.bindNumbers?_text`, `Insert.bindNumbers?_text` — they have a slot for each parameter.
-/
import CardStore.Proofs.Sql.Native

namespace CardStore.Sql

open Sql.Token (keyword)

/-! ## §1. Terms. -/

/-- What a column is set to by a statement whose parameters are not bound yet. -/
inductive PreparedTerm where
  /-- A bind slot, by its number. -/
  | slot (n : Nat)
  | now
  | literal (s : String)
  deriving DecidableEq, Repr

namespace PreparedTerm

/-- What a server reads of a term. -/
def lexemes (d : Dialect) : PreparedTerm → List Lexeme
  | .slot n => [.bind n]
  | .now => d.nowTokens.map .token
  | .literal s => [.token (.literal (d.escapeChars s.toList))]

/-- Read a term. -/
def read? (d : Dialect) : List Lexeme → Option PreparedTerm
  | [.bind n] => some (.slot n)
  | [.token (.literal raw)] => some (.literal (String.ofList (d.unescape raw)))
  | ls => if ls = d.nowTokens.map .token then some .now else none

/-- **Terms are read back**, literals as their texts. -/
theorem read?_lexemes (d : Dialect) (o : PreparedTerm) : read? d (o.lexemes d) = some o := by
  cases o with
  | slot n => rfl
  | now => cases d <;> decide
  | literal s =>
    show some (PreparedTerm.literal (String.ofList (d.unescape (d.escapeChars s.toList)))) = _
    rw [Dialect.unescape_escapeChars, String.ofList_toList]

theorem comma_not_mem_lexemes (d : Dialect) (o : PreparedTerm) :
    Lexeme.token .comma ∉ o.lexemes d := by
  cases o with
  | slot n => simp [lexemes]
  | now => cases d <;> decide
  | literal s => simp [lexemes]

end PreparedTerm

namespace Term

/-- The part of a statement that a term is. -/
def part (d : Dialect) : Term → Part
  | .bound _ => .slot
  | .now => .now
  | .literal s => .same (.literal (d.escapeChars s.toList))

/-- What is read of a term with so many slots in front of it. -/
def prepared (n : Nat) : Term → PreparedTerm
  | .bound _ => .slot (n + 1)
  | .now => .now
  | .literal s => .literal s

theorem tokens_part (d : Dialect) (t : Term) : (t.part d).tokens = t.tokens d := by
  cases t <;> rfl

theorem slots_part (d : Dialect) (t : Term) : (t.part d).slots = t.params.length := by
  cases t <;> rfl

theorem written_part (d : Dialect) (t : Term) : (t.part d).Written d := by
  cases t with
  | literal s => exact ⟨⟨_, rfl⟩, nofun, nofun⟩
  | _ => trivial

theorem reading_part (d : Dialect) (n : Nat) (t : Term) :
    d.reading n (t.part d) = (t.prepared n).lexemes d := by
  cases t with
  | literal s => rfl
  | _ => rfl

end Term

/-! ## §2. Lists of terms. -/

/-- Terms that stand beside something, as prepared ones: each bound one has the next slot. -/
def numbered {α : Type} : Nat → List (α × Term) → List (α × PreparedTerm)
  | _, [] => []
  | n, (a, t) :: items => (a, t.prepared n) :: numbered (n + t.params.length) items

section

variable {α : Type}

theorem map_fst_numbered (items : List (α × Term)) (n : Nat) :
    (numbered n items).map Prod.fst = items.map Prod.fst := by
  induction items generalizing n with
  | nil => rfl
  | cons item items ih => rw [numbered, List.map_cons, ih, List.map_cons]

theorem length_numbered (items : List (α × Term)) (n : Nat) :
    (numbered n items).length = items.length := by
  rw [← List.length_map Prod.fst, map_fst_numbered, List.length_map]

theorem numbered_ne_nil {items : List (α × Term)} (h : items ≠ []) (n : Nat) :
    numbered n items ≠ [] := by
  rw [← List.length_pos_iff, length_numbered, List.length_pos_iff]
  exact h

theorem numbered_append (items others : List (α × Term)) (n : Nat) :
    numbered n (items ++ others)
      = numbered n items ++ numbered (n + (items.flatMap fun a => a.2.params).length) others := by
  induction items generalizing n with
  | nil => rfl
  | cons item items ih =>
    rw [List.cons_append, numbered, ih, numbered, List.flatMap_cons, List.length_append,
      Nat.add_assoc]
    rfl

/-- Bound terms have consecutive slots. -/
theorem numbered_bound {β : Type} (column : β → α) (value : β → Value) (bs : List β) (n : Nat) :
    numbered n (bs.map fun b => (column b, .bound (value b)))
      = bs.mapIdx fun k b => (column b, .slot (n + k + 1)) := by
  induction bs generalizing n with
  | nil => rfl
  | cons b bs ih =>
    rw [List.map_cons, numbered, List.mapIdx_cons]
    show (column b, PreparedTerm.slot (n + 1)) :: numbered (n + 1) _ = _
    rw [ih]
    refine congrArg _ (List.mapIdx_eq_mapIdx_iff.2 fun k hk => ?_)
    rw [Nat.add_right_comm n 1 k, Nat.add_assoc n k 1]

variable (d : Dialect) (front : α → List Token)

/-- An item of a list: what stands in front of the term, and the term. -/
def itemParts (a : α × Term) : List Part := (front a.1).map .same ++ [a.2.part d]

/-- What a server reads of an item. -/
def itemLexemes (a : α × PreparedTerm) : List Lexeme :=
  ((front a.1).filter Token.counts).map .token ++ a.2.lexemes d

theorem eachFrom_same (ts : List Token) (n : Nat) (ps : List Part) :
    Part.eachFrom d.reading n (ts.map .same ++ ps)
      = (ts.filter Token.counts).map .token ++ Part.eachFrom d.reading n ps := by
  induction ts with
  | nil => rfl
  | cons t ts ih =>
    rw [List.map_cons, List.cons_append, Part.eachFrom]
    show d.reading n (.same t) ++ Part.eachFrom d.reading n (ts.map .same ++ ps) = _
    rw [ih, Dialect.reading]
    split
    · rename_i ht
      rw [List.filter_cons_of_pos ht]
      rfl
    · rename_i ht
      rw [List.filter_cons_of_neg ht]
      rfl

theorem slots_same (ts : List Token) : ((ts.map Part.same).map Part.slots).sum = 0 := by
  induction ts with
  | nil => rfl
  | cons t ts ih =>
    rw [List.map_cons, List.map_cons, List.sum_cons, ih]
    rfl

theorem slots_itemParts (a : α × Term) :
    ((itemParts d front a).map Part.slots).sum = a.2.params.length := by
  rw [itemParts, List.map_append, List.sum_append, slots_same, Nat.zero_add]
  exact a.2.slots_part d

theorem eachFrom_itemParts (n : Nat) (a : α × Term) :
    Part.eachFrom d.reading n (itemParts d front a)
      = itemLexemes d front (a.1, a.2.prepared n) := by
  rw [itemParts, eachFrom_same, itemLexemes, ← a.2.reading_part d n]
  exact congrArg _ (List.append_nil _)

/-- **A list of items** is read item by item, and its bound terms have the next slots. -/
theorem eachFrom_items (items : List (α × Term)) (n : Nat) :
    Part.eachFrom d.reading n ([.same .comma].intercalate (items.map (itemParts d front)))
      = [.token .comma].intercalate ((numbered n items).map (itemLexemes d front)) := by
  induction items generalizing n with
  | nil => rfl
  | cons item items ih =>
    cases items with
    | nil =>
      rw [List.map_singleton, List.intercalate_singleton, eachFrom_itemParts]
      exact List.intercalate_singleton.symm
    | cons item' items =>
      have hrest := ih (n + item.2.params.length)
      rw [List.map_cons, List.map_cons, List.intercalate_cons_cons, ← List.map_cons,
        List.append_assoc, Part.eachFrom_append, eachFrom_itemParts, slots_itemParts]
      show _ ++ ([Lexeme.token .comma] ++ Part.eachFrom d.reading (n + item.2.params.length)
        ([.same .comma].intercalate ((item' :: items).map (itemParts d front)))) = _
      rw [hrest]
      simp only [numbered, List.map_cons, List.intercalate_cons_cons, List.append_assoc]

theorem slots_items (items : List (α × Term)) :
    (([.same .comma].intercalate (items.map (itemParts d front))).map Part.slots).sum
      = (items.flatMap fun a => a.2.params).length := by
  induction items with
  | nil => rfl
  | cons item items ih =>
    cases items with
    | nil =>
      rw [List.map_singleton, List.intercalate_singleton, slots_itemParts, List.flatMap_singleton]
    | cons item' items =>
      rw [List.map_cons, List.map_cons, List.intercalate_cons_cons, ← List.map_cons,
        List.map_append, List.map_append, List.sum_append, List.sum_append, ih, slots_itemParts,
        List.flatMap_cons, List.length_append]
      simp [Part.slots]

theorem tokens_itemParts (a : α × Term) :
    (itemParts d front a).flatMap Part.tokens = front a.1 ++ a.2.tokens d := by
  rw [itemParts, List.flatMap_append, List.flatMap_map, List.flatMap_singleton, a.2.tokens_part]
  exact congrArg (· ++ _) (List.flatMap_singleton' _)

theorem tokens_items (items : List (α × Term)) :
    ([.same .comma].intercalate (items.map (itemParts d front))).flatMap Part.tokens
      = [.comma].intercalate (items.map fun a => front a.1 ++ a.2.tokens d) := by
  rw [Token.flatMap_intercalate, List.map_map]
  exact congrArg _ (List.map_congr_left fun a _ => tokens_itemParts d front a)

theorem composed_items {items : List (α × Term)}
    (h : ∀ a ∈ items, Part.Composed d (itemParts d front a)) :
    Part.Composed d ([.same .comma].intercalate (items.map (itemParts d front))) := by
  refine .intercalate_free Part.free_comma (Part.written_comma d) ?_
  intro part hpart
  obtain ⟨a, ha, rfl⟩ := List.mem_map.1 hpart
  exact h a ha

/-- Items without commas in front of their terms are found between the commas. -/
theorem splitOn_items {items : List (α × PreparedTerm)} (hne : items ≠ [])
    (hfront : ∀ a, Token.comma ∉ front a) :
    ([Lexeme.token .comma].intercalate (items.map (itemLexemes d front))).splitOn (.token .comma)
      = items.map (itemLexemes d front) := by
  refine List.splitOn_intercalate _ ?_ (by rwa [ne_eq, List.map_eq_nil_iff])
  intro ls hls hcomma
  obtain ⟨a, _, rfl⟩ := List.mem_map.1 hls
  rcases List.mem_append.1 hcomma with hcomma | hcomma
  · obtain ⟨t, ht, htoken⟩ := List.mem_map.1 hcomma
    rw [Lexeme.token.inj htoken] at ht
    exact hfront a.1 (List.mem_of_mem_filter ht)
  · exact a.2.comma_not_mem_lexemes d hcomma

end

namespace Part.Composed

variable {d : Dialect} {ps : List Part}

/-- A word and a term that it is set to. -/
theorem assigned {cs : List Char} (hcs : (Token.word cs).Written d) (t : Term) :
    Composed d [.same (.word cs), .same (.comparison ['=']), t.part d] := by
  have hterm : Composed d [t.part d] := .singleton (t.written_part d)
  have hsign : Composed d [.same (.comparison ['=']), t.part d] := by
    refine hterm.cons ⟨⟨'=', rfl, by decide⟩, nofun, nofun⟩ ?_
    intro p hp
    rw [← Option.some.inj hp]
    cases t with
    | literal s => exact ⟨trivial, nofun⟩
    | bound v => trivial
    | now => rfl
  refine hsign.cons ⟨hcs, nofun, nofun⟩ ?_
  intro p hp
  rw [← Option.some.inj hp]
  exact ⟨trivial, nofun⟩

end Part.Composed

/-! ## §3. Updates. -/

/-- An update whose parameters are not bound yet. -/
structure PreparedUpdate where
  table : String
  sets : List (String × PreparedTerm)
  /-- The slot of the identifier. -/
  id : Nat
  deriving DecidableEq, Repr

namespace Update

/-- What stands in front of the term of an item. -/
def itemFront (column : String) : List Token := [.word column.toList, .comparison ['=']]

/-- The parts of the condition on the identifier. -/
def conditionParts : List Part :=
  [.same (keyword "WHERE"), .same .blank, .same (.word idPath.toList), .same (.comparison ['=']),
    .slot]

/-- The parts that an update is written as. -/
def parts (d : Dialect) (u : Update) : List Part :=
  [keyword "UPDATE", .blank, .word u.table.toList, .blank, keyword "SET", .blank].map .same
    ++ ([.same .comma].intercalate (u.sets.map (itemParts d itemFront))
      ++ .same .blank :: conditionParts)

theorem text_parts (d : Dialect) (u : Update) :
    String.ofList ((u.parts d).flatMap Part.text) = u.text d := by
  have htokens : (u.parts d).flatMap Part.tokens = u.tokens d := by
    rw [parts, List.flatMap_append, List.flatMap_append, tokens_items]
    rfl
  rw [← source_tokens, ← htokens, List.flatMap_assoc]
  rfl

theorem composed_parts (d : Dialect) {u : Update} (ht : IsWord u.table) (hs : u.sets.Named) :
    Part.Composed d (u.parts d) := by
  have hid : (Token.word idPath.toList).Written d := Token.written_word (by decide)
  have hitems : Part.Composed d ([.same .comma].intercalate (u.sets.map (itemParts d itemFront))) :=
    composed_items d itemFront fun a ha => .assigned (Token.written_word (hs a ha)) a.2
  refine .word_blank (Token.written_word (by decide)) ?_
  refine .word_blank (Token.written_word ht) ?_
  refine .word_blank (Token.written_word (by decide)) ?_
  exact hitems.append_blank
    (.word_blank (Token.written_word (by decide)) (.assigned hid (.bound u.id)))

/-- **The bind slots of an update** are as many as its parameters. -/
theorem bindNumbers?_text (d : Dialect) {u : Update} (ht : IsWord u.table) (hs : u.sets.Named) :
    d.bindNumbers? (d.render (u.text d)) = some (List.range' 1 u.params.length) := by
  have hslots : ((u.parts d).map Part.slots).sum = u.params.length := by
    rw [parts, List.map_append, List.map_append, List.sum_append, List.sum_append, slots_same,
      slots_items, Nat.zero_add, params, List.length_append]
    rfl
  rw [← text_parts, Dialect.bindNumbers?_render (composed_parts d ht hs), hslots]

/-- What is prepared of an update: the slots of its columns, and behind them that of the
identifier. -/
def prepared (u : Update) : PreparedUpdate := ⟨u.table, numbered 0 u.sets, u.sets.params.length + 1⟩

theorem eachFrom_parts (d : Dialect) (u : Update) :
    Part.eachFrom d.reading 0 (u.parts d)
      = .token (keyword "UPDATE") :: .token (.word u.table.toList) :: .token (keyword "SET")
        :: ([.token .comma].intercalate ((numbered 0 u.sets).map (itemLexemes d itemFront))
          ++ [.token (keyword "WHERE"), .token (.word idPath.toList),
            .token (.comparison ['=']), .bind (u.sets.params.length + 1)]) := by
  rw [parts, eachFrom_same, Part.eachFrom_append, eachFrom_items, slots_items, Nat.zero_add]
  rfl

end Update

namespace PreparedUpdate

/-- Read a column and what it is set to. -/
def assignment? (d : Dialect) : List Lexeme → Option (String × PreparedTerm)
  | .token (.word c) :: .token (.comparison ['=']) :: rest =>
    (PreparedTerm.read? d rest).map fun o => (String.ofList c, o)
  | _ => none

/-- Read an update: columns and terms stand between the first three words and the condition,
which is as long as it is. -/
def read? (d : Dialect) (ls : List Lexeme) : Option PreparedUpdate :=
  match ls with
  | head :: .token (.word table) :: set :: rest =>
    match rest.drop (rest.length - 4) with
    | [word, id, sign, .bind n] =>
      if head = .token (keyword "UPDATE") ∧ set = .token (keyword "SET")
          ∧ word = .token (keyword "WHERE") ∧ id = .token (.word idPath.toList)
          ∧ sign = .token (.comparison ['=']) then
        (((rest.take (rest.length - 4)).splitOn (.token .comma)).mapM (assignment? d)).map
          fun sets => ⟨String.ofList table, sets, n⟩
      else none
    | _ => none
  | _ => none

theorem assignment?_lexemes (d : Dialect) (a : String × PreparedTerm) :
    assignment? d (itemLexemes d Update.itemFront a) = some a := by
  show (PreparedTerm.read? d (a.2.lexemes d)).map _ = some a
  rw [PreparedTerm.read?_lexemes, Option.map_some, String.ofList_toList]

/-- **What is prepared of an update.** -/
theorem read?_parts (d : Dialect) {u : Update} (hne : u.sets ≠ []) :
    read? d (Part.eachFrom d.reading 0 (u.parts d)) = some u.prepared := by
  have hfront : ∀ column, Token.comma ∉ Update.itemFront column := by
    intro column
    simp [Update.itemFront]
  rw [Update.eachFrom_parts]
  unfold read?
  simp only [List.length_append, List.length_cons, List.length_nil, Nat.zero_add,
    Nat.add_sub_cancel, Nat.reduceAdd, List.drop_left, List.take_left, and_self, if_true]
  rw [splitOn_items d _ (numbered_ne_nil hne 0) hfront,
    mapM_map_eq_some (assignment?_lexemes d), List.map_id']
  show some (PreparedUpdate.mk (String.ofList u.table.toList) _ _) = _
  rw [String.ofList_toList]
  rfl

/-- The update that a server prepares of a native text. -/
def ofText? (d : Dialect) (native : String) : Option PreparedUpdate :=
  (d.prepare? native).bind (read? d)

/-- A server that is sent a rendered update prepares it. -/
theorem ofText?_render (d : Dialect) {u : Update} (ht : IsWord u.table) (hs : u.sets.Named)
    (hne : u.sets ≠ []) : ofText? d (d.render (u.text d)) = some u.prepared := by
  rw [ofText?, ← Update.text_parts, d.prepare?_render (Update.composed_parts d ht hs),
    Option.bind_some, read?_parts d hne]

end PreparedUpdate

/-! ## §4. Insertions. -/

/-- An insertion whose parameters are not bound yet. -/
structure PreparedInsert where
  table : String
  items : List (String × PreparedTerm)
  deriving DecidableEq, Repr

namespace Insert

/-- Nothing stands in front of a term in a list of values. -/
def valueFront (_ : String) : List Token := []

/-- The tokens of the list of columns. -/
def columnTokens (i : Insert) : List Token :=
  [.comma].intercalate (i.items.map fun a => [.word a.1.toList])

/-- The parts that an insertion is written as. -/
def parts (d : Dialect) (i : Insert) : List Part :=
  [keyword "INSERT", .blank, keyword "INTO", .blank, .word i.table.toList, .blank,
      .opening].map .same
    ++ (i.columnTokens.map .same
      ++ ([.closing, .blank, keyword "VALUES", .blank, .opening].map .same
        ++ ([.same .comma].intercalate (i.items.map (itemParts d valueFront)) ++ [.same .closing])))

theorem text_parts (d : Dialect) (i : Insert) :
    String.ofList ((i.parts d).flatMap Part.text) = i.text d := by
  have hcolumns : (i.columnTokens.map Part.same).flatMap Part.tokens = i.columnTokens := by
    rw [List.flatMap_map]
    exact List.flatMap_singleton' _
  have htokens : (i.parts d).flatMap Part.tokens = i.tokens d := by
    rw [parts, List.flatMap_append, List.flatMap_append, List.flatMap_append, List.flatMap_append,
      tokens_items, hcolumns]
    rfl
  rw [← source_tokens, ← htokens, List.flatMap_assoc]
  rfl

theorem columnTokens_eq (i : Insert) : i.columnTokens.map Part.same
    = [.same .comma].intercalate (i.items.map fun a => [.same (.word a.1.toList)]) := by
  rw [columnTokens, List.map_eq_flatMap, Token.flatMap_intercalate, List.map_map]
  rfl

theorem composed_columns (d : Dialect) {i : Insert} (hs : i.items.Named) :
    Part.Composed d (i.columnTokens.map .same) := by
  rw [columnTokens_eq]
  refine .intercalate_free Part.free_comma (Part.written_comma d) ?_
  intro part hpart
  obtain ⟨a, ha, rfl⟩ := List.mem_map.1 hpart
  exact .singleton (Part.written_word (Token.written_word (hs a ha)))

/-- What stands between commas is no bracket if it is none in any of the lists. -/
theorem plain_intercalate {parts : List (List Part)}
    (h : ∀ part ∈ parts, ∀ p ∈ part, p ≠ .same .opening ∧ p ≠ .same .closing) :
    ∀ p ∈ [.same .comma].intercalate parts, p ≠ .same .opening ∧ p ≠ .same .closing := by
  intro p hp
  rcases Text.mem_intercalate hp with hp | ⟨part, hpart, hp⟩
  · rw [List.mem_singleton.1 hp]
    exact ⟨nofun, nofun⟩
  · exact h part hpart p hp

theorem composed_parts (d : Dialect) {i : Insert} (ht : IsWord i.table) (hs : i.items.Named)
    (hne : i.items ≠ []) : Part.Composed d (i.parts d) := by
  have hlists {f : String × Term → List Part} (hf : ∀ a, f a ≠ []) :
      [.same .comma].intercalate (i.items.map f) ≠ [] := by
    refine Text.intercalate_ne_nil ?_ ?_
    · rwa [ne_eq, List.map_eq_nil_iff]
    · intro part hpart
      obtain ⟨a, _, rfl⟩ := List.mem_map.1 hpart
      exact hf a
  have hvalues : Part.Composed d
      ([.same .comma].intercalate (i.items.map (itemParts d valueFront))) :=
    composed_items d valueFront fun a _ => .singleton (a.2.written_part d)
  have hcolumnsPlain : ∀ p ∈ i.columnTokens.map Part.same,
      p ≠ .same .opening ∧ p ≠ .same .closing := by
    rw [columnTokens_eq]
    refine plain_intercalate ?_
    intro part hpart p hp
    obtain ⟨a, _, rfl⟩ := List.mem_map.1 hpart
    rw [List.mem_singleton.1 hp]
    exact ⟨nofun, nofun⟩
  have hvaluesPlain : ∀ p ∈ [Part.same .comma].intercalate (i.items.map (itemParts d valueFront)),
      p ≠ .same .opening ∧ p ≠ .same .closing := by
    refine plain_intercalate ?_
    intro part hpart p hp
    obtain ⟨a, _, rfl⟩ := List.mem_map.1 hpart
    rw [List.mem_singleton.1 hp]
    cases a.2 with
    | literal s => exact ⟨nofun, nofun⟩
    | bound v => exact ⟨nofun, nofun⟩
    | now => exact ⟨nofun, nofun⟩
  have hcolumnsNe : i.columnTokens.map Part.same ≠ [] := by
    rw [columnTokens_eq]
    exact hlists fun _ => List.cons_ne_nil _ _
  refine .word_blank (Token.written_word (by decide)) ?_
  refine .word_blank (Token.written_word (by decide)) ?_
  refine .word_blank (Token.written_word ht) ?_
  refine .brackets (composed_columns d hs) hcolumnsNe hcolumnsPlain ?_
  refine Part.Composed.nil.append_blank (.word_blank (Token.written_word (by decide)) ?_)
  exact .brackets hvalues (hlists fun _ => List.cons_ne_nil _ _) hvaluesPlain .nil

/-- **The bind slots of an insertion** are as many as its parameters. -/
theorem bindNumbers?_text (d : Dialect) {i : Insert} (ht : IsWord i.table) (hs : i.items.Named)
    (hne : i.items ≠ []) :
    d.bindNumbers? (d.render (i.text d)) = some (List.range' 1 i.params.length) := by
  have hslots : ((i.parts d).map Part.slots).sum = i.params.length := by
    simp only [parts, List.map_append, List.sum_append, slots_same, slots_items, Nat.zero_add]
    rfl
  rw [← text_parts, Dialect.bindNumbers?_render (composed_parts d ht hs hne), hslots]

/-- What is prepared of an insertion. -/
def prepared (i : Insert) : PreparedInsert := ⟨i.table, numbered 0 i.items⟩

/-- What a server reads of the list of columns. -/
def columnLexemes (i : Insert) : List Lexeme :=
  [.token .comma].intercalate (i.items.map fun a => [.token (.word a.1.toList)])

theorem eachFrom_parts (d : Dialect) (i : Insert) :
    Part.eachFrom d.reading 0 (i.parts d)
      = .token (keyword "INSERT") :: .token (keyword "INTO") :: .token (.word i.table.toList)
        :: .token .opening :: (i.columnLexemes
          ++ .token .closing :: .token (keyword "VALUES") :: .token .opening
          :: ([.token .comma].intercalate ((numbered 0 i.items).map (itemLexemes d valueFront))
            ++ [.token .closing])) := by
  have hcolumns : (i.columnTokens.filter Token.counts).map Lexeme.token = i.columnLexemes := by
    rw [columnTokens, Token.filter_counts_intercalate rfl, List.map_eq_flatMap,
      Token.flatMap_intercalate, List.map_map, List.map_map]
    rfl
  rw [parts, eachFrom_same, eachFrom_same, eachFrom_same, hcolumns, Part.eachFrom_append,
    eachFrom_items]
  rfl

theorem mem_columnLexemes {i : Insert} {l : Lexeme} (h : l ∈ i.columnLexemes) :
    l = .token .comma ∨ ∃ a ∈ i.items, l = .token (.word a.1.toList) := by
  rcases Text.mem_intercalate h with hcomma | ⟨ls, hls, hword⟩
  · exact .inl (List.mem_singleton.1 hcomma)
  · obtain ⟨a, ha, rfl⟩ := List.mem_map.1 hls
    exact .inr ⟨a, ha, List.mem_singleton.1 hword⟩

/-- The first closing bracket is the one behind the columns. -/
theorem takeWhile_columnLexemes (i : Insert) (rest : List Lexeme) :
    (i.columnLexemes ++ .token .closing :: rest).takeWhile (· != .token .closing)
      = i.columnLexemes := by
  rw [List.takeWhile_append_of_pos]
  · exact List.append_nil _
  · intro l hl
    rcases mem_columnLexemes hl with rfl | ⟨a, _, rfl⟩ <;> rfl

/-- The columns fall apart at their commas. -/
theorem splitOn_columnLexemes {i : Insert} (h : i.items ≠ []) :
    i.columnLexemes.splitOn (.token .comma)
      = i.items.map fun a => [.token (.word a.1.toList)] := by
  refine List.splitOn_intercalate _ ?_ (by rwa [ne_eq, List.map_eq_nil_iff])
  intro ls hls hcomma
  obtain ⟨a, _, rfl⟩ := List.mem_map.1 hls
  cases List.mem_singleton.1 hcomma

end Insert

namespace PreparedInsert

/-- The column that is one word. -/
def column? : List Lexeme → Option String
  | [.token (.word c)] => some (String.ofList c)
  | _ => none

/-- Read an insertion: columns stand in the first brackets and terms in the second ones, as many
of each. -/
def read? (d : Dialect) (ls : List Lexeme) : Option PreparedInsert :=
  match ls with
  | insert :: into :: .token (.word table) :: .token .opening :: rest =>
    let columns := rest.takeWhile (· != .token .closing)
    match rest.drop columns.length with
    | .token .closing :: values :: .token .opening :: body =>
      if insert = .token (keyword "INSERT") ∧ into = .token (keyword "INTO")
          ∧ values = .token (keyword "VALUES") ∧ body.getLast? = some (.token .closing) then do
        let columns ← (columns.splitOn (.token .comma)).mapM column?
        let terms ← (body.dropLast.splitOn (.token .comma)).mapM (PreparedTerm.read? d)
        if columns.length = terms.length then
          some ⟨String.ofList table, columns.zip terms⟩
        else none
      else none
    | _ => none
  | _ => none

/-- **What is prepared of an insertion.** -/
theorem read?_parts (d : Dialect) {i : Insert} (hne : i.items ≠ []) :
    read? d (Part.eachFrom d.reading 0 (i.parts d)) = some i.prepared := by
  have hcolumn (a : String × Term) : column? [.token (.word a.1.toList)] = some a.1 :=
    congrArg some String.ofList_toList
  have hterm (a : String × PreparedTerm) :
      PreparedTerm.read? d (itemLexemes d Insert.valueFront a) = some a.2 := a.2.read?_lexemes d
  rw [Insert.eachFrom_parts]
  unfold read?
  simp only [i.takeWhile_columnLexemes, List.drop_left, List.getLast?_concat, List.dropLast_concat,
    Insert.splitOn_columnLexemes hne, mapM_map_eq_some hcolumn, mapM_map_eq_some hterm, and_self,
    splitOn_items d Insert.valueFront (numbered_ne_nil hne 0) fun _ => List.not_mem_nil, if_true]
  show (if (i.items.map Prod.fst).length = ((numbered 0 i.items).map Prod.snd).length then
    some (PreparedInsert.mk (String.ofList i.table.toList)
      ((i.items.map Prod.fst).zip ((numbered 0 i.items).map Prod.snd))) else none) = _
  rw [if_pos (by rw [List.length_map, List.length_map, length_numbered]), String.ofList_toList,
    ← map_fst_numbered i.items 0, ← List.zip_of_prod rfl rfl]
  rfl

/-- The insertion that a server prepares of a native text. -/
def ofText? (d : Dialect) (native : String) : Option PreparedInsert :=
  (d.prepare? native).bind (read? d)

/-- A server that is sent a rendered insertion prepares it. -/
theorem ofText?_render (d : Dialect) {i : Insert} (ht : IsWord i.table) (hs : i.items.Named)
    (hne : i.items ≠ []) : ofText? d (d.render (i.text d)) = some i.prepared := by
  rw [ofText?, ← Insert.text_parts, d.prepare?_render (Insert.composed_parts d ht hs hne),
    Option.bind_some, read?_parts d hne]

end PreparedInsert

end CardStore.Sql
