/-
  CardStore.Proofs.Sql.Predicate
  ──────────────────────────────
  **HOW THE TEXT OF A PREDICATE IS READ.**

  The text of a predicate is read as the pieces that its tree says, whatever
  stands in the patterns of its literals.  The pieces of its leaves lie in it
  from left to right, and each leaf has as many bind slots as parameters.

      (T0.MC LIKE '%?%') AND (T0.N BETWEEN ? AND ?)
       └── no slot ────┘      └──── two slots ───┘

  Main statements:
    * `Formed.clean` — the text is read as the pieces of the tree.
    * `Formed.strewn` — the pieces of the leaves lie in it, with no slot between them.
    * `slotCount_pieces_leaf` — a leaf has as many slots as parameters.
    * `Strewn.exists_slot` — the slot of a parameter stands in the leaf that holds it.
    * `params_eq_flatMap_leaves` — the parameters are those of the leaves.
-/
import CardStore.Proofs.Sql.Clean
import CardStore.Sql.Predicate

namespace CardStore.Sql

open Sql.Piece (chars slotCount)

namespace Predicate

/-! ## §1. Trees of predicates. -/

/-- The column of a predicate on one column. -/
def column? : Predicate → Option String
  | .compare column _ _ => some column
  | .isNull column _ => some column
  | .isIn column _ _ => some column
  | .like column _ _ => some column
  | .between column _ _ _ => some column
  | .parens _ => none
  | .joined _ _ => none

mutual

/-- The predicates on single columns from left to right. -/
def leaves : Predicate → List Predicate
  | .parens p => leaves p
  | .joined _ ps => leavesAll ps
  | p => [p]

def leavesAll : List Predicate → List Predicate
  | [] => []
  | p :: ps => leaves p ++ leavesAll ps

end

theorem leavesAll_eq_flatMap (ps : List Predicate) : leavesAll ps = ps.flatMap leaves := by
  induction ps with
  | nil => rfl
  | cons p ps ih => rw [leavesAll, ih, List.flatMap_cons]

theorem leaves_of_column? {p : Predicate} {column : String} (h : p.column? = some column) :
    p.leaves = [p] := by
  cases p <;> first | rfl | cases h

mutual

/-- The parameters are those of the leaves from left to right. -/
theorem params_eq_flatMap_leaves : (p : Predicate) → p.params = p.leaves.flatMap params
  | .compare _ _ _ => by simp [leaves]
  | .isNull _ _ => by simp [leaves]
  | .isIn _ _ _ => by simp [leaves]
  | .like _ _ _ => by simp [leaves]
  | .between _ _ _ _ => by simp [leaves]
  | .parens p => by rw [params, leaves, params_eq_flatMap_leaves p]
  | .joined _ ps => by rw [params, leaves, paramsAll_eq_flatMap_leavesAll ps]

theorem paramsAll_eq_flatMap_leavesAll :
    (ps : List Predicate) → paramsAll ps = (leavesAll ps).flatMap params
  | [] => rfl
  | p :: ps => by
    rw [paramsAll, leavesAll, List.flatMap_append, params_eq_flatMap_leaves p,
      paramsAll_eq_flatMap_leavesAll ps]

end

/-- Where a predicate stands: a group joins its members by a connective, and a member is a
predicate on a column or a group in brackets. -/
inductive Rank where
  | member
  | group

/-- Trees in which groups and members alternate, and whose columns name their tables. -/
inductive Formed : Rank → Predicate → Prop where
  | leaf {p : Predicate} {column : String} :
    p.column? = some column → Qualified column → Formed .member p
  | parens {p : Predicate} : Formed .group p → Formed .member (.parens p)
  | joined {logic : Logic} {ps : List Predicate} :
    ps ≠ [] → (∀ p ∈ ps, Formed .member p) → Formed .group (.joined logic ps)

/-- Predicates on columns that name their tables. -/
abbrev AreLeaves (qs : List Predicate) : Prop :=
  ∀ q ∈ qs, ∃ column, q.column? = some column ∧ Qualified column

/-- The leaves of such a tree are on columns that name their tables. -/
theorem Formed.areLeaves {rank : Rank} {p : Predicate} (h : Formed rank p) :
    AreLeaves p.leaves := by
  induction h with
  | @leaf p column hp hq =>
    intro q hmem
    rw [leaves_of_column? hp, List.mem_singleton] at hmem
    exact ⟨column, by rw [hmem]; exact hp, hq⟩
  | parens _ ih => exact ih
  | joined _ _ ih =>
    intro q hmem
    rw [leaves, leavesAll_eq_flatMap, List.mem_flatMap] at hmem
    obtain ⟨p, hp, hq⟩ := hmem
    exact ih p hp q hq

/-! ## §2. Pieces. -/

mutual

/-- The pieces of a predicate's text. -/
def pieces (d : Dialect) : Predicate → List Piece
  | .like column negated pattern =>
    chars (column ++ " " ++ (Operator.like negated).symbol ++ " ").toList
      ++ [.literal ('%' :: (d.escapeChars pattern.toList ++ ['%']))]
  | .isIn column negated (v :: vs) =>
    chars (column ++ " " ++ (Operator.isIn negated).symbol ++ " ").toList
      ++ (.char '(' :: chars (slots (v :: vs).length).toList ++ [.char ')'])
  | .parens p => .char '(' :: pieces d p ++ [.char ')']
  | .joined logic ps => (chars (connective logic).toList).intercalate (piecesAll d ps)
  | p => chars (p.text d).toList

def piecesAll (d : Dialect) : List Predicate → List (List Piece)
  | [] => []
  | p :: ps => pieces d p :: piecesAll d ps

end

theorem piecesAll_eq_map (d : Dialect) (ps : List Predicate) :
    piecesAll d ps = ps.map (pieces d) := by
  induction ps with
  | nil => rfl
  | cons p ps ih => rw [piecesAll, ih, List.map_cons]

theorem texts_eq_map (d : Dialect) (ps : List Predicate) : texts d ps = ps.map (text d) := by
  induction ps with
  | nil => rfl
  | cons p ps ih => rw [texts, ih, List.map_cons]

theorem toList_slots (n : Nat) :
    (slots n).toList = [','].intercalate (List.replicate n [slot]) := by
  rw [slots, Text.toList_joined, List.map_replicate]
  rfl

theorem plain_slots (n : Nat) : Plain (slots n).toList := by
  rw [toList_slots]
  apply Plain.intercalate (by decide)
  intro ds hd
  rw [List.eq_of_mem_replicate hd]
  decide

theorem count_slots (n : Nat) : (slots n).toList.count slot = n := by
  rw [toList_slots]
  induction n with
  | zero => rfl
  | succ n ih =>
    cases n with
    | zero => rfl
    | succ n =>
      rw [List.replicate_succ, List.replicate_succ, List.intercalate_cons_cons,
        List.count_append, ← List.replicate_succ, ih]
      -- of a slot and the comma behind it, one counts
      have hmark : ([slot] ++ [',']).count slot = 1 := by decide
      rw [hmark]
      omega

theorem toList_literal (d : Dialect) (column word pattern : String) :
    (column ++ " " ++ word ++ " '%" ++ d.escape pattern ++ "%'").toList
      = (column ++ " " ++ word ++ " ").toList
        ++ quote :: '%' :: (d.escapeChars pattern.toList ++ ['%', quote]) := by
  have hopen : " '%".toList = " ".toList ++ [quote, '%'] := by decide
  have hclose : "%'".toList = ['%', quote] := by decide
  simp only [String.toList_append, hopen, hclose, Dialect.escape, String.toList_ofList]
  simp

theorem toList_brackets (column word : String) (inner : String) :
    (column ++ " " ++ word ++ " (" ++ inner ++ ")").toList
      = (column ++ " " ++ word ++ " ").toList ++ ('(' :: inner.toList ++ [')']) := by
  have hopen : " (".toList = " ".toList ++ ['('] := by decide
  have hclose : ")".toList = [')'] := by decide
  simp only [String.toList_append, hopen, hclose]
  simp

/-- The text of a leaf is read as its pieces. -/
theorem clean_leaf {d r : Dialect} (h : d.ReadableBy r) {p : Predicate} {column : String}
    (hp : p.column? = some column) (hq : Qualified column) :
    r.Clean (p.text d).toList (p.pieces d) := by
  have hword : ∀ word : String, Plain word.toList →
      Plain (column ++ " " ++ word ++ " ").toList := by
    intro word hw
    simp only [String.toList_append]
    exact ((hq.inert.plain.append (by decide)).append hw).append (by decide)
  cases p with
  | parens p => cases hp
  | joined logic ps => cases hp
  | compare column c value =>
    obtain rfl : column = _ := Option.some.inj hp
    apply Dialect.Clean.plain
    simp only [text, String.toList_append]
    exact (hq.inert.plain.append (by cases c <;> decide)).append (by decide)
  | isNull column negated =>
    obtain rfl : column = _ := Option.some.inj hp
    apply Dialect.Clean.plain
    simp only [text, String.toList_append]
    exact hq.inert.plain.append (by cases negated <;> decide)
  | isIn column negated items =>
    obtain rfl : column = _ := Option.some.inj hp
    cases items with
    | nil =>
      apply Dialect.Clean.plain
      show Plain (if negated then "1=1" else "1=0").toList
      cases negated <;> decide
    | cons v vs =>
      rw [text, pieces, toList_brackets]
      apply (Dialect.Clean.plain (hword _ (by cases negated <;> decide))).append
      apply (Dialect.Clean.plain (plain_slots _)).brackets
      -- the list has a slot at least, so its brackets are not empty
      intro hnil
      have hcount := count_slots (v :: vs).length
      rw [List.map_eq_nil_iff.1 hnil] at hcount
      simp at hcount
  | like column negated pattern =>
    obtain rfl : column = _ := Option.some.inj hp
    rw [text, pieces, toList_literal]
    exact .quoted h (by simp) (hword _ (by cases negated <;> decide)) _
  | between column negated low high =>
    obtain rfl : column = _ := Option.some.inj hp
    apply Dialect.Clean.plain
    simp only [text, String.toList_append]
    exact ((hq.inert.plain.append (by decide)).append (by cases negated <;> decide)).append
      (by decide)

/-- A leaf has as many bind slots as parameters. -/
theorem slotCount_pieces_leaf (d : Dialect) {p : Predicate} {column : String}
    (hp : p.column? = some column) (hq : Qualified column) :
    slotCount (p.pieces d) = p.params.length := by
  have hcol : column.toList.count slot = 0 := List.count_eq_zero_of_not_mem hq.inert.slot_not_mem
  cases p with
  | parens p => cases hp
  | joined logic ps => cases hp
  | compare column c value =>
    obtain rfl : column = _ := Option.some.inj hp
    show slotCount (chars (column ++ c.symbol ++ "?").toList) = 1
    simp only [Piece.slotCount_chars, String.toList_append, List.count_append, hcol]
    cases c <;> decide
  | isNull column negated =>
    obtain rfl : column = _ := Option.some.inj hp
    show slotCount (chars (column ++ _).toList) = 0
    simp only [Piece.slotCount_chars, String.toList_append, List.count_append, hcol]
    cases negated <;> decide
  | isIn column negated items =>
    obtain rfl : column = _ := Option.some.inj hp
    cases items with
    | nil =>
      show slotCount (chars (if negated then "1=1" else "1=0").toList) = 0
      cases negated <;> decide
    | cons v vs =>
      have hw : ((Operator.isIn negated).symbol.toList).count slot = 0 := by
        cases negated <;> decide
      have hb : " ".toList.count slot = 0 := by decide
      have hbrackets : ∀ ps, slotCount (.char '(' :: ps ++ [.char ')']) = slotCount ps := by
        intro ps
        rw [Piece.slotCount_append]
        rfl
      rw [pieces, Piece.slotCount_append, hbrackets, Piece.slotCount_chars,
        Piece.slotCount_chars, count_slots]
      simp only [String.toList_append, List.count_append, hcol, hw, hb, params]
      omega
  | like column negated pattern =>
    obtain rfl : column = _ := Option.some.inj hp
    rw [pieces, Piece.slotCount_append, Piece.slotCount_chars, Piece.slotCount_literal]
    simp only [String.toList_append, List.count_append, hcol]
    show _ = 0
    cases negated <;> decide
  | between column negated low high =>
    obtain rfl : column = _ := Option.some.inj hp
    show slotCount (chars (column ++ _ ++ _ ++ _).toList) = 2
    simp only [Piece.slotCount_chars, String.toList_append, List.count_append, hcol]
    cases negated <;> decide

/-! ## §3. Pieces of a tree. -/

/-- No predicate of such a tree has an empty text. -/
theorem Formed.pieces_ne_nil {rank : Rank} {p : Predicate} (h : Formed rank p) (d : Dialect) :
    p.pieces d ≠ [] := by
  induction h with
  | @leaf p column hp hq =>
    intro hnil
    -- without pieces the text would be empty
    have hread := (clean_leaf (d := d) (r := d) (Or.inl rfl) hp hq).read
    have hsource := d.source_readFrom _ _ _ hread
    rw [hnil] at hsource
    cases p with
    | parens p => cases hp
    | joined logic ps => cases hp
    | compare column c value => simp [text, Dialect.consumed] at hsource
    | isNull column negated => cases negated <;> simp [text, Dialect.consumed] at hsource
    | isIn column negated items =>
      cases items <;> cases negated <;> simp [text, Dialect.consumed] at hsource
    | like column negated pattern => simp [text, Dialect.consumed] at hsource
    | between column negated low high => simp [text, Dialect.consumed] at hsource
  | parens _ ih => simp [pieces]
  | @joined logic ps hne _ ih =>
    rw [pieces, piecesAll_eq_map]
    apply Text.intercalate_ne_nil
    · simpa using hne
    · intro part hpart
      obtain ⟨p, hp, rfl⟩ := List.mem_map.1 hpart
      exact ih p hp

/-- **The text of a predicate** is read as the pieces of its tree. -/
theorem Formed.clean {d r : Dialect} (hr : d.ReadableBy r) {rank : Rank} {p : Predicate}
    (h : Formed rank p) : r.Clean (p.text d).toList (p.pieces d) := by
  induction h with
  | leaf hp hq => exact clean_leaf hr hp hq
  | @parens p hp ih =>
    have htext : (text d (.parens p)).toList = '(' :: (p.text d).toList ++ [')'] := by
      have hopen : "(".toList = ['('] := by decide
      have hclose : ")".toList = [')'] := by decide
      simp only [text, String.toList_append, hopen, hclose]
      rfl
    rw [htext, pieces]
    exact ih.brackets (hp.pieces_ne_nil d)
  | @joined logic ps hne _ ih =>
    rw [text, Text.toList_joined, texts_eq_map, List.map_map, pieces, piecesAll_eq_map]
    exact .intercalate (.plain (by cases logic <;> decide)) _ _ ps ih

/-- The pieces of predicates from left to right, with pieces that are no slots before, between
and behind them. -/
inductive Strewn (d : Dialect) : List Predicate → List Piece → Prop where
  | glue {ps : List Piece} : slotCount ps = 0 → Strewn d [] ps
  | leaf {glue ps : List Piece} {q : Predicate} {qs : List Predicate} :
    slotCount glue = 0 → Strewn d qs ps → Strewn d (q :: qs) (glue ++ (q.pieces d ++ ps))

theorem Strewn.glue_append {d : Dialect} {glue ps : List Piece} {qs : List Predicate}
    (hg : slotCount glue = 0) (h : Strewn d qs ps) : Strewn d qs (glue ++ ps) := by
  cases h with
  | glue hp =>
    apply Strewn.glue
    rw [Piece.slotCount_append, hg, hp]
  | leaf hp h =>
    rw [← List.append_assoc]
    apply Strewn.leaf _ h
    rw [Piece.slotCount_append, hg, hp]

theorem Strewn.append {d : Dialect} {ps ps' : List Piece} {qs qs' : List Predicate}
    (h : Strewn d qs ps) (h' : Strewn d qs' ps') : Strewn d (qs ++ qs') (ps ++ ps') := by
  induction h with
  | glue hp => exact h'.glue_append hp
  | leaf hp _ ih =>
    rw [List.append_assoc, List.append_assoc]
    exact .leaf hp ih

theorem Strewn.append_glue {d : Dialect} {glue ps : List Piece} {qs : List Predicate}
    (h : Strewn d qs ps) (hg : slotCount glue = 0) : Strewn d qs (ps ++ glue) := by
  have happ := h.append (.glue hg)
  rwa [List.append_nil] at happ

theorem Strewn.intercalate {d : Dialect} {glue : List Piece} (hg : slotCount glue = 0)
    (ps : List Predicate) (h : ∀ p ∈ ps, Strewn d p.leaves (p.pieces d)) :
    Strewn d (ps.flatMap leaves) (glue.intercalate (ps.map (pieces d))) := by
  induction ps with
  | nil => exact .glue rfl
  | cons p ps ih =>
    have hp := h p List.mem_cons_self
    have hrest := ih fun q hq => h q (List.mem_cons_of_mem _ hq)
    rw [List.flatMap_cons]
    cases ps with
    | nil =>
      rw [List.flatMap_nil, List.append_nil, List.map_singleton, List.intercalate_singleton]
      exact hp
    | cons q qs =>
      rw [List.map_cons, List.map_cons, List.intercalate_cons_cons]
      exact (hp.append_glue hg).append hrest

/-- **The leaves lie in the text** of their tree from left to right, and between them there are
no slots. -/
theorem Formed.strewn (d : Dialect) {rank : Rank} {p : Predicate} (h : Formed rank p) :
    Strewn d p.leaves (p.pieces d) := by
  induction h with
  | @leaf p column hp _ =>
    rw [leaves_of_column? hp]
    have hnone : slotCount [] = 0 := rfl
    have hone : Strewn d [p] ([] ++ (p.pieces d ++ [])) := .leaf hnone (.glue hnone)
    rwa [List.append_nil, List.nil_append] at hone
  | @parens p _ ih =>
    rw [leaves, pieces]
    have hopening : slotCount [.char '('] = 0 := by decide
    exact (ih.glue_append hopening).append_glue (by decide)
  | @joined logic ps _ _ ih =>
    rw [leaves, leavesAll_eq_flatMap, pieces, piecesAll_eq_map]
    exact .intercalate (by cases logic <;> decide) ps ih

theorem Strewn.slotCount_eq {d : Dialect} {qs : List Predicate} {ps : List Piece}
    (h : Strewn d qs ps) (hq : AreLeaves qs) : slotCount ps = (qs.flatMap params).length := by
  induction h with
  | glue hg => exact hg
  | @leaf glue ps q qs hg _ ih =>
    obtain ⟨column, hc, hcq⟩ := hq q List.mem_cons_self
    have hrest := ih fun r hr => hq r (List.mem_cons_of_mem _ hr)
    rw [Piece.slotCount_append, Piece.slotCount_append, hg, hrest,
      slotCount_pieces_leaf d hc hcq, List.flatMap_cons, List.length_append]
    omega

/-- **A parameter and its slot**: the slot stands in the leaf that holds the parameter, at the
position that the parameter has there. -/
theorem Strewn.exists_slot {d : Dialect} {qs : List Predicate} {ps : List Piece}
    (h : Strewn d qs ps) (hq : AreLeaves qs) : ∀ {k : Nat} {v : Value},
      (qs.flatMap params)[k]? = some v →
      ∃ earlier q later before behind i, qs = earlier ++ q :: later
        ∧ ps = before ++ q.pieces d ++ behind
        ∧ slotCount before = (earlier.flatMap params).length
        ∧ k = slotCount before + i ∧ q.params[i]? = some v := by
  induction h with
  | glue _ =>
    intro k v hk
    simp at hk
  | @leaf glue ps q qs hg _ ih =>
    intro k v hk
    obtain ⟨column, hc, hcq⟩ := hq q List.mem_cons_self
    have hslots := slotCount_pieces_leaf d hc hcq
    rw [List.flatMap_cons] at hk
    by_cases hlt : k < q.params.length
    -- the parameter is one of the first leaf
    · refine ⟨[], q, qs, glue, ps, k, rfl, ?_, hg, ?_, ?_⟩
      · rw [List.append_assoc]
      · rw [hg, Nat.zero_add]
      · rwa [List.getElem?_append_left hlt] at hk
    -- the parameter is one of the leaves behind it, and its position is counted from there
    · rw [List.getElem?_append_right (Nat.le_of_not_lt hlt)] at hk
      obtain ⟨earlier, r, later, before, behind, i, rfl, rfl, hbefore, hk', hi⟩ :=
        ih (fun r hr => hq r (List.mem_cons_of_mem _ hr)) hk
      refine ⟨q :: earlier, r, later, glue ++ (q.pieces d ++ before), behind, i, rfl, ?_, ?_, ?_,
        hi⟩
      · simp only [List.append_assoc]
      · rw [Piece.slotCount_append, Piece.slotCount_append, hg, hslots, hbefore,
          List.flatMap_cons, List.length_append]
        omega
      · rw [Piece.slotCount_append, Piece.slotCount_append, hg, hslots]
        omega

end Predicate

end CardStore.Sql
