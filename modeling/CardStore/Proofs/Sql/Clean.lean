/-
  CardStore.Proofs.Sql.Clean
  ──────────────────────────
  **TEXT THAT STATEMENTS ARE COMPOSED OF.**

  Statements are put together from names, keywords and marks, none of which
  holds a quote or a bracket, from terms in brackets, and from literals of
  escaped text.  Whatever is put together in this way is read piece by piece,
  and nothing is called in it without arguments.

  Main statements:
    * `Clean.append`, `Clean.intercalate` — clean texts one behind the other are clean.
    * `Clean.plain`, `Clean.brackets`, `Clean.quoted` — the parts of statements are clean.
    * `qualified_columnText` — how the columns of a query are written.
-/
import CardStore.Proofs.Sql.Render
import CardStore.Proofs.Text
import CardStore.Query.Resolve

namespace CardStore

/-! ## §1. Characters of joined texts. -/

namespace Text

theorem toList_joined (separator : String) (ss : List String) :
    (joined separator ss).toList = separator.toList.intercalate (ss.map String.toList) := by
  induction ss with
  | nil => rfl
  | cons s ss ih =>
    cases ss with
    | nil => simp [joined]
    | cons t ts =>
      rw [joined, String.toList_append, String.toList_append, ih]
      simp

theorem mem_intercalate {α : Type} {a : α} {separator : List α} {parts : List (List α)}
    (h : a ∈ separator.intercalate parts) : a ∈ separator ∨ ∃ part ∈ parts, a ∈ part := by
  induction parts with
  | nil => simp at h
  | cons part parts ih =>
    by_cases hne : parts = []
    · subst hne
      rw [List.intercalate_singleton] at h
      exact Or.inr ⟨part, List.mem_cons_self, h⟩
    -- in the first part, in the separator behind it, or in the rest
    · rw [List.intercalate_cons_of_ne_nil hne, List.mem_append, List.mem_append] at h
      rcases h with (h | h) | h
      · exact Or.inr ⟨part, List.mem_cons_self, h⟩
      · exact Or.inl h
      · rcases ih h with hs | ⟨p, hp, ha⟩
        · exact Or.inl hs
        · exact Or.inr ⟨p, List.mem_cons_of_mem _ hp, ha⟩

theorem intercalate_ne_nil {α : Type} {separator : List α} {parts : List (List α)}
    (hne : parts ≠ []) (h : ∀ part ∈ parts, part ≠ []) : separator.intercalate parts ≠ [] := by
  obtain ⟨part, parts, rfl⟩ := List.exists_cons_of_ne_nil hne
  have hp := h part List.mem_cons_self
  by_cases hn : parts = []
  · subst hn
    rw [List.intercalate_singleton]
    exact hp
  · rw [List.intercalate_cons_of_ne_nil hn]
    simp [hp]

end Text

namespace Sql

/-! ## §2. Names. -/

/-- A character that no identifier has is not one of an identifier. -/
theorem ne_of_isIdentifierPart {c d : Char} (hc : isIdentifierPart c = true)
    (hd : isIdentifierPart d = false) : c ≠ d := by
  intro h
  rw [h, hd] at hc
  exact Bool.false_ne_true hc

/-- Characters that make up a name. -/
def IsWord (s : String) : Prop := s ≠ "" ∧ ∀ c ∈ s.toList, isIdentifierPart c = true

instance (s : String) : Decidable (IsWord s) :=
  @instDecidableAnd _ _ inferInstance
    (List.decidableBAll (fun c => isIdentifierPart c = true) s.toList)

theorem isWord_of_isIdentifier {name : String} (h : isIdentifier name = true) : IsWord name := by
  refine ⟨?_, isIdentifierPart_of_mem h⟩
  intro hn
  subst hn
  exact absurd h (by decide)

/-- The text of a column that names its table: two names with a point between them. -/
def Qualified (text : String) : Prop :=
  ∃ table name, IsWord table ∧ IsWord name ∧ text = table ++ "." ++ name

theorem isIdentifierPart_digits (n : Nat) :
    ∀ c ∈ Text.digitChars n, isIdentifierPart c = true := by
  have hdigit : ∀ d < 10, isIdentifierPart (Text.digitChar d) = true := by decide
  intro c hc
  obtain ⟨d, hd, rfl⟩ := Text.exists_digit_of_mem_digitChars hc
  exact hdigit d hd

/-- A prefix of name characters and a number make up a name. -/
theorem isWord_append_ofNat {s : String} (hs : IsWord s) (n : Nat) :
    IsWord (s ++ Text.ofNat n) := by
  constructor
  · intro h
    rw [← String.toList_inj, String.toList_append] at h
    exact hs.1 (String.toList_inj.1 (List.append_eq_nil_iff.1 h).1)
  · intro c hc
    rw [String.toList_append, Text.ofNat, String.toList_ofList, List.mem_append] at hc
    exact hc.elim (hs.2 c) (isIdentifierPart_digits n c)

theorem isWord_tableAlias (n : Nat) : IsWord (tableAlias n) :=
  isWord_append_ofNat (by decide) n

/-- **The columns of a query** are written with the alias of their table. -/
theorem qualified_columnText (table : Nat) {column : String} (h : isIdentifier column = true) :
    Qualified (columnText table column) :=
  ⟨tableAlias table, column, isWord_tableAlias table, isWord_of_isIdentifier h, rfl⟩

/-! ## §3. Plain text. -/

/-- A character that is neither a quote nor a bracket. -/
def isPlain (c : Char) : Bool := c != quote && c != '(' && c != ')'

/-- Text without quotes and brackets. -/
def Plain (cs : List Char) : Prop := ∀ c ∈ cs, isPlain c = true

instance (cs : List Char) : Decidable (Plain cs) :=
  List.decidableBAll (fun c => isPlain c = true) cs

theorem isPlain_of_isIdentifierPart {c : Char} (h : isIdentifierPart c = true) :
    isPlain c = true := by
  have hq : c ≠ quote := ne_of_isIdentifierPart h (by decide)
  have ho : c ≠ '(' := ne_of_isIdentifierPart h (by decide)
  have hc : c ≠ ')' := ne_of_isIdentifierPart h (by decide)
  simp [isPlain, hq, ho, hc]

theorem Plain.append {cs ds : List Char} (hc : Plain cs) (hd : Plain ds) : Plain (cs ++ ds) := by
  intro c h
  exact (List.mem_append.1 h).elim (hc c) (hd c)

theorem Plain.intercalate {cs : List Char} {css : List (List Char)} (hc : Plain cs)
    (hcss : ∀ ds ∈ css, Plain ds) : Plain (cs.intercalate css) := by
  intro c h
  rcases Text.mem_intercalate h with h | ⟨ds, hds, h⟩
  · exact hc c h
  · exact hcss ds hds c h

/-- A character that is plain and no bind slot. -/
def isInert (c : Char) : Bool := isPlain c && c != slot

/-- Text without quotes, brackets and bind slots. -/
def Inert (s : String) : Prop := ∀ c ∈ s.toList, isInert c = true

instance (s : String) : Decidable (Inert s) :=
  List.decidableBAll (fun c => isInert c = true) s.toList

theorem Inert.plain {s : String} (h : Inert s) : Plain s.toList := by
  intro c hc
  have hi := h c hc
  rw [isInert, Bool.and_eq_true] at hi
  exact hi.1

theorem Inert.slot_not_mem {s : String} (h : Inert s) : slot ∉ s.toList :=
  fun hs => absurd (h slot hs) (by decide)

theorem Inert.append {s t : String} (hs : Inert s) (ht : Inert t) : Inert (s ++ t) := by
  intro c hc
  rw [String.toList_append, List.mem_append] at hc
  exact hc.elim (hs c) (ht c)

theorem Inert.joined {s : String} {ss : List String} (hs : Inert s) (hss : ∀ t ∈ ss, Inert t) :
    Inert (Text.joined s ss) := by
  intro c hc
  rw [Text.toList_joined] at hc
  rcases Text.mem_intercalate hc with hc | ⟨part, hpart, hc⟩
  · exact hs c hc
  · obtain ⟨t, ht, rfl⟩ := List.mem_map.1 hpart
    exact hss t ht c hc

theorem IsWord.inert {s : String} (h : IsWord s) : Inert s := by
  intro c hc
  have hp := h.2 c hc
  have hs : c ≠ slot := ne_of_isIdentifierPart hp (by decide)
  simp [isInert, isPlain_of_isIdentifierPart hp, hs]

theorem inert_ofNat (n : Nat) : Inert (Text.ofNat n) := by
  intro c hc
  rw [Text.ofNat, String.toList_ofList] at hc
  have hp := isIdentifierPart_digits n c hc
  have hs : c ≠ slot := ne_of_isIdentifierPart hp (by decide)
  simp [isInert, isPlain_of_isIdentifierPart hp, hs]

theorem Qualified.inert {s : String} (h : Qualified s) : Inert s := by
  obtain ⟨table, name, ht, hn, rfl⟩ := h
  exact (ht.inert.append (by decide)).append hn.inert

theorem Qualified.ne_nil {s : String} (h : Qualified s) : s.toList ≠ [] := by
  obtain ⟨table, name, _, _, rfl⟩ := h
  simp

/-! ## §4. Clean text. -/

namespace Dialect

/-- A text is read as some pieces, and calls nothing without arguments. -/
structure Clean (r : Dialect) (cs : List Char) (ps : List Piece) : Prop extends r.Reads cs ps where
  quiet : Piece.Quiet ps

variable {r : Dialect}

/-- **Clean texts** one behind the other are clean. -/
theorem Clean.append {cs ds : List Char} {ps qs : List Piece} (hc : r.Clean cs ps)
    (hd : r.Clean ds qs) : r.Clean (cs ++ ds) (ps ++ qs) :=
  ⟨hc.toReads.append hd.toReads, hc.quiet.append hd.quiet⟩

theorem Clean.plain {cs : List Char} (h : Plain cs) : r.Clean cs (Piece.chars cs) := by
  have hne : ∀ c, isPlain c = false → c ∉ cs := by
    intro c hc hm
    rw [h c hm] at hc
    exact Bool.noConfusion hc
  exact ⟨.of_not_mem r (hne quote (by decide)),
    Piece.quiet_chars (hne '(' (by decide)) (hne ')' (by decide))⟩

theorem Clean.nil : r.Clean [] [] := Clean.plain (fun _ h => absurd h List.not_mem_nil)

theorem Clean.brackets {cs : List Char} {ps : List Piece} (h : r.Clean cs ps) (hne : ps ≠ []) :
    r.Clean ('(' :: cs ++ [')']) (.char '(' :: ps ++ [.char ')']) :=
  ⟨((Reads.of_not_mem r (by decide : quote ∉ ['('])).append h.toReads).append
      (Reads.of_not_mem r (by decide : quote ∉ [')'])),
    h.quiet.brackets hne⟩

/-- A literal of escaped text between two signs, with plain text in front. -/
theorem Clean.quoted {d : Dialect} (h : d.ReadableBy r) {cs : List Char} (hne : cs ≠ [])
    (hc : Plain cs) (s : List Char) :
    r.Clean (cs ++ quote :: '%' :: (d.escapeChars s ++ ['%', quote]))
      (Piece.chars cs ++ [.literal ('%' :: (d.escapeChars s ++ ['%']))]) := by
  have hq : quote ∉ cs := fun hq => absurd (hc quote hq) (by decide)
  -- brackets in a literal are no brackets, so one piece is quiet whatever its text
  refine ⟨.literal h hne hq s, (Clean.plain (r := r) hc).quiet.append ?_⟩
  exact ⟨List.isChain_singleton _, by simp, by simp⟩

theorem Clean.intercalate {α : Type} {cs : List Char} {ps : List Piece} (hc : r.Clean cs ps)
    (text : α → List Char) (pieces : α → List Piece) (as : List α)
    (h : ∀ a ∈ as, r.Clean (text a) (pieces a)) :
    r.Clean (cs.intercalate (as.map text)) (ps.intercalate (as.map pieces)) := by
  induction as with
  | nil => exact Clean.nil
  | cons a as ih =>
    have ha := h a List.mem_cons_self
    have hrest := ih fun b hb => h b (List.mem_cons_of_mem _ hb)
    cases as with
    | nil =>
      simp only [List.map_cons, List.map_nil, List.intercalate_singleton]
      exact ha
    | cons b bs =>
      simp only [List.map_cons, List.intercalate_cons_cons] at hrest ⊢
      exact (ha.append hc).append hrest

end Dialect

end Sql

end CardStore
