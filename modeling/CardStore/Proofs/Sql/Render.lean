/-
  CardStore.Proofs.Sql.Render
  ───────────────────────────
  **BIND SLOTS AND WHAT RENDERING MAKES OF THEM.**

  A bind slot of a statement is a question mark outside of its literals.  A
  renderer does not read literals; it only counts quotes, and looks for the
  server clock besides.  On a text that calls nothing without arguments, so
  that the clock does not occur, it does no more than number the slots.

  Main statements:
    * `renderFrom_escapeChars` — an escaped text is rendered as it is.
    * `render_eq_numbered` — rendering numbers the bind slots from left to right.
    * `render_mysql` — rendering for MySQL changes nothing.
-/
import CardStore.Proofs.Sql.Piece
import Mathlib.Data.List.Chain

namespace CardStore.Sql

/-! ## §1. Bind slots. -/

namespace Piece

/-- The number of bind slots. -/
def slotCount (ps : List Piece) : Nat := ps.count (.char slot)

/-- The text of pieces with a mark in place of every bind slot; the mark is chosen by the
position of the slot, and `n` slots stand in front. -/
def numbered (mark : Nat → List Char) : Nat → List Piece → List Char
  | _, [] => []
  | n, .char c :: ps =>
    if c = slot then mark (n + 1) ++ numbered mark (n + 1) ps else c :: numbered mark n ps
  | n, .literal raw :: ps => quote :: raw ++ quote :: numbered mark n ps

@[simp] theorem slotCount_append (ps qs : List Piece) :
    slotCount (ps ++ qs) = slotCount ps + slotCount qs := List.count_append

theorem slotCount_chars (cs : List Char) : slotCount (chars cs) = cs.count slot := by
  induction cs with
  | nil => rfl
  | cons c cs ih =>
    have hc : (Piece.char c == .char slot) = (c == slot) := by
      by_cases h : c = slot <;> simp [h]
    show (Piece.char c :: chars cs).count (.char slot) = _
    rw [List.count_cons, List.count_cons, hc]
    exact congrArg (· + _) ih

theorem slotCount_chars_eq_zero {cs : List Char} (h : slot ∉ cs) : slotCount (chars cs) = 0 := by
  rw [slotCount_chars]
  exact List.count_eq_zero_of_not_mem h

@[simp] theorem slotCount_literal (raw : List Char) : slotCount [.literal raw] = 0 := rfl

/-- With the canonical mark in place of every slot the text is what it was. -/
theorem numbered_slot (ps : List Piece) :
    ∀ n, numbered (fun _ => [slot]) n ps = ps.flatMap Piece.source := by
  induction ps with
  | nil =>
    intro n
    rfl
  | cons p ps ih =>
    intro n
    cases p with
    | char c =>
      rw [numbered, ih, ih, List.flatMap_cons]
      split
      · rename_i hc
        subst hc
        rfl
      · rfl
    | literal raw =>
      rw [numbered, ih, List.flatMap_cons]
      simp [source]

/-! ## §2. Texts without empty brackets. -/

/-- Two pieces that are not an opening and a closing bracket. -/
def NotCall (p q : Piece) : Prop := ¬ (p = .char '(' ∧ q = .char ')')

/-- Nowhere does a closing bracket follow an opening one at once. -/
def CallFree (ps : List Piece) : Prop := ps.IsChain NotCall

/-- Free of empty brackets, also next to others of the kind. -/
structure Quiet (ps : List Piece) : Prop where
  callFree : CallFree ps
  front : ps.head? ≠ some (.char ')')
  back : ps.getLast? ≠ some (.char '(')

theorem Quiet.append {ps qs : List Piece} (hp : Quiet ps) (hq : Quiet qs) : Quiet (ps ++ qs) := by
  constructor
  · apply List.IsChain.append hp.callFree hq.callFree
    intro x hx y _ hxy
    exact hp.back (by rw [← hxy.1]; exact hx)
  · cases ps with
    | nil => exact hq.front
    | cons p ps => exact hp.front
  · rcases List.eq_nil_or_concat qs with rfl | ⟨qs, q, rfl⟩
    · rw [List.append_nil]
      exact hp.back
    · have hb := hq.back
      rw [List.concat_eq_append] at hb ⊢
      rw [← List.append_assoc, List.getLast?_concat]
      rwa [List.getLast?_concat] at hb

/-- Brackets around something are not empty. -/
theorem Quiet.brackets {ps : List Piece} (h : Quiet ps) (hne : ps ≠ []) :
    Quiet (.char '(' :: ps ++ [.char ')']) := by
  constructor
  · show List.IsChain NotCall ([.char '('] ++ ps ++ [.char ')'])
    apply List.IsChain.append
    · apply List.IsChain.append (List.isChain_singleton _) h.callFree
      intro x _ y hy hxy
      exact h.front (by rw [← hxy.2]; exact hy)
    · exact List.isChain_singleton _
    · intro x hx y _ hxy
      rw [List.getLast?_append_of_ne_nil _ hne] at hx
      exact h.back (by rw [← hxy.1]; exact hx)
  · simp
  · rw [List.getLast?_concat]
    simp

theorem quiet_chars {cs : List Char} (ho : '(' ∉ cs) (hc : ')' ∉ cs) : Quiet (chars cs) := by
  have hmem : ∀ c, Piece.char c ∈ chars cs → c ∈ cs := by
    intro c h
    simpa [chars] using h
  constructor
  · induction cs with
    | nil => exact List.isChain_nil
    | cons c cs ih =>
      refine List.isChain_cons.2 ⟨?_, ?_⟩
      · intro q _ hq
        have hcc : c = '(' := by simpa using hq.1
        exact ho (hcc ▸ List.mem_cons_self)
      · apply ih (fun h => ho (List.mem_cons_of_mem _ h)) (fun h => hc (List.mem_cons_of_mem _ h))
        intro d hd
        simpa [chars] using hd
  · intro h
    exact hc (hmem _ (List.mem_of_mem_head? h))
  · intro h
    exact ho (hmem _ (List.mem_of_mem_getLast? h))

end Piece

/-! ## §3. The server clock. -/

theorem toLower_eq_of_not_letter {c d : Char} (h : c.toLower = d) (hd : ¬ ('a' ≤ d ∧ d ≤ 'z')) :
    c = d := by
  by_cases hu : 'A'.val ≤ c.val ∧ c.val ≤ 'Z'.val
  · exfalso
    apply hd
    have hlower : c.toLower = _ := dif_pos hu
    rw [hlower] at h
    subst h
    rw [Char.le_def, Char.le_def, UInt32.le_iff_toNat_le, UInt32.le_iff_toNat_le]
    rw [UInt32.le_iff_toNat_le, UInt32.le_iff_toNat_le] at hu
    -- a capital letter moves by 32, which keeps it far below the end of 32 bits
    have hs : (c.val + ('a'.val - 'A'.val)).toNat = (c.val.toNat + 32) % 2 ^ 32 :=
      UInt32.toNat_add _ _
    have hlow : 'A'.val.toNat = 65 := rfl
    have hhigh : 'Z'.val.toNat = 90 := rfl
    show 97 ≤ (c.val + ('a'.val - 'A'.val)).toNat ∧ (c.val + ('a'.val - 'A'.val)).toNat ≤ 122
    omega
  · have hlower : c.toLower = c := dif_neg hu
    rw [hlower] at h
    exact h

theorem exists_of_dropIgnoreCase? :
    ∀ {ws cs rest : List Char}, Text.dropIgnoreCase? ws cs = some rest →
      ∃ pre, cs = pre ++ rest ∧ pre.map Char.toLower = ws.map Char.toLower := by
  intro ws
  induction ws with
  | nil =>
    intro cs rest h
    rw [Text.dropIgnoreCase?, Option.some.injEq] at h
    exact ⟨[], h, rfl⟩
  | cons w ws ih =>
    intro cs rest h
    cases cs with
    | nil => simp [Text.dropIgnoreCase?] at h
    | cons c cs =>
      rw [Text.dropIgnoreCase?] at h
      split at h
      · rename_i hc
        obtain ⟨pre, rfl, hpre⟩ := ih h
        refine ⟨c :: pre, rfl, ?_⟩
        rw [List.map_cons, List.map_cons, hpre, hc]
      · simp at h

/-- Where the canonical clock is found, there is a call without arguments. -/
theorem exists_call_of_dropIgnoreCase? {cs rest : List Char}
    (h : Text.dropIgnoreCase? canonicalNow.toList cs = some rest) :
    ∃ word, cs = word ++ '(' :: ')' :: rest ∧ word.map Char.toLower = "sysdate".toList := by
  obtain ⟨pre, rfl, hpre⟩ := exists_of_dropIgnoreCase? h
  have hcall : canonicalNow.toList.map Char.toLower = "sysdate".toList ++ ['(', ')'] := by
    decide
  rw [hcall, List.map_eq_append_iff] at hpre
  obtain ⟨word, brackets, rfl, hword, hb⟩ := hpre
  -- brackets are no letters, so they stand for themselves
  have hbs : brackets = ['(', ')'] := by
    obtain ⟨o, _, rfl, ho, hb⟩ := List.map_eq_cons_iff.1 hb
    obtain ⟨c, _, rfl, hc, hb⟩ := List.map_eq_cons_iff.1 hb
    rw [List.map_eq_nil_iff.1 hb, toLower_eq_of_not_letter ho (by decide),
      toLower_eq_of_not_letter hc (by decide)]
  subst hbs
  exact ⟨word, by rw [List.append_assoc]; rfl, hword⟩

/-- The canonical clock is a call without arguments, so that its brackets are empty. -/
theorem dropIgnoreCase?_canonicalNow {cs : List Char} {ps : List Piece}
    (hr : Dialect.oracle.readFrom .outside cs = some ps) (hf : Piece.CallFree ps) :
    Text.dropIgnoreCase? canonicalNow.toList cs = none := by
  by_contra hne
  obtain ⟨rest, hd⟩ := Option.ne_none_iff_exists'.1 hne
  obtain ⟨word, rfl, hword⟩ := exists_call_of_dropIgnoreCase? hd
  -- a letter that stands for one of the name is no quote, so all of this is outside of literals
  have hwq : quote ∉ word := by
    intro hq
    have hl : quote.toLower ∈ "sysdate".toList := hword ▸ List.mem_map_of_mem hq
    exact absurd hl (by decide)
  have hq : quote ∉ word ++ ['(', ')'] := by
    rw [List.mem_append]
    exact fun h => h.elim hwq (by decide)
  have hsplit : word ++ '(' :: ')' :: rest = (word ++ ['(', ')']) ++ rest := by
    rw [List.append_assoc]
    rfl
  rw [hsplit, Dialect.readFrom_chars_append _ _ _ hq] at hr
  obtain ⟨qs, _, rfl⟩ := Option.map_eq_some_iff.1 hr
  rw [Piece.chars_append] at hf
  -- the two brackets are neighbours in the text
  have hin : [Piece.char '(', .char ')'] <:+: Piece.chars word ++ Piece.chars ['(', ')'] ++ qs :=
    ⟨Piece.chars word, qs, rfl⟩
  have hc : List.IsChain Piece.NotCall [Piece.char '(', .char ')'] := hf.infix hin
  exact List.isChain_pair.1 hc ⟨rfl, rfl⟩

/-! ## §4. Rendering. -/

/-- Whether a place is one in a literal, as a renderer sees it that counts quotes. -/
def Place.isInside : Place → Bool
  | .inside _ => true
  | _ => false

namespace Dialect

/-- The mark of the bind slot at a position. -/
def mark (r : Dialect) (n : Nat) : List Char := (r.placeholder n).toList

/-- Inside of a literal every other character is rendered as it is. -/
theorem renderFrom_inside (d : Dialect) (n : Nat) {c : Char} (hc : c ≠ quote) (rest : List Char) :
    d.renderFrom true n 0 (c :: rest) = c :: d.renderFrom true n 0 rest := by
  rw [renderFrom, if_neg hc, if_pos rfl]

/-- A quote that is written twice ends a literal and begins it again. -/
theorem renderFrom_quotes (d : Dialect) (n : Nat) (rest : List Char) :
    d.renderFrom true n 0 (quote :: quote :: rest)
      = quote :: quote :: d.renderFrom true n 0 rest := by
  rw [renderFrom, if_pos rfl, Bool.not_true, renderFrom, if_pos rfl, Bool.not_false]

/-- **An escaped text** is rendered as it is. -/
theorem renderFrom_escapeChars (d : Dialect) (n : Nat) (r : Dialect) (s rest : List Char) :
    d.renderFrom true n 0 (r.escapeChars s ++ rest)
      = r.escapeChars s ++ d.renderFrom true n 0 rest := by
  cases r with
  | oracle =>
    show d.renderFrom true n 0 (doubleQuotes s ++ rest) = doubleQuotes s ++ _
    induction s with
    | nil => rfl
    | cons c s ih =>
      rw [doubleQuotes]
      split
      · rw [List.cons_append, List.cons_append, renderFrom_quotes, ih]
        rfl
      · rename_i hc
        rw [List.cons_append, renderFrom_inside d n hc, ih]
        rfl
  | mysql =>
    show d.renderFrom true n 0 (doubleBackslashes (doubleQuotes s) ++ rest)
      = doubleBackslashes (doubleQuotes s) ++ _
    induction s with
    | nil => rfl
    | cons c s ih =>
      rw [doubleQuotes]
      split
      · simp only [doubleBackslashes, if_neg quote_ne_backslash, List.cons_append]
        rw [renderFrom_quotes, ih]
      · rename_i hc
        rw [doubleBackslashes]
        split
        · rename_i hb
          rw [hb] at hc
          rw [List.cons_append, List.cons_append, renderFrom_inside d n hc,
            renderFrom_inside d n hc, ih]
          rfl
        · rw [List.cons_append, renderFrom_inside d n hc, ih]
          rfl

/-- A renderer that stands where a reader stands renders the rest of the pieces.  Behind a quote
the reader does not know yet whether the literal has ended; the renderer takes it for ended, and
for opened again should another quote follow. -/
theorem renderFrom_eq_numbered (r : Dialect) :
    ∀ (cs : List Char) (place : Place) (ps : List Piece) (n : Nat),
      oracle.readFrom place cs = some ps → (∀ raw, place ≠ .escaped raw) → Piece.CallFree ps →
        Piece.numbered r.mark n ps = consumed place ++ r.renderFrom place.isInside n 0 cs := by
  intro cs
  induction cs with
  | nil =>
    intro place ps n hr _ _
    cases place <;> simp only [readFrom, Option.some.injEq, reduceCtorEq] at hr
    · subst hr
      rfl
    · subst hr
      simp [Piece.numbered, consumed, renderFrom]
  | cons c cs ih =>
    have houtside : ∀ (ps : List Piece) (n : Nat), oracle.readFrom .outside (c :: cs) = some ps →
        Piece.CallFree ps → Piece.numbered r.mark n ps = r.renderFrom false n 0 (c :: cs) := by
      intro ps n hr hf
      -- no clock begins here, so the renderer looks at one character
      have hnow := dropIgnoreCase?_canonicalNow hr hf
      rw [readFrom] at hr
      rw [renderFrom]
      split
      · rename_i hc
        rw [if_pos hc] at hr
        rw [ih _ _ n hr (by simp) hf, hc]
        rfl
      · rename_i hc
        rw [if_neg hc] at hr
        obtain ⟨qs, hq, rfl⟩ := Option.map_eq_some_iff.1 hr
        have hqf : Piece.CallFree qs := hf.tail
        rw [if_neg Bool.false_ne_true, hnow, Piece.numbered]
        by_cases hs : c = slot
        · rw [if_pos hs, if_pos hs, ih _ _ (n + 1) hq (by simp) hqf]
          rfl
        · rw [if_neg hs, if_neg hs, if_neg (by simp), ih _ _ n hq (by simp) hqf]
          rfl
    intro place ps n hr hne hf
    cases place with
    | outside => exact houtside ps n hr hf
    | inside raw =>
      rw [readFrom] at hr
      show _ = consumed (.inside raw) ++ r.renderFrom true n 0 (c :: cs)
      rw [renderFrom]
      split
      · rename_i hc
        rw [if_pos hc] at hr
        rw [ih _ _ n hr (by simp) hf, hc]
        simp [consumed, Place.isInside]
      · rename_i hc
        rw [if_neg hc, if_neg (by simp)] at hr
        rw [ih _ _ n hr (by simp) hf, if_pos rfl]
        simp [consumed, Place.isInside]
    | atQuote raw =>
      by_cases hc : c = quote
      -- the reader is back inside, and so is the renderer, which has counted two quotes
      · rw [readFrom, if_pos hc] at hr
        rw [ih _ _ n hr (by simp) hf, hc]
        show _ = consumed (.atQuote raw) ++ r.renderFrom false n 0 (quote :: cs)
        rw [renderFrom, if_pos rfl]
        simp [consumed, Place.isInside]
      · rw [readFrom, if_neg hc] at hr
        obtain ⟨qs, hq, rfl⟩ := Option.map_eq_some_iff.1 hr
        -- the literal has ended, and both are outside
        have hread : oracle.readFrom .outside (c :: cs) = some (.char c :: qs) := by
          rw [readFrom, if_neg hc, hq]
          rfl
        have hrest := houtside _ n hread hf.tail
        show quote :: raw.reverse ++ quote :: Piece.numbered r.mark n (.char c :: qs) = _
        rw [hrest]
        show _ = consumed (.atQuote raw) ++ r.renderFrom false n 0 (c :: cs)
        simp [consumed]
    | escaped raw => exact absurd rfl (hne raw)

/-- **Rendering numbers the bind slots** of a statement from left to right, and changes nothing
else of it. -/
theorem render_eq_numbered (r : Dialect) {sql : String} {ps : List Piece}
    (hr : oracle.read? sql = some ps) (hf : Piece.CallFree ps) :
    r.render sql = String.ofList (Piece.numbered r.mark 0 ps) := by
  rw [render, renderFrom_eq_numbered r sql.toList .outside ps 0 hr (by simp) hf]
  rfl

/-- **Rendering for MySQL** changes nothing of a statement. -/
theorem render_mysql {sql : String} {ps : List Piece}
    (hr : oracle.read? sql = some ps) (hf : Piece.CallFree ps) : mysql.render sql = sql := by
  have hm : mysql.mark = fun _ => [slot] := by
    funext n
    show "?".toList = [slot]
    decide
  rw [render_eq_numbered mysql hr hf, hm, Piece.numbered_slot, source_readFrom oracle _ _ _ hr]
  exact String.ofList_toList

end Dialect

end CardStore.Sql
