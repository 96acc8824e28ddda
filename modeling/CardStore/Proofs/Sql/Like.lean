/-
  CardStore.Proofs.Sql.Like
  ─────────────────────────
  **WHICH ROWS A DELETION TAKES.**

  In a pattern a percent sign stands for any text and an underscore for any
  one character; on MySQL a backslash makes the next character stand for
  itself.  A text that is bound into the middle of a pattern becomes a part of
  it, and is looked for as it is exactly if it has no such characters.  If it
  has one, the shortest text that is like the pattern does not hold it.

      bound    A_1       in the pattern   %A_1%     which is like   Aa1
      bound    A\1       on MySQL         %A\1%     which is like   A1

  Main statements:
    * `likes_exactly_iff` — a plain text is looked for as it is.
    * `not_infix_shortest` — any other text is also found where it is not.
    * `inPattern_iff_inSubtree_iff` — when a pattern finds the right rows.
    * `Delete.takes_iff` — which rows a deletion of a subtree takes.
-/
import CardStore.Proofs.Sql.Deletion
import Mathlib.Data.List.Infix

namespace CardStore.Sql

/-! ## §1. Patterns. -/

/-- An item of a pattern. -/
inductive Wild where
  /-- Any text, the empty one included. -/
  | any
  /-- Any one character. -/
  | one
  | exactly (c : Char)
  deriving DecidableEq, Repr

namespace Wild

/-- What a character stands for that nothing else is said about. -/
def ofChar (c : Char) : Wild := if c = '%' then .any else if c = '_' then .one else .exactly c

/-- The items of a pattern in which a backslash makes the next character stand for itself; a
backslash at the end stands for itself. -/
def ofEscaped : List Char → List Wild
  | [] => []
  | [c] => [ofChar c]
  | c :: c' :: cs =>
    if c = backslash then .exactly c' :: ofEscaped cs else ofChar c :: ofEscaped (c' :: cs)

/-- Whether a text is like a pattern. -/
def likes : List Wild → List Char → Bool
  | [], cs => cs.isEmpty
  | .any :: ws, cs => cs.tails.any (likes ws)
  | .one :: _, [] => false
  | .one :: ws, _ :: cs => likes ws cs
  | .exactly _ :: _, [] => false
  | .exactly c :: ws, c' :: cs => c == c' && likes ws cs

/-- The shortest text that is like a pattern, one letter for each character that may be any. -/
def shortest : List Wild → List Char
  | [] => []
  | .any :: ws => shortest ws
  | .one :: ws => 'a' :: shortest ws
  | .exactly c :: ws => c :: shortest ws

theorem likes_any {ws : List Wild} {cs : List Char} (h : likes ws cs = true) :
    likes (.any :: ws) cs = true := by
  rw [likes, List.any_eq_true]
  exact ⟨cs, (List.mem_tails _ _).2 List.suffix_rfl, h⟩

theorem likes_shortest (ws : List Wild) : likes ws (shortest ws) = true := by
  induction ws with
  | nil => rfl
  | cons w ws ih =>
    cases w with
    | any => exact likes_any ih
    | one => exact ih
    | exactly c =>
      rw [shortest, likes, ih, beq_self_eq_true]
      rfl

theorem likes_nothing_more (cs : List Char) : likes [.any] cs = true := by
  rw [likes, List.any_eq_true]
  exact ⟨[], (List.mem_tails _ _).2 List.nil_suffix, rfl⟩

/-- Characters that stand for themselves are at the front of what is like them. -/
theorem likes_map_exactly_iff (s cs : List Char) :
    likes (s.map .exactly ++ [.any]) cs = true ↔ s <+: cs := by
  induction s generalizing cs with
  | nil => exact ⟨fun _ => List.nil_prefix, fun _ => likes_nothing_more cs⟩
  | cons c s ih =>
    cases cs with
    | nil => exact ⟨nofun, fun h => absurd (List.prefix_nil.1 h) (List.cons_ne_nil c s)⟩
    | cons c' cs =>
      rw [List.map_cons, List.cons_append, likes, Bool.and_eq_true, beq_iff_eq, ih,
        List.cons_prefix_cons]

/-- **A plain text is looked for as it is.** -/
theorem likes_exactly_iff (s cs : List Char) :
    likes (.any :: (s.map .exactly ++ [.any])) cs = true ↔ s <:+: cs := by
  rw [likes, List.any_eq_true, List.infix_iff_prefix_suffix]
  constructor
  · rintro ⟨tail, htail, hlikes⟩
    exact ⟨tail, (likes_map_exactly_iff s tail).1 hlikes, (List.mem_tails _ _).1 htail⟩
  · rintro ⟨tail, hprefix, hsuffix⟩
    exact ⟨tail, (List.mem_tails _ _).2 hsuffix, (likes_map_exactly_iff s tail).2 hprefix⟩

end Wild

/-! ## §2. Texts that are bound into a pattern. -/

namespace Dialect

/-- The items of a pattern. -/
def pattern : Dialect → List Char → List Wild
  | .mysql, cs => Wild.ofEscaped cs
  | .oracle, cs => cs.map Wild.ofChar

/-- A text whose characters all stand for themselves in a pattern. -/
def Plain (d : Dialect) (s : List Char) : Prop :=
  ∀ c ∈ s, c ≠ '%' ∧ c ≠ '_' ∧ (d = .mysql → c ≠ backslash)

instance (d : Dialect) (s : List Char) : Decidable (d.Plain s) :=
  List.decidableBAll (fun c => c ≠ '%' ∧ c ≠ '_' ∧ (d = .mysql → c ≠ backslash)) s

theorem pattern_any (d : Dialect) (cs : List Char) :
    d.pattern ('%' :: cs) = .any :: d.pattern cs := by
  cases d with
  | oracle => rfl
  | mysql =>
    cases cs with
    | nil => rfl
    | cons c cs =>
      have hpercent : '%' ≠ backslash := by decide
      show Wild.ofEscaped ('%' :: c :: cs) = _
      rw [Wild.ofEscaped, if_neg hpercent]
      rfl

/-- **A plain text** is what it is in a pattern. -/
theorem Plain.pattern_append {d : Dialect} {s : List Char} (h : d.Plain s) :
    d.pattern (s ++ ['%']) = s.map .exactly ++ [.any] := by
  have hchar {c : Char} (hc : c ≠ '%' ∧ c ≠ '_') : Wild.ofChar c = .exactly c := by
    rw [Wild.ofChar, if_neg hc.1, if_neg hc.2]
  induction s with
  | nil => cases d <;> rfl
  | cons c s ih =>
    obtain ⟨hc, hs⟩ := List.forall_mem_cons.1 h
    have hrest := ih hs
    cases d with
    | oracle =>
      show Wild.ofChar c :: oracle.pattern (s ++ ['%']) = _
      rw [hrest, hchar ⟨hc.1, hc.2.1⟩]
      rfl
    | mysql =>
      have hstep : Wild.ofEscaped (c :: (s ++ ['%']))
          = Wild.ofChar c :: Wild.ofEscaped (s ++ ['%']) := by
        obtain ⟨c', cs, hcs⟩ := List.exists_cons_of_ne_nil
          (List.append_ne_nil_of_right_ne_nil s (List.cons_ne_nil '%' []))
        rw [hcs, Wild.ofEscaped, if_neg (hc.2.2 rfl)]
      show Wild.ofEscaped (c :: (s ++ ['%'])) = _
      rw [hstep, hchar ⟨hc.1, hc.2.1⟩]
      exact congrArg _ hrest

/-- The shortest text that is like a pattern that another text is bound into. -/
def shortest (d : Dialect) (s : List Char) : List Char := Wild.shortest (d.pattern (s ++ ['%']))

/-- What the shortest text says of the one that is bound: it is no longer, and the same only if that
one is plain. -/
def Shortens (d : Dialect) (s : List Char) : Prop :=
  (d.shortest s).length ≤ s.length ∧ (d.shortest s = s → d.Plain s)

/-- A character in front that no backslash is about. -/
theorem Shortens.cons {d : Dialect} {c : Char} {s : List Char} (h : d.Shortens s)
    (hc : d = .mysql → c ≠ backslash)
    (hstep : d.pattern (c :: (s ++ ['%'])) = Wild.ofChar c :: d.pattern (s ++ ['%'])) :
    d.Shortens (c :: s) := by
  have hpattern : d.shortest (c :: s) = Wild.shortest (Wild.ofChar c :: d.pattern (s ++ ['%'])) :=
    congrArg Wild.shortest hstep
  have hlength : (d.shortest s).length ≤ s.length := h.1
  rw [Shortens, hpattern, Wild.ofChar]
  split
  · refine ⟨Nat.le_succ_of_le hlength, fun heq => ?_⟩
    have hsame : (d.shortest s).length = s.length + 1 := congrArg List.length heq
    omega
  · rename_i hany
    split
    · rename_i hone
      refine ⟨Nat.succ_le_succ hlength, fun heq => ?_⟩
      rw [hone] at heq
      exact absurd (List.cons.inj heq).1 (by decide)
    · rename_i hone
      refine ⟨Nat.succ_le_succ hlength, fun heq => ?_⟩
      exact List.forall_mem_cons.2 ⟨⟨hany, hone, hc⟩, h.2 (List.cons.inj heq).2⟩

theorem shortens_mysql : ∀ s : List Char, mysql.Shortens s
  | [] => ⟨Nat.le_refl _, fun _ c hc => absurd hc List.not_mem_nil⟩
  | [c] => by
    by_cases hc : c = backslash
    -- the backslash takes along the percent sign behind it
    · subst hc
      have hshortest : mysql.shortest [backslash] = ['%'] := by decide
      rw [Shortens, hshortest]
      exact ⟨Nat.le_refl _, fun heq => absurd heq (by decide)⟩
    · refine (shortens_mysql []).cons (fun _ => hc) ?_
      show Wild.ofEscaped (c :: '%' :: []) = _
      rw [Wild.ofEscaped, if_neg hc]
      rfl
  | c :: c' :: s => by
    by_cases hc : c = backslash
    · subst hc
      have hstep : mysql.shortest (backslash :: c' :: s) = c' :: mysql.shortest s := by
        show Wild.shortest (Wild.ofEscaped (backslash :: c' :: (s ++ ['%']))) = _
        rw [Wild.ofEscaped, if_pos rfl]
        rfl
      have hlength : (mysql.shortest s).length ≤ s.length := (shortens_mysql s).1
      rw [Shortens, hstep]
      refine ⟨by simp only [List.length_cons]; omega, fun heq => ?_⟩
      have hsame := congrArg List.length heq
      simp only [List.length_cons] at hsame
      omega
    · refine (shortens_mysql (c' :: s)).cons (fun _ => hc) ?_
      show Wild.ofEscaped (c :: c' :: (s ++ ['%'])) = _
      rw [Wild.ofEscaped, if_neg hc]
      rfl

theorem shortens (d : Dialect) (s : List Char) : d.Shortens s := by
  cases d with
  | mysql => exact shortens_mysql s
  | oracle =>
    induction s with
    | nil => exact ⟨Nat.le_refl _, fun _ c hc => absurd hc List.not_mem_nil⟩
    | cons c s ih => exact ih.cons nofun rfl

/-- **A text that is not plain is also found where it is not.** -/
theorem not_infix_shortest {d : Dialect} {s : List Char} (h : ¬ d.Plain s) :
    ¬ s <:+: d.shortest s := by
  intro hinfix
  obtain ⟨hlength, hsame⟩ := d.shortens s
  have heq := hinfix.eq_of_length (Nat.le_antisymm hinfix.length_le hlength)
  exact h (hsame heq.symm)

end Dialect

/-! ## §3. Rows of texts. -/

/-- The text of a term; the clock has none, and neither has a slot that is bound to something
else. -/
def PreparedTerm.text? (params : List Value) : PreparedTerm → Option String
  | .slot n => match params[n - 1]? with
    | some (.string s) => some s
    | _ => none
  | .literal s => some s
  | .now => none

/-- What conditions are about in a row that has texts in its columns, or nothing. -/
def RowFacts.ofTexts (d : Dialect) (row : String → Option String) : RowFacts where
  hasId
    | .string id => row idPath == some id
    | _ => false
  isLike column os params := (row column).any fun text =>
    (os.mapM (PreparedTerm.text? params)).any fun ss =>
      Wild.likes (d.pattern (ss.flatMap String.toList)) text.toList

/-- Whether a row has an identifier, or a path that contains it. -/
def InSubtree (column id : String) (row : String → Option String) : Prop :=
  row idPath = some id ∨ ∃ path, row column = some path ∧ id.toList <:+: path.toList

/-- Whether a row has an identifier, or a path that is like the pattern in which any text stands on
both sides of it. -/
def InPattern (d : Dialect) (column id : String) (row : String → Option String) : Prop :=
  row idPath = some id ∨ ∃ path, row column = some path
    ∧ Wild.likes (.any :: d.pattern (id.toList ++ ['%'])) path.toList = true

/-- **Rows are in the pattern of an identifier exactly if they are in its subtree**, for a plain
identifier and no other. -/
theorem inPattern_iff_inSubtree_iff (d : Dialect) (column id : String) :
    (∀ row, InPattern d column id row ↔ InSubtree column id row) ↔ d.Plain id.toList := by
  constructor
  · intro h
    by_contra hplain
    have hmissing := Dialect.not_infix_shortest hplain
    -- all texts of this row are like the pattern, and none holds the identifier
    let found := String.ofList (d.shortest id.toList)
    have hlikes : Wild.likes (.any :: d.pattern (id.toList ++ ['%'])) found.toList = true := by
      rw [String.toList_ofList]
      exact Wild.likes_any (Wild.likes_shortest _)
    have hnot : ¬ id.toList <:+: found.toList := by
      rw [String.toList_ofList]
      exact hmissing
    rcases (h fun _ => some found).1 (.inr ⟨found, rfl, hlikes⟩) with
      hsame | ⟨path, hpath, hinfix⟩
    · rw [← Option.some.inj hsame] at hnot
      exact hnot List.infix_rfl
    · rw [← Option.some.inj hpath] at hinfix
      exact hnot hinfix
  · intro hplain row
    rw [InPattern, hplain.pattern_append, InSubtree]
    simp only [Wild.likes_exactly_iff]

namespace Delete

variable {d : Dialect} {x : Delete} {column id : String}

/-- **Which rows a deletion of a subtree takes**: that of its identifier, and those whose path is
like the pattern that the identifier is bound into. -/
theorem takes_iff (hcolumn : x.pathColumn = some column) (hid : x.id = .string id)
    (row : String → Option String) :
    x.prepared.takes x.params (.ofTexts d row) = true ↔ InPattern d column id row := by
  have hparams : x.params = [.string id, .string id] := by
    rw [params, hcolumn, hid]
  have hprepared : x.prepared
      = ⟨x.table, 1, some (column, [.literal "%", .slot 2, .literal "%"])⟩ := by
    rw [prepared, hcolumn]
    rfl
  have hlike (text : String) : ((([.literal "%", .slot 2, .literal "%"] : List PreparedTerm).mapM
        (PreparedTerm.text? [.string id, .string id])).any fun ss =>
          Wild.likes (d.pattern (ss.flatMap String.toList)) text.toList)
      = Wild.likes (.any :: d.pattern (id.toList ++ ['%'])) text.toList := by
    show Wild.likes (d.pattern ('%' :: (id.toList ++ ['%']))) text.toList = _
    rw [d.pattern_any]
  rw [hparams, hprepared, PreparedDelete.takes, Bool.or_eq_true]
  refine or_congr beq_iff_eq ?_
  simp only [Option.any_some, RowFacts.ofTexts, hlike, Option.any_eq_true]

end Delete

end CardStore.Sql
