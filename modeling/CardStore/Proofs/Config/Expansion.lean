/-
  CardStore.Proofs.Config.Expansion
  ─────────────────────────────────
  **REFERENCES, REPLACED ONCE.**

  A text is expanded from left to right.  Where a reference begins, what
  stands for its variable is written, and the text goes on behind it; where
  none begins, one character is kept.  A reference is told by its characters
  alone: at most one begins at a place, as neither a colon nor a brace is part
  of a name, and a default ends at the first closing brace.

      text        ${a${B}:${C:-${x}}
      kept        ${a    :         }
      replaced        ${B} ${C:-${x}

  Main statements:
    * `read?_eq_some_iff` — what is read at a place is the reference that begins there.
    * `stands_iff` — what stands for a variable.
    * `expandVariables_eq_iff` — the text with its leftmost references replaced, and
      nothing else changed.
-/
import CardStore.Config.Variables
import Mathlib.Data.List.TakeWhile
import Mathlib.Tactic.Tauto

namespace CardStore

namespace Variable

/-! ## §1. References. -/

/-- A letter of the alphabet or an underscore. -/
def BeginsName (c : Char) : Prop := 'a' ≤ c ∧ c ≤ 'z' ∨ 'A' ≤ c ∧ c ≤ 'Z' ∨ c = '_'

/-- A letter, a digit or an underscore. -/
def InName (c : Char) : Prop := BeginsName c ∨ '0' ≤ c ∧ c ≤ '9'

/-- A reference that can be written: its name is one, and its default holds no closing brace. -/
structure Formed (v : Variable) : Prop where
  name : ∃ c cs, v.name = c :: cs ∧ BeginsName c ∧ ∀ d ∈ cs, InName d
  fallback : ∀ cs, v.fallback = some cs → '}' ∉ cs

theorem isNameStart_iff {c : Char} : isNameStart c = true ↔ BeginsName c := by
  have hletter : c.isAlpha = (decide (c.val ≥ 'A'.val ∧ c.val ≤ 'Z'.val)
      || (decide (c.val ≥ 'a'.val) && decide (c.val ≤ 'z'.val))) := rfl
  simp only [isNameStart, hletter, Bool.or_eq_true, Bool.and_eq_true, decide_eq_true_eq,
    beq_iff_eq, BeginsName, Char.le_def]
  tauto

theorem isNameChar_iff {c : Char} : isNameChar c = true ↔ InName c := by
  have hdigit : c.isDigit = true ↔ '0' ≤ c ∧ c ≤ '9' := by
    simp only [Char.isDigit, Bool.and_eq_true, decide_eq_true_eq, Char.le_def]
  have hstart := isNameStart_iff (c := c)
  simp only [isNameStart, Bool.or_eq_true] at hstart
  simp only [isNameChar, Char.isAlphanum, Bool.or_eq_true, InName, ← hstart, ← hdigit]
  tauto

theorem formed_of_read? {cs rest : List Char} {v : Variable} (h : read? cs = some (v, rest)) :
    v.Formed := by
  unfold read? at h
  split at h
  · rename_i c ds
    split at h
    · rename_i hstart
      obtain ⟨⟨fallback, tail⟩, hend, hv⟩ := Option.map_eq_some_iff.1 h
      obtain ⟨rfl, rfl⟩ := Prod.mk.inj hv
      refine ⟨⟨c, _, rfl, isNameStart_iff.1 hstart, fun d hd => ?_⟩, fun ds hds => ?_⟩
      · exact isNameChar_iff.1 (List.mem_takeWhile_imp hd)
      -- a default was read up to the first closing brace
      · unfold readEnd? at hend
        split at hend
        · cases hend
          cases hds
        · split at hend
          · cases hend
          · cases hend
            cases hds
            intro hbrace
            simpa using List.mem_takeWhile_imp hbrace
        · cases hend
    · cases h
  · cases h

theorem readEnd?_endSource_append {fallback : Option (List Char)}
    (h : ∀ cs, fallback = some cs → '}' ∉ cs) (rest : List Char) :
    readEnd? (endSource fallback ++ rest) = some (fallback, rest) := by
  cases fallback with
  | none => rfl
  | some cs =>
    have hcs : ∀ c ∈ cs, (c != '}') = true := fun c hc =>
      bne_iff_ne.2 fun he => h cs rfl (he ▸ hc)
    have hdrop : (cs ++ '}' :: rest).dropWhile (· != '}') = '}' :: rest := by
      rw [List.dropWhile_append_of_pos hcs, List.dropWhile_cons_of_neg (by decide)]
    have htake : (cs ++ '}' :: rest).takeWhile (· != '}') = cs := by
      rw [List.takeWhile_append_of_pos hcs, List.takeWhile_cons_of_neg (by decide),
        List.append_nil]
    rw [endSource, List.cons_append, List.cons_append, List.append_assoc, List.singleton_append,
      readEnd?, hdrop, htake]

theorem read?_source_append {v : Variable} (h : v.Formed) (rest : List Char) :
    read? (v.source ++ rest) = some (v, rest) := by
  obtain ⟨name, fallback⟩ := v
  obtain ⟨c, cs, rfl, hc, hcs⟩ := h.name
  have hend : (endSource fallback ++ rest).takeWhile isNameChar = []
      ∧ (endSource fallback ++ rest).dropWhile isNameChar = endSource fallback ++ rest := by
    cases fallback <;> exact ⟨rfl, rfl⟩
  have hname : ∀ d ∈ cs, isNameChar d = true := fun d hd => isNameChar_iff.2 (hcs d hd)
  rw [source, List.cons_append, List.cons_append, List.append_assoc, List.cons_append, read?,
    if_pos (isNameStart_iff.2 hc), List.dropWhile_append_of_pos hname,
    List.takeWhile_append_of_pos hname, hend.1, hend.2, List.append_nil,
    readEnd?_endSource_append h.fallback]
  rfl

/-- **What is read at a place** is the reference that begins there. -/
theorem read?_eq_some_iff {cs rest : List Char} {v : Variable} :
    read? cs = some (v, rest) ↔ v.Formed ∧ cs = v.source ++ rest := by
  constructor
  · exact fun h => ⟨formed_of_read? h, (source_append_of_read? h).symm⟩
  · rintro ⟨hformed, rfl⟩
    exact read?_source_append hformed rest

/-! ## §2. What stands for a variable. -/

/-- What stands for a variable: its value if it is set, else the default if one is given, else
nothing. -/
inductive Stands (env : Environment) (v : Variable) : List Char → Prop where
  | value {s : String} : Pairs.get? (String.ofList v.name) env = some s → Stands env v s.toList
  | fallback {cs : List Char} : String.ofList v.name ∉ Pairs.keys env → v.fallback = some cs →
      Stands env v cs
  | nothing : String.ofList v.name ∉ Pairs.keys env → v.fallback = none → Stands env v []

theorem stands_iff {env : Environment} {v : Variable} {cs : List Char} :
    Stands env v cs ↔ cs = v.value env := by
  unfold value
  constructor
  · rintro (hset | ⟨hunset, hfallback⟩ | ⟨hunset, hfallback⟩)
    · rw [hset]
    · rw [(Pairs.get?_eq_none_iff _ env).2 hunset, hfallback]
      rfl
    · rw [(Pairs.get?_eq_none_iff _ env).2 hunset, hfallback]
      rfl
  · rintro rfl
    split
    · rename_i s hset
      exact .value hset
    · rename_i hunset
      rw [Pairs.get?_eq_none_iff] at hunset
      cases hfallback : v.fallback with
      | some cs => exact .fallback hunset hfallback
      | none => exact .nothing hunset hfallback

end Variable

/-! ## §3. Texts. -/

/-- A text and what it is with its leftmost references replaced. -/
inductive Expands (env : Environment) : List Char → List Char → Prop where
  | nil : Expands env [] []
  | reference {v : Variable} {cs rest out : List Char} : v.Formed → v.Stands env cs →
      Expands env rest out → Expands env (v.source ++ rest) (cs ++ out)
  | keep {c : Char} {rest out : List Char} :
      (∀ (v : Variable) (tail : List Char), v.Formed → c :: rest ≠ v.source ++ tail) →
      Expands env rest out → Expands env (c :: rest) (c :: out)

theorem read?_eq_none_iff {cs : List Char} : Variable.read? cs = none
    ↔ ∀ (v : Variable) (tail : List Char), v.Formed → cs ≠ v.source ++ tail := by
  rw [Option.eq_none_iff_forall_ne_some]
  constructor
  · exact fun h v tail hformed hcs => h (v, tail) (Variable.read?_eq_some_iff.2 ⟨hformed, hcs⟩)
  · rintro h ⟨v, tail⟩ hread
    obtain ⟨hformed, hcs⟩ := Variable.read?_eq_some_iff.1 hread
    exact h v tail hformed hcs

theorem expands_pieces (env : Environment) (cs : List Char) :
    Expands env cs ((pieces cs).flatMap (Piece.expand env)) := by
  fun_induction pieces cs with
  | case1 cs v rest hread _ ih =>
    obtain ⟨hformed, rfl⟩ := Variable.read?_eq_some_iff.1 hread
    exact .reference hformed (Variable.stands_iff.2 rfl) ih
  | case2 => exact .nil
  | case3 c cs hread ih => exact .keep (read?_eq_none_iff.1 hread) ih

theorem Expands.eq {env : Environment} {cs out : List Char} (h : Expands env cs out) :
    out = (pieces cs).flatMap (Piece.expand env) := by
  induction h with
  | nil =>
    rw [pieces]
    rfl
  | @reference v cs rest out hformed hstands _ ih =>
    rw [pieces]
    split
    · rename_i v' rest' hread
      rw [Variable.read?_source_append hformed] at hread
      cases hread
      rw [List.flatMap_cons, ← ih, Variable.stands_iff.1 hstands]
      rfl
    · rename_i hread
      rw [Variable.read?_source_append hformed] at hread
      cases hread
  | @keep c rest out hkeep _ ih =>
    rw [pieces]
    split
    · rename_i v' rest' hread
      rw [read?_eq_none_iff.2 hkeep] at hread
      cases hread
    · rw [List.flatMap_cons, ← ih]
      rfl

/-- **A text is expanded** to what it is with its leftmost references replaced, and to nothing
else: all other characters are kept, and what was put in is not looked at again. -/
theorem expandVariables_eq_iff (env : Environment) (text out : String) :
    expandVariables env text = out ↔ Expands env text.toList out.toList := by
  unfold expandVariables
  constructor
  · rintro rfl
    rw [String.toList_ofList]
    exact expands_pieces env text.toList
  · intro h
    rw [← h.eq, String.ofList_toList]

/-- A bad name in front of a reference, a value that looks like a reference, a default with an
opening brace, and a reference without an end. -/
example : expandVariables [("B", "$\x7bC\x7d")] "$\x7b1$\x7bB\x7d:$\x7bC:-$\x7bx\x7d\x7d$\x7bB"
    = "$\x7b1$\x7bC\x7d:$\x7bx\x7d$\x7bB" := by
  cbv

end CardStore
