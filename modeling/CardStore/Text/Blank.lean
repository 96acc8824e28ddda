/-
  CardStore.Text.Blank
  ────────────────────
  **BLANK CHARACTERS.**

  The characters with the Unicode property White_Space, and the two things
  text is cut by them: the blanks at its ends, and the blanks between words.

  Main statements:
    * `isBlank_of_isWhitespace` — every ASCII blank of the core library is one.
    * `not_isBlank_of_mem_wordsFrom` — no word holds a blank.
    * `trimList_sublist` — trimming only drops characters.
-/

namespace CardStore.Text

/-- The Unicode property White_Space. -/
def isBlank (c : Char) : Bool :=
  let n := c.toNat
  (9 ≤ n && n ≤ 13) || n == 0x20 || n == 0x85 || n == 0xA0 || n == 0x1680
    || (0x2000 ≤ n && n ≤ 0x200A) || n == 0x2028 || n == 0x2029 || n == 0x202F
    || n == 0x205F || n == 0x3000

theorem isBlank_of_isWhitespace (c : Char) (h : c.isWhitespace = true) : isBlank c = true := by
  simp only [Char.isWhitespace, Bool.or_eq_true, decide_eq_true_eq] at h
  rcases h with ((h | h) | h) | h <;> subst h <;> decide

/-- Characters without the blanks at either end. -/
def trimList (cs : List Char) : List Char :=
  ((cs.dropWhile isBlank).reverse.dropWhile isBlank).reverse

/-- Text without the blanks at either end. -/
def trim (s : String) : String := String.ofList (trimList s.toList)

/-- The words of a text whose first word has begun with the characters of `word`, last one first. -/
def wordsFrom (word : List Char) : List Char → List (List Char)
  | [] => if word.isEmpty then [] else [word.reverse]
  | c :: cs =>
    if isBlank c then
      if word.isEmpty then wordsFrom [] cs else word.reverse :: wordsFrom [] cs
    else wordsFrom (c :: word) cs

/-- The words of a text: its longest runs without blanks, in order. -/
def words (s : String) : List String := (wordsFrom [] s.toList).map String.ofList

/-- No word holds a blank. -/
theorem not_isBlank_of_mem_wordsFrom (cs word : List Char) (hw : ∀ c ∈ word, isBlank c = false) :
    ∀ w ∈ wordsFrom word cs, ∀ c ∈ w, isBlank c = false := by
  induction cs generalizing word with
  | nil =>
    rw [wordsFrom]
    split <;> simp_all
  | cons c cs ih =>
    rw [wordsFrom]
    split
    · split
      · exact ih [] (by simp)
      · simp only [List.mem_cons, forall_eq_or_imp, List.mem_reverse]
        exact ⟨hw, ih [] (by simp)⟩
    · rename_i hc
      exact ih (c :: word) (by simp_all)

theorem trimList_sublist (cs : List Char) : (trimList cs).Sublist cs := by
  have h : ((cs.dropWhile isBlank).reverse.dropWhile isBlank).Sublist (cs.dropWhile isBlank).reverse :=
    List.dropWhile_sublist _
  have h' := h.reverse
  rw [List.reverse_reverse] at h'
  exact h'.trans (List.dropWhile_sublist _)

end CardStore.Text
