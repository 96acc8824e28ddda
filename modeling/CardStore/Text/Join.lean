/-
  CardStore.Text.Join
  ───────────────────
  **JOINING AND SPLITTING TEXT.**

  Texts are joined by a separator, and a text is cut at every place where a
  character stands.  Cutting never yields an empty list: a text without the
  character is one part.

  Main statements:
    * `joinedBy_splitFrom` — the parts joined by the character are the text again.
    * `splitAt_eq_singleton_iff` — a text is one part exactly when the character is not in it.
    * `splitAt_joined` — parts without the character are read back from between it.
-/

namespace CardStore.Text

/-- The texts with a separator between them. -/
def joined (separator : String) : List String → String
  | [] => ""
  | [s] => s
  | s :: t :: ss => s ++ separator ++ joined separator (t :: ss)

/-- The parts of a text, and of the first part the characters `part` already read, last one
first. -/
def splitFrom (mark : Char) (part : List Char) : List Char → List (List Char)
  | [] => [part.reverse]
  | c :: cs =>
    if c = mark then part.reverse :: splitFrom mark [] cs else splitFrom mark (c :: part) cs

/-- The parts between the marks. -/
def splitAt (mark : Char) (s : String) : List String :=
  (splitFrom mark [] s.toList).map String.ofList

/-- Lists of characters with a mark between them. -/
def joinedBy (mark : Char) : List (List Char) → List Char
  | [] => []
  | [cs] => cs
  | cs :: ds :: css => cs ++ mark :: joinedBy mark (ds :: css)

theorem splitFrom_ne_nil (mark : Char) (part cs : List Char) : splitFrom mark part cs ≠ [] := by
  induction cs generalizing part with
  | nil => simp [splitFrom]
  | cons c cs ih =>
    rw [splitFrom]
    split
    · simp
    · exact ih _

/-- The parts joined by the mark are the text again. -/
theorem joinedBy_splitFrom (mark : Char) (part cs : List Char) :
    joinedBy mark (splitFrom mark part cs) = part.reverse ++ cs := by
  induction cs generalizing part with
  | nil => simp [splitFrom, joinedBy]
  | cons c cs ih =>
    rw [splitFrom]
    split
    · rename_i h
      subst h
      obtain ⟨p, ps, hp⟩ := List.exists_cons_of_ne_nil (splitFrom_ne_nil c [] cs)
      have hj := ih []
      rw [hp] at hj ⊢
      rw [joinedBy, hj]
      simp
    · rw [ih]
      simp

theorem splitFrom_eq_singleton_iff (mark : Char) (part cs ds : List Char) :
    splitFrom mark part cs = [ds] ↔ mark ∉ cs ∧ part.reverse ++ cs = ds := by
  induction cs generalizing part with
  | nil => simp [splitFrom]
  | cons c cs ih =>
    rw [splitFrom]
    split
    · rename_i h
      simp [h, splitFrom_ne_nil]
    · rename_i h
      rw [ih, List.mem_cons, not_or, List.reverse_cons, List.append_assoc]
      simp [Ne.symm h]

/-- A text is one part exactly when the mark is not in it. -/
theorem splitAt_eq_singleton_iff (mark : Char) (s t : String) :
    splitAt mark s = [t] ↔ mark ∉ s.toList ∧ s = t := by
  rw [splitAt, List.map_eq_singleton_iff]
  simp only [splitFrom_eq_singleton_iff, List.reverse_nil, List.nil_append]
  constructor
  · rintro ⟨ds, ⟨hmark, rfl⟩, rfl⟩
    exact ⟨hmark, String.ofList_toList.symm⟩
  · rintro ⟨hmark, rfl⟩
    exact ⟨s.toList, ⟨hmark, rfl⟩, String.ofList_toList⟩

/-- The mark is in none of the parts. -/
theorem not_mem_of_mem_splitFrom {mark : Char} {cs ds : List Char} : ∀ {part : List Char},
    mark ∉ part → ds ∈ splitFrom mark part cs → mark ∉ ds := by
  induction cs with
  | nil =>
    intro part hpart h
    rw [splitFrom, List.mem_singleton] at h
    rw [h, List.mem_reverse]
    exact hpart
  | cons c cs ih =>
    intro part hpart h
    rw [splitFrom] at h
    split at h
    · rcases List.mem_cons.1 h with rfl | h
      · rw [List.mem_reverse]
        exact hpart
      · exact ih List.not_mem_nil h
    · rename_i hc
      refine ih ?_ h
      rw [List.mem_cons, not_or]
      exact ⟨Ne.symm hc, hpart⟩

theorem not_mem_of_mem_splitAt {mark : Char} {s part : String} (h : part ∈ splitAt mark s) :
    mark ∉ part.toList := by
  obtain ⟨ds, hds, rfl⟩ := List.mem_map.1 h
  rw [String.toList_ofList]
  exact not_mem_of_mem_splitFrom List.not_mem_nil hds

/-- The first part ends where the first mark stands. -/
theorem splitFrom_append {mark : Char} {cs : List Char} (ds : List Char) (h : mark ∉ cs) :
    ∀ part, splitFrom mark part (cs ++ mark :: ds)
      = (part.reverse ++ cs) :: splitFrom mark [] ds := by
  induction cs with
  | nil =>
    intro part
    rw [List.nil_append, splitFrom, if_pos rfl, List.append_nil]
  | cons c cs ih =>
    intro part
    rw [List.mem_cons, not_or] at h
    rw [List.cons_append, splitFrom, if_neg (Ne.symm h.1), ih h.2, List.reverse_cons,
      List.append_assoc]
    rfl

theorem map_joinedBy (f : Char → Char) (mark : Char) (parts : List (List Char)) :
    (joinedBy mark parts).map f = joinedBy (f mark) (parts.map (List.map f)) := by
  induction parts with
  | nil => rfl
  | cons s parts ih =>
    cases parts with
    | nil => rfl
    | cons t parts =>
      rw [joinedBy, List.map_append, List.map_cons, ih]
      rfl

/-- Parts without the mark are read back from between it. -/
theorem splitFrom_joinedBy {mark : Char} : ∀ {parts : List (List Char)}, parts ≠ [] →
    (∀ part ∈ parts, mark ∉ part) → splitFrom mark [] (joinedBy mark parts) = parts := by
  intro parts
  induction parts with
  | nil =>
    intro h
    exact absurd rfl h
  | cons s parts ih =>
    intro _ hmark
    obtain ⟨hs, hrest⟩ := List.forall_mem_cons.1 hmark
    cases parts with
    | nil => exact (splitFrom_eq_singleton_iff mark [] s s).2 ⟨hs, rfl⟩
    | cons t parts =>
      rw [joinedBy, splitFrom_append _ hs, ih (List.cons_ne_nil _ _) hrest]
      rfl

/-- **Parts without the mark** are read back from between it. -/
theorem splitAt_joined {mark : Char} : ∀ {parts : List String}, parts ≠ [] →
    (∀ part ∈ parts, mark ∉ part.toList) →
      splitAt mark (joined (String.singleton mark) parts) = parts := by
  intro parts
  induction parts with
  | nil =>
    intro h
    exact absurd rfl h
  | cons s parts ih =>
    intro _ hmark
    rw [List.forall_mem_cons] at hmark
    cases parts with
    | nil => exact (splitAt_eq_singleton_iff mark s s).2 ⟨hmark.1, rfl⟩
    | cons t parts =>
      have hrest := ih (List.cons_ne_nil t parts) hmark.2
      have hchars : (joined (String.singleton mark) (s :: t :: parts)).toList
          = s.toList ++ mark :: (joined (String.singleton mark) (t :: parts)).toList := by
        rw [joined, String.toList_append, String.toList_append, String.toList_singleton,
          List.append_assoc]
        rfl
      rw [splitAt, hchars, splitFrom_append _ hmark.1, List.map_cons, List.reverse_nil,
        List.nil_append, String.ofList_toList]
      exact congrArg (s :: ·) hrest

end CardStore.Text
