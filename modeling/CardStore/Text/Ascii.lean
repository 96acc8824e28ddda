/-
  CardStore.Text.Ascii
  ────────────────────
  **LETTER CASE OF THE ASCII LETTERS.**

  Column names and server keywords are compared without regard to the case of
  the letters A to Z; all other characters stand for themselves.

  Main statements:
    * `eqIgnoreCase_comm`, `eqIgnoreCase_self`, `eqIgnoreCase_trans` — it is an equivalence.
-/

namespace CardStore.Text

/-- The text with the letters A to Z made small. -/
def lowered (s : String) : List Char := s.toList.map Char.toLower

/-- Equality without regard to the case of the letters A to Z. -/
def eqIgnoreCase (s t : String) : Bool := lowered s == lowered t

theorem eqIgnoreCase_iff (s t : String) : eqIgnoreCase s t = true ↔ lowered s = lowered t :=
  beq_iff_eq

theorem eqIgnoreCase_comm (s t : String) : eqIgnoreCase s t = eqIgnoreCase t s := BEq.comm

theorem eqIgnoreCase_self (s : String) : eqIgnoreCase s s = true := by simp [eqIgnoreCase]

theorem eqIgnoreCase_trans {s t u : String} (h : eqIgnoreCase s t = true)
    (h' : eqIgnoreCase t u = true) : eqIgnoreCase s u = true := by
  rw [eqIgnoreCase_iff] at *
  exact h.trans h'

/-- What stands behind a word at the front of a text, the case of the letters A to Z aside. -/
def dropIgnoreCase? : List Char → List Char → Option (List Char)
  | [], cs => some cs
  | _ :: _, [] => none
  | w :: ws, c :: cs => if w.toLower = c.toLower then dropIgnoreCase? ws cs else none

end CardStore.Text
