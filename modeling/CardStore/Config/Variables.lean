/-
  CardStore.Config.Variables
  ──────────────────────────
  **VARIABLES IN TEXT.**

  A reference to a variable is a dollar sign and, between braces, a name, and
  perhaps `:-` and a default, which goes up to the first closing brace.  The
  references of a text are replaced once, from left to right; what is put in
  their places is not looked at again, and what merely resembles a reference
  stays as it is.

  Main statements:
    * `source_append_of_read?` — a reference that is read was written there.
    * `source_pieces` — the pieces of a text are the text.
-/
import CardStore.OrderedMap

namespace CardStore

/-- The values of variables. -/
abbrev Environment := List (String × String)

/-- A reference to a variable. -/
structure Variable where
  name : List Char
  /-- What stands for a variable that is not set. -/
  fallback : Option (List Char)
  deriving DecidableEq, Repr

namespace Variable

def isNameStart (c : Char) : Bool := c.isAlpha || c == '_'

def isNameChar (c : Char) : Bool := c.isAlphanum || c == '_'

/-- The end of a reference as it is written. -/
def endSource : Option (List Char) → List Char
  | none => ['}']
  | some cs => ':' :: '-' :: (cs ++ ['}'])

/-- A reference as it is written. -/
def source (v : Variable) : List Char := '$' :: '{' :: (v.name ++ endSource v.fallback)

/-- Read what stands behind the name of a reference. -/
def readEnd? : List Char → Option (Option (List Char) × List Char)
  | '}' :: rest => some (none, rest)
  | ':' :: '-' :: cs => match cs.dropWhile (· != '}') with
    | [] => none
    | _ :: rest => some (some (cs.takeWhile (· != '}')), rest)
  | _ => none

/-- Read a reference at the front of a text. -/
def read? : List Char → Option (Variable × List Char)
  | '$' :: '{' :: c :: cs =>
    if isNameStart c then
      (readEnd? (cs.dropWhile isNameChar)).map fun (fallback, rest) =>
        (⟨c :: cs.takeWhile isNameChar, fallback⟩, rest)
    else none
  | _ => none

theorem dropWhile_ne_eq_cons {mark c : Char} {cs rest : List Char}
    (h : cs.dropWhile (· != mark) = c :: rest) : c = mark := by
  induction cs with
  | nil => simp at h
  | cons d ds ih =>
    rw [List.dropWhile_cons] at h
    split at h
    · exact ih h
    · rename_i hd
      simp only [List.cons.injEq] at h
      simpa [← h.1] using hd

theorem endSource_append_of_readEnd? {cs rest : List Char} {fallback : Option (List Char)}
    (h : readEnd? cs = some (fallback, rest)) : endSource fallback ++ rest = cs := by
  unfold readEnd? at h
  split at h
  · simp only [Option.some.injEq, Prod.mk.injEq] at h
    simp [← h.1, ← h.2, endSource]
  · rename_i ds
    split at h
    · simp at h
    · rename_i c tail hd
      simp only [Option.some.injEq, Prod.mk.injEq] at h
      -- the text is what stands before the brace, the brace, and the rest
      have hc := dropWhile_ne_eq_cons hd
      have hs := List.takeWhile_append_dropWhile (p := (· != '}')) (l := ds)
      rw [hd, hc] at hs
      rw [← h.1, ← h.2]
      simp [endSource, hs]
  · simp at h

/-- A reference that is read was written there. -/
theorem source_append_of_read? {cs rest : List Char} {v : Variable}
    (h : read? cs = some (v, rest)) : v.source ++ rest = cs := by
  unfold read? at h
  split at h
  · rename_i c ds
    split at h
    · simp only [Option.map_eq_some_iff, Prod.exists, Prod.mk.injEq] at h
      obtain ⟨fallback, tail, hend, hv, hr⟩ := h
      have he := endSource_append_of_readEnd? hend
      subst hv hr
      have hs := List.takeWhile_append_dropWhile (p := isNameChar) (l := ds)
      simp [source, List.append_assoc, he, hs]
    · simp at h
  · simp at h

theorem length_lt_of_read? {cs rest : List Char} {v : Variable}
    (h : read? cs = some (v, rest)) : rest.length < cs.length := by
  rw [← source_append_of_read? h]
  simp only [source, List.cons_append, List.length_cons, List.length_append]
  omega

/-- What stands for a variable: its value, or the default, or nothing. -/
def value (env : Environment) (v : Variable) : List Char :=
  match Pairs.get? (String.ofList v.name) env with
  | some s => s.toList
  | none => v.fallback.getD []

end Variable

/-! ## Texts with references. -/

/-- A piece of a text with references. -/
inductive Piece where
  | char (c : Char)
  | variable (v : Variable)
  deriving DecidableEq, Repr

namespace Piece

/-- A piece as it is written. -/
def source : Piece → List Char
  | .char c => [c]
  | .variable v => v.source

/-- A piece with its variable replaced. -/
def expand (env : Environment) : Piece → List Char
  | .char c => [c]
  | .variable v => v.value env

end Piece

/-- The pieces of a text, the leftmost references first. -/
def pieces (cs : List Char) : List Piece :=
  match h : Variable.read? cs with
  | some (v, rest) =>
    have : rest.length < cs.length := Variable.length_lt_of_read? h
    .variable v :: pieces rest
  -- what resembles a reference is passed one character at a time, so that the next one is found
  | none => match cs with
    | [] => []
    | c :: cs => .char c :: pieces cs
termination_by cs.length

/-- The pieces of a text are the text. -/
theorem source_pieces (cs : List Char) : (pieces cs).flatMap Piece.source = cs := by
  fun_induction pieces cs with
  | case1 cs v rest h _ ih =>
    rw [List.flatMap_cons, ih]
    exact Variable.source_append_of_read? h
  | case2 => rfl
  | case3 c cs h ih => simp [List.flatMap_cons, Piece.source, ih]

/-- A text with its references replaced. -/
def expandVariables (env : Environment) (text : String) : String :=
  String.ofList ((pieces text.toList).flatMap (Piece.expand env))

end CardStore
