/-
  CardStore.Sql.Identifier
  ────────────────────────
  **NAMES OF TABLES AND COLUMNS.**

  Names of tables and columns come from card descriptors and stand in
  statements as they are, so they have to be plain identifiers: a letter of
  any script or an underscore, then letters, digits, underscores, dollar and
  number signs, at most 128 characters in all.
-/
import CardStore.Error
import CardStore.Text.Letters

namespace CardStore.Sql

/-- The largest number of characters of an identifier. -/
def identifierLimit : Nat := 128

/-- A character that an identifier may begin with. -/
def isIdentifierStart (c : Char) : Bool := Text.isLetter c || c == '_'

/-- A character that an identifier may go on with. -/
def isIdentifierPart (c : Char) : Bool :=
  Text.isLetterOrDigit c || c == '_' || c == '$' || c == '#'

/-- Why a name is not an identifier. -/
inductive IdentifierFault where
  | empty
  | tooLong (length : Nat)
  | badStart (name : String)
  | badCharacter (name : String) (c : Char)
  deriving DecidableEq

def IdentifierFault.message : IdentifierFault → String
  | .empty => "SQL identifier cannot be empty"
  | .tooLong n =>
    "SQL identifier too long: " ++ Text.ofNat n ++ " chars (max " ++ Text.ofNat identifierLimit ++ ")"
  | .badStart name =>
    "Invalid SQL identifier '" ++ name ++ "': must start with a letter or underscore"
  | .badCharacter name c =>
    "Invalid SQL identifier '" ++ name ++ "': contains invalid character '" ++ c.toString ++ "'"

/-- The fault of a name, the first one found; none for an identifier. -/
def identifierFault? (name : String) : Option IdentifierFault :=
  match name.toList with
  | [] => some .empty
  | c :: cs =>
    if identifierLimit < cs.length + 1 then some (.tooLong (cs.length + 1))
    else if !isIdentifierStart c then some (.badStart name)
    else (cs.find? (!isIdentifierPart ·)).map (.badCharacter name)

/-- Whether a name is an identifier. -/
def isIdentifier (name : String) : Bool := (identifierFault? name).isNone

/-- Demand that a name is an identifier. -/
def checkIdentifier (name : String) : Except Error Unit :=
  match identifierFault? name with
  | none => .ok ()
  | some fault => .error (.configuration fault.message)

/-- Every character of an identifier is one that it may go on with. -/
theorem isIdentifierPart_of_mem {name : String} (h : isIdentifier name = true) :
    ∀ c ∈ name.toList, isIdentifierPart c = true := by
  rw [isIdentifier, identifierFault?] at h
  split at h
  · simp at h
  · rename_i c cs hcs
    rw [hcs]
    split at h
    · simp at h
    · split at h
      · simp at h
      · rename_i _ hstart
        simp only [Option.isNone_map, Option.isNone_iff_eq_none, List.find?_eq_none,
          Bool.not_eq_true', Bool.not_eq_false] at h
        simp only [Bool.not_eq_true', Bool.not_eq_false, isIdentifierStart] at hstart
        simp only [List.mem_cons, forall_eq_or_imp]
        refine ⟨?_, fun d hd => h d hd⟩
        simp only [isIdentifierPart, Text.isLetterOrDigit, Bool.or_eq_true] at hstart ⊢
        rcases hstart with hs | hs
        · exact Or.inl (Or.inl (Or.inl (Or.inl hs)))
        · exact Or.inl (Or.inl (Or.inr hs))

end CardStore.Sql
