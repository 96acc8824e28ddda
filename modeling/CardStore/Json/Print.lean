/-
  CardStore.Json.Print
  ────────────────────
  **COMPACT JSON TEXT.**

  Values are written without blanks, members in their order.  A string keeps
  every character but the quote, the backslash and the control characters
  below 20, which are escaped, the frequent ones by a letter.  A number is an
  integer, or the shortest digits that read back with a point or an exponent.
-/
import CardStore.Json.Basic
import CardStore.Number.Shortest
import CardStore.Text.Digits

namespace CardStore.Json

/-- A character inside a JSON string. -/
def escapeChar (c : Char) : List Char :=
  if c = '"' then ['\\', '"']
  else if c = '\\' then ['\\', '\\']
  else if 0x20 ≤ c.toNat then [c]
  else if c.toNat = 8 then ['\\', 'b']
  else if c.toNat = 9 then ['\\', 't']
  else if c.toNat = 10 then ['\\', 'n']
  else if c.toNat = 12 then ['\\', 'f']
  else if c.toNat = 13 then ['\\', 'r']
  else '\\' :: 'u' :: Text.hexDigits 4 c.toNat

/-- A string in quotes. -/
def stringChars (s : String) : List Char :=
  '"' :: (s.toList.flatMap escapeChar ++ ['"'])

/-- A number. -/
def Number.text : Number → String
  | .int n _ => Text.ofInt n
  | .float x _ => x.toJsonText

mutual

/-- The characters of a value. -/
def chars : Json → List Char
  | .null => ['n', 'u', 'l', 'l']
  | .bool true => ['t', 'r', 'u', 'e']
  | .bool false => ['f', 'a', 'l', 's', 'e']
  | .number n => n.text.toList
  | .string s => stringChars s
  | .array [] => ['[', ']']
  | .array (j :: js) => '[' :: (chars j ++ moreItems js)
  | .object [] => ['{', '}']
  | .object ((k, v) :: es) => '{' :: (stringChars k ++ ':' :: (chars v ++ moreMembers es))

/-- The items after the first one, and the closing bracket. -/
def moreItems : List Json → List Char
  | [] => [']']
  | j :: js => ',' :: (chars j ++ moreItems js)

/-- The members after the first one, and the closing brace. -/
def moreMembers : List (String × Json) → List Char
  | [] => ['}']
  | (k, v) :: es => ',' :: (stringChars k ++ ':' :: (chars v ++ moreMembers es))

end

/-- The compact text of a value. -/
def text (j : Json) : String := String.ofList j.chars

end CardStore.Json
