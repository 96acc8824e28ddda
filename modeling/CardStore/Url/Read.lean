/-
  CardStore.Url.Read
  ──────────────────
  **READING URLS.**

  A URL is read as the URL standard of the web says: controls and blanks at
  its ends and line breaks anywhere are dropped, the scheme is made small,
  characters are percent-encoded where they may not stand, and single and
  double dots in a path are resolved.  The host lies between the last at sign
  before the path and the path.
-/
import CardStore.Url.Basic

namespace CardStore.Url

/-! ## §1. Pieces of a text. -/

/-- The text without controls and blanks at its ends, and without tabs and line breaks. -/
def cleaned (s : String) : List Char :=
  let isEdge (c : Char) : Bool := c.toNat ≤ 0x20
  let inner := ((s.toList.dropWhile isEdge).reverse.dropWhile isEdge).reverse
  inner.filter fun c => !"\t\n\r".toList.contains c

/-- A scheme and what follows its colon. -/
def readScheme? : List Char → Option (List Char × List Char)
  | [] => none
  | c :: cs =>
    let isPart (c : Char) : Bool := c.isAlphanum || c == '+' || c == '-' || c == '.'
    match (c :: cs).dropWhile isPart with
    | ':' :: rest =>
      if c.isAlpha then some (((c :: cs).takeWhile isPart).map Char.toLower, rest) else none
    | _ => none

/-- Whether a character ends the part of a URL that names a host. -/
def endsAuthority (special : Bool) (c : Char) : Bool :=
  c == '/' || c == '?' || c == '#' || (special && c == '\\')

/-- Whether a character separates segments of a path. -/
def isSlash (special : Bool) (c : Char) : Bool := c == '/' || (special && c == '\\')

/-- What stands before and after the last at sign. -/
def cutAtLastAt? (cs : List Char) : Option (List Char × List Char) :=
  match cs.reverse.dropWhile (· != '@') with
  | [] => none
  | _ :: before => some (before.reverse, (cs.reverse.takeWhile (· != '@')).reverse)

/-- The characters of a host, and those behind it: colons between brackets belong to the host. -/
def spanHost (inside : Bool) : List Char → List Char × List Char
  | [] => ([], [])
  | c :: cs =>
    if c = ':' ∧ inside = false then ([], c :: cs)
    else
      let (host, rest) := spanHost (if c = '[' then true else if c = ']' then false else inside) cs
      (c :: host, rest)

/-! ## §2. Hosts and ports. -/

/-- A port and what follows it. -/
def readPort (scheme : List Char) (cs : List Char) : Except Fault (Option Nat × List Char) :=
  let digits := cs.takeWhile Char.isDigit
  let rest := cs.dropWhile Char.isDigit
  let n := digits.foldl (fun n c => 10 * n + (c.toNat - 48)) 0
  if 65535 < n then .error .port
  else if rest.head?.any (· != '\\') then .error .port
  else .ok (if digits.isEmpty ∨ usualPort? scheme = some n then none else some n, rest)

/-- What a URL says before its path. -/
structure Authority where
  username : List Char
  password : List Char
  host : Host
  port : Option Nat
  /-- What is left over for the path. -/
  rest : List Char

/-- The user name and the password. -/
def readCredentials (cs : List Char) : List Char × List Char :=
  (encode inUserInfo (cs.takeWhile (· != ':')),
    encode inUserInfo ((cs.dropWhile (· != ':')).drop 1))

/-- Read what stands between the two slashes and the path; `ended` says whether the text ends
with it. -/
def readAuthority (scheme : List Char) (ended : Bool) (cs : List Char) : Except Fault Authority := do
  let special := isSpecial scheme
  let (before, place) := (cutAtLastAt? cs).getD ([], cs)
  let (username, password) := readCredentials before
  let named := !username.isEmpty || !password.isEmpty
  let (hostChars, rest) := spanHost false place
  -- Only a bare authority may lack a host, and not in a special scheme.
  if hostChars.isEmpty then
    if special || named || !rest.isEmpty || (cs == ['@'] && !ended) then throw .emptyHost
  let host ← if special then readSpecialHost hostChars else readOpaqueHost hostChars
  let (port, rest) ← match rest with
    | ':' :: rest => readPort scheme rest
    | rest => .ok (none, rest)
  return ⟨username, password, host, port, rest⟩

/-! ## §3. Paths. -/

/-- The segments between slashes. -/
def splitSegments (special : Bool) (cs : List Char) : List (List Char) :=
  Text.splitFrom '/' [] (cs.map fun c => if isSlash special c then '/' else c)

/-- A segment with every encoded dot as a dot. -/
def dotsOf : List Char → List Char
  | '%' :: '2' :: c :: cs => if c = 'e' ∨ c = 'E' then '.' :: dotsOf cs else '%' :: '2' :: c :: cs
  | '.' :: cs => '.' :: dotsOf cs
  | cs => cs

/-- The letter of a drive and a colon or a bar. -/
def isDrive : List Char → Bool
  | [c, m] => c.isAlpha && (m == ':' || m == '|')
  | _ => false

/-- The path without its last segment, which comes first here; the letter of a drive stays. -/
def shorten : List (List Char) → List (List Char)
  | [] => []
  | seg :: segs => if isDrive seg then seg :: segs else segs

/-- Resolve segments one after another; `done` is the path so far, its last segment first. -/
def resolve (file : Bool) (done : List (List Char)) : List (List Char) → List (List Char)
  | [] => done.reverse
  | seg :: segs =>
    let isLast := segs.isEmpty
    let done :=
      if dotsOf seg = ['.', '.'] then
        let done := shorten done
        if isLast then [] :: done else done
      else if dotsOf seg = ['.'] then if isLast then [] :: done else done
      -- A drive is written with a colon.
      else if file && done.isEmpty && isDrive seg then [seg.head?.getD ':', ':'] :: done
      else encode inPath seg :: done
    resolve file done segs

/-- A path without empty segments at its front. -/
def dropEmpty : List (List Char) → List (List Char)
  | [] :: seg :: segs => dropEmpty (seg :: segs)
  | segs => segs

/-- Read a path of segments, the first slash aside. -/
def readSegments (scheme : List Char) (cs : List Char) : Path :=
  let segs := resolve (isFile scheme) [] (splitSegments (isSpecial scheme) cs)
  .segments (if isFile scheme then dropEmpty segs else segs)

/-- Read the path behind a host. -/
def readPathAfterHost (scheme : List Char) : List Char → Path
  | [] => if isSpecial scheme then .segments [[]] else .segments []
  | c :: cs =>
    if isSlash (isSpecial scheme) c then readSegments scheme cs else readSegments scheme (c :: cs)

/-! ## §4. Whole URLs. -/

/-- A text cut into what stands before a query, the query, and the fragment. -/
structure Sections where
  front : List Char
  query : Option (List Char)
  fragment : Option (List Char)

/-- A text cut at a mark. -/
def cutAt (mark : Char) (cs : List Char) : List Char × Option (List Char) :=
  match cs.dropWhile (· != mark) with
  | [] => (cs, none)
  | _ :: rest => (cs.takeWhile (· != mark), some rest)

def Sections.ofChars (cs : List Char) : Sections :=
  let (cs, fragment) := cutAt '#' cs
  let (front, query) := cutAt '?' cs
  ⟨front, query, fragment⟩

/-- A URL with sections whose query and fragment are still to be encoded. -/
def withSections (u : Url) (sections : Sections) : Url :=
  let inPart := if isSpecial u.scheme then inSpecialQuery else inQuery
  { u with
    query := sections.query.map (encode inPart)
    fragment := sections.fragment.map (encode inFragment) }

/-- Read a URL with a host. -/
def readPlaced (scheme : List Char) (sections : Sections) (cs : List Char) : Except Fault Url := do
  let isEnd := endsAuthority (isSpecial scheme)
  let path := cs.dropWhile (!isEnd ·)
  let ended := path.isEmpty && sections.query.isNone && sections.fragment.isNone
  let a ← readAuthority scheme ended (cs.takeWhile (!isEnd ·))
  return withSections
    ⟨scheme, a.username, a.password, some a.host, a.port, readPathAfterHost scheme (a.rest ++ path),
      none, none⟩ sections

/-- Read the URL of a file. -/
def readFile (scheme : List Char) (sections : Sections) (cs : List Char) : Except Fault Url := do
  let place (host : Host) (path : List Char) : Url :=
    withSections ⟨scheme, [], [], some host, none, readPathAfterHost scheme path, none, none⟩ sections
  match cs with
  | a :: b :: rest =>
    if isSlash true a && isSlash true b then
      let hostChars := rest.takeWhile (!isSlash true ·)
      let path := rest.dropWhile (!isSlash true ·)
      -- The letter of a drive is no host, and a file of this machine needs none.
      if hostChars.isEmpty then return place (.name []) path
      else if isDrive hostChars then return place (.name []) rest
      else
        let host ← readSpecialHost hostChars
        return place (if host = .name "localhost".toList then .name [] else host) path
    else return place (.name []) cs
  | _ => return place (.name []) cs

/-- Read what follows a scheme. -/
def readAfterScheme (scheme : List Char) (cs : List Char) : Except Fault Url :=
  let sections := Sections.ofChars cs
  if isFile scheme then readFile scheme sections sections.front
  else if isSpecial scheme then
    readPlaced scheme sections (sections.front.dropWhile (isSlash true))
  else
    let u : Url := ⟨scheme, [], [], none, none, .plain [], none, none⟩
    match sections.front with
    | '/' :: '/' :: cs => readPlaced scheme sections cs
    | '/' :: cs => .ok (withSections { u with path := readSegments scheme cs } sections)
    | cs => .ok (withSections { u with path := .plain (encode isControl cs) } sections)

/-- Read a URL. -/
def read (s : String) : Except Fault Url :=
  match readScheme? (cleaned s) with
  | none => .error .relative
  | some (scheme, cs) => readAfterScheme scheme cs

/-- The text of a URL with its password masked; of a text that is no URL nothing is shown. -/
def redact (s : String) : String :=
  match read s with
  | .ok u => u.redacted.text
  | .error _ => String.ofList mask

end CardStore.Url
