/-
  CardStore.Url.Basic
  ───────────────────
  **URLS.**

  A URL in parts, each already in the characters in which it is written, and
  its text.  Where a password must not be seen, three asterisks stand in its
  place.

  Main statement:
    * `redacted_eq` — URLs that differ in nothing but their passwords look the
      same when redacted.
-/
import CardStore.Url.Host

namespace CardStore

/-- The path of a URL. -/
inductive Url.Path where
  /-- Any text, of a URL that names no place. -/
  | plain (cs : List Char)
  /-- Segments, each with a slash before it. -/
  | segments (segs : List (List Char))
  deriving DecidableEq, Repr

/-- A URL. -/
structure Url where
  scheme : List Char
  username : List Char
  /-- Empty if there is none. -/
  password : List Char
  /-- Where the URL leads; none if it has no such part. -/
  host : Option Url.Host
  /-- The port, unless it is the usual one of the scheme. -/
  port : Option Nat
  path : Url.Path
  query : Option (List Char)
  fragment : Option (List Char)
  deriving DecidableEq, Repr

namespace Url

/-! ## §1. Schemes. -/

/-- The usual port of a special scheme. -/
def usualPort? (scheme : List Char) : Option Nat :=
  match String.ofList scheme with
  | "http" | "ws" => some 80
  | "https" | "wss" => some 443
  | "ftp" => some 21
  | _ => none

/-- The scheme of files, which are on the host itself if none is named. -/
def isFile (scheme : List Char) : Bool := scheme == "file".toList

/-- Whether a scheme has hosts that are domains, and paths that are never empty. -/
def isSpecial (scheme : List Char) : Bool := (usualPort? scheme).isSome || isFile scheme

/-! ## §2. Text. -/

/-- The user name and the password before a host. -/
def credentials (u : Url) : List Char :=
  if u.username.isEmpty && u.password.isEmpty then []
  else u.username ++ (if u.password.isEmpty then [] else ':' :: u.password) ++ ['@']

def portText : Option Nat → List Char
  | none => []
  | some n => ':' :: Text.digitChars n

def Path.text : Path → List Char
  | .plain cs => cs
  | .segments segs => segs.flatMap ('/' :: ·)

/-- A part with a mark before it, if it is there. -/
def marked (mark : Char) : Option (List Char) → List Char
  | none => []
  | some cs => mark :: cs

/-- What stands between the scheme and the path.  Without a host, a path whose first segment is
empty is kept from looking like one. -/
def authorityText (u : Url) : List Char :=
  match u.host, u.path with
  | some h, _ => "//".toList ++ u.credentials ++ h.text ++ portText u.port
  | none, .segments ([] :: _ :: _) => "/.".toList
  | none, _ => []

/-- The text of a URL. -/
def text (u : Url) : String :=
  String.ofList
    (u.scheme ++ ':' :: (u.authorityText ++ u.path.text ++ marked '?' u.query ++ marked '#' u.fragment))

/-! ## §3. Passwords. -/

/-- What stands in place of a password. -/
def mask : List Char := "***".toList

/-- The URL with its password masked. -/
def redacted (u : Url) : Url := if u.password.isEmpty then u else { u with password := mask }

theorem redacted_eq (u : Url) (p q : List Char) (hp : p ≠ []) (hq : q ≠ []) :
    { u with password := p }.redacted = { u with password := q }.redacted := by
  simp [redacted, hp, hq]

/-- Whether the URL names a host. -/
def hasHost (u : Url) : Bool :=
  match u.host with
  | none | some (.name []) => false
  | some _ => true

end Url

end CardStore
