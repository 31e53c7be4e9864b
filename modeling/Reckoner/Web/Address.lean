import Reckoner.Text.Search
import Reckoner.Web.Percent

namespace Reckoner.Web

open Reckoner.Text

/-- The parts of an address on the web. -/
structure Address where
  scheme : List Char
  user : Option (List Char)
  host : List Char
  digits : List Char
  path : List Char
  query : Option (List Char)
  fragment : Option (List Char)
  deriving DecidableEq, Repr

def lowerChars (s : List Char) : List Char :=
  s.map Char.toLower

def isSchemeChar (c : Char) : Bool :=
  isAscii c && (c.isAlphanum || c == '+' || c == '.' || c == '-')

/-- A name and a colon in front, or a colon alone. -/
def takeScheme (s : List Char) : List Char × List Char :=
  match s.takeWhile isSchemeChar, s.dropWhile isSchemeChar with
  | [], ':' :: rest => ([], rest)
  | c :: name, ':' :: rest => if c.isAlpha then (c :: name, rest) else ([], s)
  | _, _ => ([], s)

/-- What stands before the last character of a kind, if there is one, and what after it. -/
def cutAtLast (mark : Char) (s : List Char) : Option (List Char) × List Char :=
  match cutAt (· == mark) s.reverse with
  | (after, some before) => (some before.reverse, after.reverse)
  | (_, none) => (none, s)

/-- A host and the digits behind its colon; a host in brackets may hold colons. -/
def takeHost (s : List Char) : List Char × List Char :=
  match s with
  | '[' :: _ =>
    match cutAtLast ']' s with
    | (some host, after) => (host ++ [']'], after.dropWhile (· == ':'))
    | (none, _) => let (host, digits) := cutAt (· == ':') s; (host, digits.getD [])
  | _ => let (host, digits) := cutAt (· == ':') s; (host, digits.getD [])

def Address.parse (s : List Char) : Address :=
  let (scheme, rest) := takeScheme s
  let (before, fragment) := cutAt (· == '#') rest
  let (before, query) := cutAt (· == '?') before
  let (authority, path) := match before with
    | '/' :: '/' :: rest => (rest.takeWhile (· != '/'), rest.dropWhile (· != '/'))
    | path => ([], path)
  let (user, place) := cutAtLast '@' authority
  let (host, digits) := takeHost place
  ⟨scheme, user, host, digits, path, query, fragment⟩

/-- The digits that a scheme implies. -/
def impliedDigits (scheme : List Char) : List Char :=
  match String.ofList scheme with
  | "http" | "ws" => "80".toList
  | "https" | "wss" => "443".toList
  | "ftp" => "21".toList
  | _ => []

/-- Takes away `.` segments, and `..` segments with what stands before them. -/
def dropDots (done : List (List Char)) : List (List Char) → List (List Char)
  | [] => done
  | ['.'] :: rest => dropDots done rest
  | ['.', '.'] :: rest =>
    dropDots (if done.isEmpty || done = [[]] then done else done.dropLast) rest
  | segment :: rest => dropDots (done ++ [segment]) rest

def joinSegments : List (List Char) → List Char
  | [] => []
  | [s] => s
  | s :: rest => s ++ '/' :: joinSegments rest

def normalizePath (path : List Char) : List Char :=
  let segments := splitAtAll (· == '/') path
  if segments.contains ['.'] || segments.contains ['.', '.'] then joinSegments (dropDots [] segments)
  else path

/-- Characters of a path that need no escape. -/
def isPathSafe (c : Char) : Bool :=
  32 < c.toNat && c.toNat < 127 && !"\"#<>?`\x7b\x7d".toList.contains c

def isQuerySafe (c : Char) : Bool :=
  32 < c.toNat && c.toNat < 127 && !"\"#<>".toList.contains c

def isFragmentSafe (c : Char) : Bool :=
  32 < c.toNat && c.toNat < 127 && !"\"<>`".toList.contains c

def isUserSafe (c : Char) : Bool :=
  isPathSafe c && !"/:;=@[\\]^|".toList.contains c

/-- Scheme and host in lower case, no digits behind the host that the scheme implies, no dot segments, and escapes
for what is not safe. -/
def Address.normalize (a : Address) : Address :=
  let scheme := lowerChars a.scheme
  { scheme
    user := a.user.map (escapeUnsafe fun c => isUserSafe c || c == ':')
    host := lowerChars a.host
    digits := if a.digits = impliedDigits scheme then [] else a.digits
    path := escapeUnsafe isPathSafe
      (if scheme.isEmpty && a.host.isEmpty then a.path else normalizePath a.path)
    query := a.query.map (escapeUnsafe isQuerySafe)
    fragment := a.fragment.map (escapeUnsafe isFragmentSafe) }

def marked (mark : Char) (s : Option (List Char)) : List Char :=
  match s with
  | some s => mark :: s
  | none => []

def Address.write (a : Address) : List Char :=
  let user := match a.user with
    | some u => u ++ ['@']
    | none => []
  let authority := user ++ a.host ++ (if a.digits.isEmpty then [] else ':' :: a.digits)
  (if a.scheme.isEmpty then [] else a.scheme ++ [':']) ++
    (if authority.isEmpty then [] else '/' :: '/' :: authority) ++
    a.path ++ marked '?' a.query ++ marked '#' a.fragment

/-- An address in its one written form. -/
def canonicalAddress (s : String) : String :=
  String.ofList (Address.parse s.toList).normalize.write

example : canonicalAddress "HTTP://Host:80/a/../b c" = "http://host/b%20c" := by decide +kernel

/-- What a reference asks a host for. -/
structure Target where
  path : List Char
  rawQuery : List Char

/-- A path below the root. -/
def rooted (path : List Char) : List Char :=
  '/' :: path.dropWhile (· == '/')

/-- Dot segments are resolved and unsafe characters escaped on the way out; escapes are resolved twice on the
way in. -/
def Target.ofReference (s : String) : Target :=
  let a := Address.parse s.toList
  let sent := normalizePath (rooted (escapeUnsafe isPathSafe a.path))
  ⟨unescape (unescape sent), escapeUnsafe isQuerySafe (a.query.getD [])⟩

example : (Target.ofReference "/a/./b%20c?x=1").path = "/a/b c".toList := by decide +kernel

end Reckoner.Web
