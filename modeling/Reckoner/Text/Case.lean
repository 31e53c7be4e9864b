import Reckoner.Text.CaseTable

namespace Reckoner.Text

def inRanges (table : List (Nat × Nat)) (c : Char) : Bool :=
  table.any fun r => r.1 ≤ c.toNat && c.toNat ≤ r.2

/-- Where the run that holds a character moves it; a character of no run stays. -/
def moveByRuns (runs : List (Nat × Nat × Nat × Int)) (c : Char) : Char :=
  let n := c.toNat
  match runs.find? fun (first, last, step, _) => first ≤ n && n ≤ last && (n - first) % step == 0 with
  | some (_, _, _, shift) => Char.ofNat (n + shift).toNat
  | none => c

/-- The lower case of a character other than capital sigma. -/
def lowerChar (c : Char) : List Char :=
  if c == '\u0130' then ['i', '\u0307'] else [moveByRuns lowerRuns c]

/-- Is the nearest character that is not passed over a cased one? -/
def meetsCased (s : List Char) : Bool :=
  match s.dropWhile (inRanges caseIgnorable) with
  | c :: _ => inRanges casedRanges c
  | [] => false

/-- A capital sigma that ends a word becomes the final letter. -/
def lowerSigma (before after : List Char) : Char :=
  if meetsCased before && !meetsCased after then '\u03c2' else '\u03c3'

/-- Lower case after the characters `before`, the last of them first. -/
def lowerFrom (before : List Char) : List Char → List Char
  | [] => []
  | c :: rest =>
    (if c == '\u03a3' then [lowerSigma before rest] else lowerChar c) ++ lowerFrom (c :: before) rest

def lowerChars (s : List Char) : List Char :=
  lowerFrom [] s

def lower (s : String) : String :=
  String.ofList (lowerChars s.toList)

def upperChar (c : Char) : List Char :=
  match upperWords.find? fun w => w.1 == c.toNat with
  | some (_, word) => word.map Char.ofNat
  | none => [moveByRuns upperRuns c]

def upper (s : String) : String :=
  String.ofList (s.toList.flatMap upperChar)

/-- The lower case of the ASCII letters alone. -/
def lowerAscii (s : String) : String :=
  String.ofList (s.toList.map Char.toLower)

end Reckoner.Text
