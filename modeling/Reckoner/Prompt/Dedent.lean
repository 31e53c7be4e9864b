import Reckoner.Text.Search

namespace Reckoner.Prompt

open Reckoner.Text

abbrev Line := List Char

def isIndent (c : Char) : Bool :=
  c == ' ' || c == '\t'

def lines (s : List Char) : List Line :=
  splitAtAll (· == '\n') s

def unlines : List Line → List Char
  | [] => []
  | [l] => l
  | l :: rest => l ++ '\n' :: unlines rest

def clearBlankLine (l : Line) : Line :=
  if l.all isIndent then [] else l

/-- The longest text that both begin with. -/
def commonStart : List Char → List Char → List Char
  | a :: s, b :: t => if a = b then a :: commonStart s t else []
  | _, _ => []

/-- The indentation that all lines share, the empty lines aside. -/
def margin (ls : List Line) : List Char :=
  match (ls.filter (!·.isEmpty)).map (·.takeWhile isIndent) with
  | [] => []
  | first :: rest => rest.foldl commonStart first

def dedentLines (ls : List Line) : List Line :=
  let cleared := ls.map clearBlankLine
  cleared.map (·.drop (margin cleared).length)

/-- Takes the common margin of spaces and tabs off the lines of a text. Lines of spaces and tabs alone become empty
and do not count for the margin. -/
def dedent (s : List Char) : List Char :=
  unlines (dedentLines (lines s))

theorem commonStart_startsBoth (s t : List Char) : commonStart s t <+: s ∧ commonStart s t <+: t := by
  induction s generalizing t with
  | nil => simp [commonStart]
  | cons a s ih =>
    cases t with
    | nil => simp [commonStart]
    | cons b t =>
      by_cases h : a = b
      · subst h
        simpa [commonStart] using ih t
      · simp [commonStart, h]

end Reckoner.Prompt
