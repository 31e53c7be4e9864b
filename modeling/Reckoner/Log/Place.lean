import Reckoner.Text.Digit

namespace Reckoner.Log

open Reckoner.Text

/-- The name of an argument. Brackets in it come in pairs. -/
inductive Key where
  | named (name : String)
  | unclosed
  deriving DecidableEq, Repr

/-- A count that stands in the message, or is taken from the arguments. -/
inductive Extent where
  | written (n : Nat)
  | given
  deriving DecidableEq, Repr

/-- A place has no kind if the message ends inside it. -/
structure Place where
  key : Option Key
  flags : List Char
  width : Option Extent
  precision : Option Extent
  kind : Option Char
  deriving DecidableEq, Repr

inductive Piece where
  | plain (c : Char)
  | place (p : Place) (kindAt : Nat)
  deriving DecidableEq, Repr

/-- A text up to the bracket that closes it, and what stands behind that. -/
def splitClosed (depth : Nat) : List Char → Option (List Char × List Char)
  | [] => none
  | ')' :: rest =>
    match depth with
    | 0 => some ([], rest)
    | d + 1 => (splitClosed d rest).map fun r => (')' :: r.1, r.2)
  | c :: rest =>
    (splitClosed (if c == '(' then depth + 1 else depth) rest).map fun r => (c :: r.1, r.2)

def readKey : List Char → Option Key × List Char
  | '(' :: rest =>
    match splitClosed 0 rest with
    | some (name, rest) => (some (.named (String.ofList name)), rest)
    | none => (some .unclosed, [])
  | s => (none, s)

def isFlag (c : Char) : Bool :=
  c == '-' || c == '+' || c == ' ' || c == '#' || c == '0'

def readExtent : List Char → Option Extent × List Char
  | '*' :: rest => (some .given, rest)
  | s =>
    let digits := s.takeWhile isAsciiDigit
    (if digits.isEmpty then none else some (.written (numberOf digits)), s.dropWhile isAsciiDigit)

/-- A point without a count behind it is the precision 0. -/
def readPrecision : List Char → Option Extent × List Char
  | '.' :: rest => (some ((readExtent rest).1.getD (.written 0)), (readExtent rest).2)
  | s => (none, s)

def dropSize : List Char → List Char
  | c :: rest => if c == 'h' || c == 'l' || c == 'L' then rest else c :: rest
  | [] => []

/-- The place behind a percent sign, and the rest of the message. -/
def readPlace (s : List Char) : Place × List Char :=
  let (key, s) := readKey s
  let flags := s.takeWhile isFlag
  let (width, s) := readExtent (s.dropWhile isFlag)
  let (precision, s) := readPrecision s
  let s := dropSize s
  (⟨key, flags, width, precision, s.head?⟩, s.tail)

theorem length_dropWhile_le (p : Char → Bool) (s : List Char) : (s.dropWhile p).length ≤ s.length :=
  (List.dropWhile_sublist p).length_le

theorem length_splitClosed {depth : Nat} {s : List Char} {r : List Char × List Char}
    (h : splitClosed depth s = some r) : r.2.length ≤ s.length := by
  fun_induction splitClosed depth s generalizing r with
  | case1 => simp at h
  | case2 rest => simp at h; simp [← h]
  | case3 rest d ih =>
    obtain ⟨q, hq, rfl⟩ := Option.map_eq_some_iff.1 h
    have := ih hq; simp; omega
  | case4 depth c rest _ ih =>
    obtain ⟨q, hq, rfl⟩ := Option.map_eq_some_iff.1 h
    have := ih hq; simp; omega

theorem length_readKey (s : List Char) : (readKey s).2.length ≤ s.length := by
  unfold readKey
  split
  · split
    · have := length_splitClosed (by assumption); simp at this ⊢; omega
    · simp
  · exact Nat.le_refl _

theorem length_readExtent (s : List Char) : (readExtent s).2.length ≤ s.length := by
  unfold readExtent
  split
  · simp
  · exact length_dropWhile_le _ _

theorem length_readPrecision (s : List Char) : (readPrecision s).2.length ≤ s.length := by
  unfold readPrecision
  split
  · have := length_readExtent (by assumption); simp; omega
  · exact Nat.le_refl _

theorem length_dropSize (s : List Char) : (dropSize s).length ≤ s.length := by
  unfold dropSize
  split
  · split <;> simp
  · exact Nat.le_refl _

theorem length_readPlace (s : List Char) : (readPlace s).2.length ≤ s.length := by
  have a := length_readKey s
  have b := length_dropWhile_le isFlag (readKey s).2
  have c := length_readExtent ((readKey s).2.dropWhile isFlag)
  have d := length_readPrecision (readExtent ((readKey s).2.dropWhile isFlag)).2
  have e := length_dropSize (readPrecision (readExtent ((readKey s).2.dropWhile isFlag)).2).2
  simp only [readPlace, List.length_tail]
  omega

/-- A message cut into the characters that stay and the places, counting characters from a position. -/
def piecesFrom (position : Nat) : List Char → List Piece
  | [] => []
  | '%' :: '%' :: rest => .plain '%' :: piecesFrom (position + 2) rest
  | '%' :: rest =>
    have := length_readPlace rest
    let used := rest.length - (readPlace rest).2.length
    .place (readPlace rest).1 (position + used) :: piecesFrom (position + 1 + used) (readPlace rest).2
  | c :: rest => .plain c :: piecesFrom (position + 1) rest
  termination_by s => s.length

def pieces (message : String) : List Piece :=
  piecesFrom 0 message.toList

end Reckoner.Log
