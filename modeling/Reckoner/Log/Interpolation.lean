import Reckoner.Log.Place
import Reckoner.Log.Slot

namespace Reckoner.Log

open Reckoner.Json

inductive FillFault where
  | tooFew
  | tooMany
  | incomplete
  | noNames
  | unclosedName
  | unknownName (name : String)
  | hugeWidth
  | hugePrecision
  | noCount
  | countBeyond (word : String)
  | unknown (c : Char) (position : Nat)
  | value (fault : SlotFault)
  deriving DecidableEq, Repr

def hexOf (c : Char) : String :=
  String.ofList (Nat.toDigits 16 c.toNat)

def FillFault.message : FillFault → String
  | .tooFew => "not enough arguments for format string"
  | .tooMany => "not all arguments converted during string formatting"
  | .incomplete => "incomplete format"
  | .noNames => "format requires a mapping"
  | .unclosedName => "incomplete format key"
  | .unknownName name => Text.quoted name
  | .hugeWidth => "width too big"
  | .hugePrecision => "precision too big"
  | .noCount => "* wants int"
  | .countBeyond word => "Python int too large to convert to C " ++ word
  | .unknown c p =>
    let shown := if 31 ≤ c.toNat && c.toNat < 127 then c else '?'
    "unsupported format character '" ++ String.singleton shown ++ "' (0x" ++ hexOf c ++ ") at index " ++
      toString p
  | .value fault => fault.message

/-- Arguments that are left, and the members that places may name. -/
structure Supply where
  members : Option Members
  values : List Value

def Supply.ofArgs : List Value → Supply
  | [.object (m :: rest)] => ⟨some (m :: rest), [.object (m :: rest)]⟩
  | values => ⟨none, values⟩

def Supply.next (s : Supply) : Except FillFault (Value × Supply) :=
  match s.values with
  | [] => .error .tooFew
  | v :: rest => .ok (v, { s with values := rest })

/-- A named place is filled with the member of its name alone. -/
def Supply.choose (s : Supply) : Option Key → Except FillFault Supply
  | none => .ok s
  | some key =>
    match s.members, key with
    | none, _ => .error .noNames
    | some _, .unclosed => .error .unclosedName
    | some members, .named name =>
      match members.lookup name with
      | some v => .ok ⟨some members, [v]⟩
      | none => .error (.unknownName name)

/-- The bound of a count: it fits a signed word of so many bits. -/
structure Bound where
  bits : Nat
  word : String
  huge : FillFault

def widthBound : Bound := ⟨64, "ssize_t", .hugeWidth⟩

def precisionBound : Bound := ⟨32, "int", .hugePrecision⟩

def Supply.count (s : Supply) (b : Bound) : Option Extent → Except FillFault (Option Int × Supply)
  | none => .ok (none, s)
  | some (.written n) => if Nat.pow 2 (b.bits - 1) ≤ n then .error b.huge else .ok (some n, s)
  | some .given => do
    let (v, s) ← s.next
    match whole? v with
    | none => throw .noCount
    | some n =>
      if n < -(Nat.pow 2 (b.bits - 1) : Nat) || (Nat.pow 2 (b.bits - 1) : Nat) ≤ n then
        throw (.countBeyond b.word)
      return (some n, s)

/-- A negative width fills on the right; a negative precision is 0. -/
def slotOf (flags : List Char) (width precision : Option Int) (letter : Char) : Slot :=
  let width := width.getD 0
  ⟨if width < 0 then '-' :: flags else flags, width.natAbs, precision.map Int.toNat, letter⟩

def fillPlace (p : Place) (kindAt : Nat) (s : Supply) : Except FillFault (String × Supply) := do
  let s ← s.choose p.key
  let (width, s) ← s.count widthBound p.width
  let (precision, s) ← s.count precisionBound p.precision
  match p.kind with
  | none => throw .incomplete
  | some c =>
    let (v, s) ← s.next
    match Kind.ofChar? c with
    | none => throw (.unknown c kindAt)
    | some kind =>
      let text ← ((slotOf p.flags width precision c).write kind v).mapError .value
      return (text, s)

/-- Fills places from the left. All values in order are to be used; members need not be. -/
def fillPieces : List Piece → Supply → Except FillFault (List Char)
  | [], s => if s.members.isNone && !s.values.isEmpty then .error .tooMany else .ok []
  | .plain c :: rest, s => (fillPieces rest s).map (c :: ·)
  | .place p kindAt :: rest, s => do
    let (text, s) ← fillPlace p kindAt s
    return text.toList ++ (← fillPieces rest s)

/-- A message with its places filled; one without arguments is taken as it is. -/
def fill (message : String) (args : List Value) : Except FillFault String :=
  if args.isEmpty then .ok message
  else (fillPieces (pieces message) (.ofArgs args)).map String.ofList

example : (fill "%-4s|%04d%%" [.text "ab", .int (-7)]).toOption = some "ab  |-007%" := by
  decide +kernel
example : (fill "%(n)x" [.object [("n", .int 255)]]).toOption = some "ff" := by decide +kernel
example : (fill "%s" [.text "a", .text "b"]).toOption = none := by decide +kernel

end Reckoner.Log
