namespace Reckoner.Prompt

/-- A field in braces: a name, a conversion behind `!` and a layout behind `:`, in which braces may be nested. -/
structure Field where
  name : List Char
  conversion : Option Char
  layout : List Char
  deriving DecidableEq, Repr

inductive Piece where
  | literal (s : List Char)
  | field (f : Field)
  deriving DecidableEq, Repr

inductive TemplateFault where
  | singleOpening
  | singleClosing
  | openingInName
  | unclosedName
  | missingConversion
  | strayAfterConversion
  | unclosedLayout
  deriving DecidableEq, Repr

def TemplateFault.message : TemplateFault → String
  | .singleOpening => "Single '\x7b' encountered in format string"
  | .singleClosing => "Single '\x7d' encountered in format string"
  | .openingInName => "unexpected '\x7b' in field name"
  | .unclosedName => "expected '\x7d' before end of string"
  | .missingConversion => "end of string while looking for conversion specifier"
  | .strayAfterConversion => "expected ':' after conversion specifier"
  | .unclosedLayout => "unmatched '\x7b' in format spec"

/-- Where a scan stands. Texts in progress are held in reverse. -/
inductive Scan where
  | literal (s : List Char)
  | opening (literal : List Char)
  | closing (literal : List Char)
  | name (s : List Char)
  | bracket (name : List Char)
  | conversion (name : List Char)
  | converted (name : List Char) (conv : Char)
  | layout (name : List Char) (conv : Option Char) (s : List Char) (depth : Nat)
  deriving DecidableEq, Repr

namespace Scan

def start : Scan := .literal []

def literalPiece (s : List Char) : List Piece :=
  if s.isEmpty then [] else [.literal s.reverse]

def fieldPiece (name : List Char) (conv : Option Char) (layout : List Char) : List Piece :=
  [.field ⟨name.reverse, conv, layout.reverse⟩]

/-- A character of a name. -/
def stepName (s : List Char) (c : Char) : Except TemplateFault (List Piece × Scan) :=
  if c = '\x7b' then .error .openingInName
  else if c = '\x7d' then .ok (fieldPiece s none [], .literal [])
  else if c = '[' then .ok ([], .bracket (c :: s))
  else if c = '!' then .ok ([], .conversion s)
  else if c = ':' then .ok ([], .layout s none [] 0)
  else .ok ([], .name (c :: s))

/-- Reads one character: the pieces that it completes, and where the scan stands then. -/
def step (c : Char) : Scan → Except TemplateFault (List Piece × Scan)
  | .literal s =>
    if c = '\x7b' then .ok ([], .opening s)
    else if c = '\x7d' then .ok ([], .closing s)
    else .ok ([], .literal (c :: s))
  | .opening s =>
    if c = '\x7b' then .ok ([], .literal (c :: s))
    else (stepName [] c).map fun (pieces, next) => (literalPiece s ++ pieces, next)
  | .closing s => if c = '\x7d' then .ok ([], .literal (c :: s)) else .error .singleClosing
  | .name s => stepName s c
  | .bracket s => if c = ']' then .ok ([], .name (c :: s)) else .ok ([], .bracket (c :: s))
  | .conversion s => .ok ([], .converted s c)
  | .converted s conv =>
    if c = '\x7d' then .ok (fieldPiece s (some conv) [], .literal [])
    else if c = ':' then .ok ([], .layout s (some conv) [] 0)
    else .error .strayAfterConversion
  | .layout s conv l depth =>
    if c = '\x7b' then .ok ([], .layout s conv (c :: l) (depth + 1))
    else if c = '\x7d' then
      match depth with
      | 0 => .ok (fieldPiece s conv l, .literal [])
      | depth + 1 => .ok ([], .layout s conv (c :: l) depth)
    else .ok ([], .layout s conv (c :: l) depth)

/-- The last piece when no character is left. -/
def finish : Scan → Except TemplateFault (List Piece)
  | .literal s => .ok (literalPiece s)
  | .opening _ => .error .singleOpening
  | .closing _ => .error .singleClosing
  | .name _ | .bracket _ => .error .unclosedName
  | .conversion _ => .error .missingConversion
  | .converted .. | .layout .. => .error .unclosedLayout

/-- What a text completes before it ends or goes wrong. -/
def run : Scan → List Char → List Piece × Option TemplateFault
  | s, [] =>
    match s.finish with
    | .ok pieces => (pieces, none)
    | .error fault => ([], some fault)
  | s, c :: rest =>
    match s.step c with
    | .ok (pieces, next) => (pieces ++ (run next rest).1, (run next rest).2)
    | .error fault => ([], some fault)

end Scan

/-- The pieces of a template up to its end or its first fault. -/
def scan (s : List Char) : List Piece × Option TemplateFault :=
  Scan.start.run s

def parse (s : List Char) : Except TemplateFault (List Piece) :=
  match scan s with
  | (pieces, none) => .ok pieces
  | (_, some fault) => .error fault

/-- The names of the fields that have one, in order. -/
def fieldNames (pieces : List Piece) : List (List Char) :=
  pieces.filterMap fun
    | .field f => if f.name.isEmpty then none else some f.name
    | .literal _ => none

example : (parse "a\x7b\x7b\x7bx!r:>5\x7d".toList).toOption =
    some [.literal ['a', '\x7b'], .field ⟨['x'], some 'r', ['>', '5']⟩] := by decide

end Reckoner.Prompt
