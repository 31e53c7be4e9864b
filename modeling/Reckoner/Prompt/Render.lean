import Reckoner.Prompt.FieldName
import Reckoner.Prompt.Layout
import Reckoner.Prompt.Template

namespace Reckoner.Prompt

open Reckoner.Text

inductive RenderFault where
  | template (fault : TemplateFault)
  | path (fault : PathFault)
  | layout (fault : LayoutFault)
  | unknownConversion (c : Char)
  | nestedTooDeep
  deriving DecidableEq, Repr

def RenderFault.message : RenderFault → String
  | .template fault => fault.message
  | .path fault => fault.message
  | .layout fault => fault.message
  | .unknownConversion c =>
    "Unknown conversion specifier " ++
      if 32 < c.toNat && c.toNat < 127 then String.singleton c else "\\x" ++ hexText c.toNat
  | .nestedTooDeep => "Max string recursion exceeded"

/-- Fields may stand in the layout of a field, but not in theirs. -/
def nesting : Nat := 1

def convert (conversion : Option Char) (s : String) : Except RenderFault String :=
  match conversion with
  | none | some 's' => .ok s
  | some 'r' => .ok (quoted s)
  | some 'a' => .ok (quotedAscii s)
  | some c => .error (.unknownConversion c)

/-- The text of a field. `inner` fills the fields in its layout. -/
def renderField (inner : List Char → Except RenderFault (List Char)) (values : List (String × String))
    (f : Field) : Except RenderFault (List Char) := do
  let value ← (resolve values f.name).mapError .path
  let converted ← convert f.conversion value
  let layout ← if f.layout.contains '\x7b' then inner f.layout else pure f.layout
  (layOut layout converted.toList).mapError .layout

def renderPieces (field : Field → Except RenderFault (List Char)) :
    List Piece → Except RenderFault (List Char)
  | [] => .ok []
  | .literal s :: rest => do
    let after ← renderPieces field rest
    return s ++ after
  | .field f :: rest => do
    let s ← field f
    let after ← renderPieces field rest
    return s ++ after

/-- Fields are filled in order, so a fault in one is met before a fault in the text behind it. -/
def renderWith (field : Field → Except RenderFault (List Char)) (s : List Char) :
    Except RenderFault (List Char) := do
  let text ← renderPieces field (scan s).1
  match (scan s).2 with
  | some fault => .error (.template fault)
  | none => return text

/-- Fills a text in whose layouts fields may be nested so deep. A value is inserted as it is: braces in it are not
looked at. -/
def renderText (values : List (String × String)) : Nat → List Char → Except RenderFault (List Char)
  | 0, s => renderWith (renderField (fun _ => .error .nestedTooDeep) values) s
  | depth + 1, s => renderWith (renderField (renderText values depth) values) s

end Reckoner.Prompt
