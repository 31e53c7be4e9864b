import Reckoner.Arithmetic.Fault
import Reckoner.Decimal.Layout
import Reckoner.Json.Value
import Reckoner.Text.Quoted

namespace Reckoner.Json

open Reckoner.Arithmetic (Oversize conversionLimit)
open Reckoner.Decimal Reckoner.Text

/-- Which characters are written as they are. -/
inductive Charset where
  | unicode
  | ascii
  deriving DecidableEq

def unitEscape (n : Nat) : List Char :=
  '\\' :: 'u' :: hexPad 4 n

/-- A character as the escape of its UTF-16 units. -/
def escapeUnits (c : Char) : List Char :=
  let n := c.toNat
  if n < 0x10000 then unitEscape n
  else unitEscape (0xD800 + (n - 0x10000) / 1024) ++ unitEscape (0xDC00 + (n - 0x10000) % 1024)

/-- Quotes, backslashes and controls are escaped always, characters outside ASCII on request. -/
def escapeChar (charset : Charset) (c : Char) : List Char :=
  if c == '"' || c == '\\' then ['\\', c]
  else if c == '\n' then ['\\', 'n']
  else if c == '\r' then ['\\', 'r']
  else if c == '\t' then ['\\', 't']
  else if c == '\x08' then ['\\', 'b']
  else if c == '\x0c' then ['\\', 'f']
  else if c.toNat < 32 then escapeUnits c
  else if charset == .ascii && 126 < c.toNat then escapeUnits c
  else [c]

def writeText (charset : Charset) (s : String) : String :=
  String.ofList ('"' :: s.toList.flatMap (escapeChar charset) ++ ['"'])

def numberText : Double → String :=
  Double.textWith "NaN" "Infinity"

mutual

/-- A value on one line, with a space behind each comma and colon, whatever the length of its numbers. -/
def spell (charset : Charset) : Value → String
  | .null => "null"
  | .bool b => if b then "true" else "false"
  | .int n => toString n
  | .real x => numberText x
  | .text s => writeText charset s
  | .list items => "[" ++ ", ".intercalate (spellItems charset items) ++ "]"
  | .object members => "\x7b" ++ ", ".intercalate (spellMembers charset members) ++ "\x7d"

def spellItems (charset : Charset) : List Value → List String
  | [] => []
  | v :: rest => spell charset v :: spellItems charset rest

def spellMembers (charset : Charset) : Members → List String
  | [] => []
  | (name, v) :: rest =>
    (writeText charset name ++ ": " ++ spell charset v) :: spellMembers charset rest

end

/-- Has a whole number no more digits than may be written? -/
def isShort (n : Int) : Bool :=
  n.natAbs < Nat.pow 10 conversionLimit

def writeWhole (n : Int) : Except Oversize String :=
  if isShort n then .ok (toString n) else .error .writing

/-- A value as text, unless a whole number in it has too many digits. -/
def write (charset : Charset) (v : Value) : Except Oversize String :=
  if v.wholes.all isShort then .ok (spell charset v) else .error .writing

example : spell .unicode (.object [("a", .list [.int 1, .null]), ("é\n", .text "\"")]) =
    "\x7b\"a\": [1, null], \"é\\n\": \"\\\"\"\x7d" := by cbv

end Reckoner.Json
