import Reckoner.Text.Printable

namespace Reckoner.Text

def hexDigit (n : Nat) : Char :=
  Nat.digitChar (n % 16)

/-- The last `width` hexadecimal digits of a number. -/
def hexPad : Nat → Nat → List Char
  | 0, _ => []
  | width + 1, n => hexPad width (n / 16) ++ [hexDigit n]

/-- A code point by number, in the shortest of three widths. -/
def escapeCode (c : Char) : List Char :=
  let n := c.toNat
  if n < 0x100 then '\\' :: 'x' :: hexPad 2 n
  else if n < 0x10000 then '\\' :: 'u' :: hexPad 4 n
  else '\\' :: 'U' :: hexPad 8 n

def quotedChar (plain : Char → Bool) (mark c : Char) : List Char :=
  if c == mark || c == '\\' then ['\\', c]
  else if c == '\n' then ['\\', 'n']
  else if c == '\r' then ['\\', 'r']
  else if c == '\t' then ['\\', 't']
  else if plain c then [c]
  else escapeCode c

def quoteMark (s : List Char) : Char :=
  if s.contains '\'' && !s.contains '"' then '"' else '\''

def quotedBy (plain : Char → Bool) (s : String) : String :=
  let mark := quoteMark s.toList
  String.ofList (mark :: s.toList.flatMap (quotedChar plain mark) ++ [mark])

/-- A text inside apostrophes, or inside double quotes if it holds apostrophes and no double quote; what would not
print is written as an escape. -/
def quoted (s : String) : String :=
  quotedBy isPrintable s

/-- A quoted text in which every character outside ASCII is an escape. -/
def quotedAscii (s : String) : String :=
  quotedBy (fun c => c.toNat < 128 && isPrintable c) s

/-- A text that is already quoted, with its characters outside ASCII escaped. -/
def escapeBeyondAscii (s : String) : String :=
  String.ofList (s.toList.flatMap fun c => if c.toNat < 128 then [c] else escapeCode c)

/-- Texts in a bracketed row. -/
def quotedList (texts : List String) : String :=
  "[" ++ ", ".intercalate (texts.map quoted) ++ "]"

end Reckoner.Text
