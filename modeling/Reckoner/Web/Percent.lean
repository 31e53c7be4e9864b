import Reckoner.Json.Reader
import Reckoner.Text.Encoding
import Reckoner.Text.Quoted

namespace Reckoner.Web

open Reckoner.Text

/-- The bytes of ASCII text with its escapes resolved; a percent sign without two digits stays. -/
def unescapeBytes : List Char → Bytes
  | '%' :: a :: b :: rest =>
    match Json.hexValue? a, Json.hexValue? b with
    | some x, some y => (16 * x + y).toUInt8 :: unescapeBytes rest
    | _, _ => 0x25 :: unescapeBytes (a :: b :: rest)
  | c :: rest => c.toNat.toUInt8 :: unescapeBytes rest
  | [] => []
  termination_by s => s.length

def isAscii (c : Char) : Bool :=
  c.toNat < 128

/-- Resolves escapes. A character outside ASCII stands for itself and parts the escapes around it. -/
def unescape (s : List Char) : List Char :=
  match s with
  | [] => []
  | c :: rest =>
    if isAscii c then
      decodeLeniently (unescapeBytes (c :: rest.takeWhile isAscii)) ++ unescape (rest.dropWhile isAscii)
    else c :: unescape rest
  termination_by s.length
  decreasing_by
    · have : (rest.dropWhile isAscii).length ≤ rest.length := (List.dropWhile_suffix _).length_le
      simp only [List.length_cons]
      omega
    · simp

def upperHex (n : Nat) : Char :=
  (hexDigit n).toUpper

def escapeByte (b : UInt8) : List Char :=
  ['%', upperHex (b.toNat / 16), upperHex b.toNat]

/-- A character as the escapes of its bytes. -/
def escapeChar (c : Char) : List Char :=
  (bytesOf (String.singleton c)).flatMap escapeByte

def escapesHex (a b : Char) : Bool :=
  (Json.hexValue? a).isSome && (Json.hexValue? b).isSome

/-- Escapes what is not safe; what already is an escape stays. -/
def escapeUnsafe (safe : Char → Bool) : List Char → List Char
  | '%' :: a :: b :: rest =>
    if escapesHex a b then '%' :: a :: b :: escapeUnsafe safe rest
    else escapeChar '%' ++ escapeUnsafe safe (a :: b :: rest)
  | c :: rest => (if safe c then [c] else escapeChar c) ++ escapeUnsafe safe rest
  | [] => []
  termination_by s => s.length

/-- Letters and digits of ASCII and the marks that never need an escape. -/
def isUnreserved (c : Char) : Bool :=
  isAscii c && (c.isAlphanum || "-._~".toList.contains c)

end Reckoner.Web
