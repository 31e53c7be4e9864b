namespace Reckoner.Text

abbrev Bytes := List UInt8

def bytesOf (s : String) : Bytes :=
  s.toUTF8.toList

/-- The character of a code point. Half of a surrogate pair is a code point and no character. -/
def char? (n : Nat) : Option Char :=
  if h : n.isValidChar then some (Char.ofNatAux n h) else none

def chars? : List Nat → Option (List Char)
  | [] => some []
  | n :: rest =>
    match char? n, chars? rest with
    | some c, some s => some (c :: s)
    | _, _ => none

/-- The character of a code point, with the replacement character for what is none. -/
def charOf (n : Nat) : Char :=
  (char? n).getD '\ufffd'

/-- A character of several bytes in progress: how many are to come, the value so far, and the least
value that needs this many bytes. -/
structure Pending where
  missing : Nat
  value : Nat
  least : Nat

inductive Lead where
  | whole (value : Nat)
  | start (pending : Pending)
  | invalid

def lead (b : Nat) : Lead :=
  if b < 0x80 then .whole b
  else if b < 0xC2 then .invalid
  else if b < 0xE0 then .start ⟨1, b - 0xC0, 0x80⟩
  else if b < 0xF0 then .start ⟨2, b - 0xE0, 0x800⟩
  else if b < 0xF5 then .start ⟨3, b - 0xF0, 0x10000⟩
  else .invalid

/-- The code points of UTF-8, which may also give halves of surrogate pairs. -/
def utf8From : Option Pending → Bytes → Option (List Nat)
  | none, [] => some []
  | some _, [] => none
  | none, b :: rest =>
    match lead b.toNat with
    | .whole n => (utf8From none rest).map (n :: ·)
    | .start p => utf8From (some p) rest
    | .invalid => none
  | some p, b :: rest =>
    if b.toNat < 0x80 || 0xC0 ≤ b.toNat then none
    else
      let value := 64 * p.value + (b.toNat - 0x80)
      if 1 < p.missing then utf8From (some ⟨p.missing - 1, value, p.least⟩) rest
      else if value < p.least || 0x10FFFF < value then none
      else (utf8From none rest).map (value :: ·)

def decodeUtf8 (bytes : Bytes) : Option (List Nat) :=
  utf8From none bytes

/-- A character in progress as a strict reader of UTF-8 sees it: how many bytes are to come, the value
so far, and the bounds of the next byte. -/
structure Strict where
  missing : Nat
  value : Nat
  low : Nat
  high : Nat

/-- What a first byte gives at once, and what it leaves in progress. -/
def beginStrict (b : Nat) : List Char × Option Strict :=
  if b < 0x80 then ([charOf b], none)
  else if b < 0xC2 then (['\ufffd'], none)
  else if b < 0xE0 then ([], some ⟨1, b - 0xC0, 0x80, 0xBF⟩)
  else if b < 0xF0 then
    ([], some ⟨2, b - 0xE0, if b = 0xE0 then 0xA0 else 0x80, if b = 0xED then 0x9F else 0xBF⟩)
  else if b < 0xF5 then
    ([], some ⟨3, b - 0xF0, if b = 0xF0 then 0x90 else 0x80, if b = 0xF4 then 0x8F else 0xBF⟩)
  else (['\ufffd'], none)

/-- UTF-8 with one replacement character for each stretch that begins no character or ends too soon. -/
def lenientFrom : Option Strict → Bytes → List Char
  | none, [] => []
  | some _, [] => ['\ufffd']
  | none, b :: rest => (beginStrict b.toNat).1 ++ lenientFrom (beginStrict b.toNat).2 rest
  | some p, b :: rest =>
    if p.low ≤ b.toNat && b.toNat ≤ p.high then
      let value := 64 * p.value + (b.toNat - 0x80)
      if p.missing ≤ 1 then charOf value :: lenientFrom none rest
      else lenientFrom (some ⟨p.missing - 1, value, 0x80, 0xBF⟩) rest
    else
      '\ufffd' :: (beginStrict b.toNat).1 ++ lenientFrom (beginStrict b.toNat).2 rest

def decodeLeniently (bytes : Bytes) : List Char :=
  lenientFrom none bytes

/-- Which byte of a unit comes first. -/
inductive ByteOrder where
  | big
  | little
  deriving DecidableEq

def units16 (order : ByteOrder) : Bytes → Option (List Nat)
  | [] => some []
  | [_] => none
  | a :: b :: rest =>
    let unit := match order with
      | .big => 256 * a.toNat + b.toNat
      | .little => 256 * b.toNat + a.toNat
    (units16 order rest).map (unit :: ·)

/-- Joins each surrogate pair into its code point; a half that has no other half beside it stays. -/
def joinPairs : List Nat → List Nat
  | [] => []
  | [a] => [a]
  | a :: b :: rest =>
    if 0xD800 ≤ a && a < 0xDC00 && 0xDC00 ≤ b && b < 0xE000 then
      (0x10000 + 1024 * (a - 0xD800) + (b - 0xDC00)) :: joinPairs rest
    else a :: joinPairs (b :: rest)
  termination_by units => units.length

def decodeUtf16 (order : ByteOrder) (bytes : Bytes) : Option (List Nat) :=
  (units16 order bytes).map joinPairs

def decodeUtf32 (order : ByteOrder) : Bytes → Option (List Nat)
  | [] => some []
  | a :: b :: c :: d :: rest =>
    let value (w x y z : UInt8) := ((w.toNat * 256 + x.toNat) * 256 + y.toNat) * 256 + z.toNat
    let unit := match order with
      | .big => value a b c d
      | .little => value d c b a
    if 0x10FFFF < unit then none else (decodeUtf32 order rest).map (unit :: ·)
  | _ => none

/-- The code points of bytes that say by a byte order mark, or by where their zeros stand, which form they
have; a text that opens with two ASCII characters is always told right. -/
def decodeMarked (bytes : Bytes) : Option (List Nat) :=
  match bytes with
  | 0x00 :: 0x00 :: 0xFE :: 0xFF :: rest => decodeUtf32 .big rest
  | 0xFF :: 0xFE :: 0x00 :: 0x00 :: rest => decodeUtf32 .little rest
  | 0xFE :: 0xFF :: rest => decodeUtf16 .big rest
  | 0xFF :: 0xFE :: rest => decodeUtf16 .little rest
  | 0xEF :: 0xBB :: 0xBF :: rest => decodeUtf8 rest
  | a :: b :: c :: d :: _ =>
    if a == 0 then (if b == 0 then decodeUtf32 .big bytes else decodeUtf16 .big bytes)
    else if b == 0 then
      (if c == 0 && d == 0 then decodeUtf32 .little bytes else decodeUtf16 .little bytes)
    else decodeUtf8 bytes
  | [a, b] =>
    if a == 0 then decodeUtf16 .big bytes
    else if b == 0 then decodeUtf16 .little bytes
    else decodeUtf8 bytes
  | _ => decodeUtf8 bytes

example : decodeMarked [0x7B, 0x7D] = some [0x7B, 0x7D] := by decide
example : decodeMarked [0x7B, 0, 0x7D, 0] = some [0x7B, 0x7D] := by decide +kernel
example : decodeUtf8 [0xC0, 0x80] = none := by decide

end Reckoner.Text
