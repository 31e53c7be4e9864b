import Reckoner.Arithmetic.Fault
import Reckoner.Text.Digit

namespace Reckoner.Arithmetic

open Reckoner.Text

/-- Digits of the common set, the four operators, the point and the two parentheses. -/
def isArithmetic (c : Char) : Bool :=
  isAsciiDigit c || c == '+' || c == '-' || c == '*' || c == '/' || c == '(' || c == ')' || c == '.'

def sanitizeChars (s : List Char) : List Char :=
  s.filter isArithmetic

def sanitize (s : String) : String :=
  String.ofList (sanitizeChars s.toList)

inductive Operator where
  | add
  | sub
  | mul
  | div
  deriving DecidableEq, Repr

/-- The digits before the point, and those behind it if there is a point. -/
structure Number where
  whole : List Char
  fraction : Option (List Char)
  deriving DecidableEq, Repr

inductive Lexeme where
  | number (n : Number)
  | operator (o : Operator)
  | opening
  | closing
  deriving DecidableEq, Repr

structure Token where
  lexeme : Lexeme
  position : Nat
  deriving DecidableEq, Repr

def Operator.symbol : Operator → Char
  | .add => '+'
  | .sub => '-'
  | .mul => '*'
  | .div => '/'

def Operator.ofSymbol? : Char → Option Operator
  | '+' => some .add
  | '-' => some .sub
  | '*' => some .mul
  | '/' => some .div
  | _ => none

def pointChars : Option (List Char) → List Char
  | some digits => '.' :: digits
  | none => []

def Number.chars (n : Number) : List Char :=
  n.whole ++ pointChars n.fraction

def Lexeme.chars : Lexeme → List Char
  | .number n => n.chars
  | .operator o => [o.symbol]
  | .opening => ['(']
  | .closing => [')']

def Token.text (t : Token) : String :=
  String.ofList t.lexeme.chars

/-- A point and the digits behind it, if a point comes first. -/
def takePoint : List Char → Option (List Char) × List Char
  | '.' :: rest => (some (rest.takeWhile isDigit), rest.dropWhile isDigit)
  | s => (none, s)

/-- The longest token at the start of a text, and the rest of the text. -/
def Lexeme.next? : List Char → Option (Lexeme × List Char)
  | [] => none
  | '(' :: rest => some (.opening, rest)
  | ')' :: rest => some (.closing, rest)
  | c :: rest =>
    if isDigit c then
      let (fraction, after) := takePoint (rest.dropWhile isDigit)
      some (.number ⟨c :: rest.takeWhile isDigit, fraction⟩, after)
    else match Operator.ofSymbol? c with
      | some o => some (.operator o, rest)
      | none =>
        match c, rest with
        | '.', d :: rest =>
          if isDigit d then
            some (.number ⟨[], some (d :: rest.takeWhile isDigit)⟩, rest.dropWhile isDigit)
          else none
        | _, _ => none

theorem Operator.symbol_ofSymbol? {c : Char} {o : Operator} (h : ofSymbol? c = some o) :
    o.symbol = c := by
  unfold ofSymbol? at h
  split at h <;> simp_all [symbol] <;> subst h <;> rfl

theorem takePoint_append (s : List Char) : pointChars (takePoint s).1 ++ (takePoint s).2 = s := by
  unfold takePoint
  split <;> simp [pointChars, List.takeWhile_append_dropWhile]

/-- Nothing is lost: the token and the rest make up the text. -/
theorem Lexeme.next?_append {s rest : List Char} {l : Lexeme} (h : next? s = some (l, rest)) :
    l.chars ++ rest = s := by
  unfold next? at h
  split at h
  · simp at h
  · simp only [Option.some.injEq, Prod.mk.injEq] at h
    obtain ⟨rfl, rfl⟩ := h; rfl
  · simp only [Option.some.injEq, Prod.mk.injEq] at h
    obtain ⟨rfl, rfl⟩ := h; rfl
  · rename_i c tail _ _
    split at h
    · simp only [Option.some.injEq, Prod.mk.injEq] at h
      obtain ⟨rfl, rfl⟩ := h
      simp only [chars, Number.chars, List.cons_append, List.append_assoc]
      rw [takePoint_append, List.takeWhile_append_dropWhile]
    · split at h
      · rename_i o ho
        simp only [Option.some.injEq, Prod.mk.injEq] at h
        obtain ⟨rfl, rfl⟩ := h
        simp [chars, Operator.symbol_ofSymbol? ho]
      · split at h
        · split at h
          · simp only [Option.some.injEq, Prod.mk.injEq] at h
            obtain ⟨rfl, rfl⟩ := h
            simp [chars, Number.chars, pointChars, List.takeWhile_append_dropWhile]
          · simp at h
        · simp at h

theorem Lexeme.chars_ne_nil {s rest : List Char} {l : Lexeme} (h : next? s = some (l, rest)) :
    l.chars ≠ [] := by
  unfold next? at h
  split at h
  · simp at h
  · simp only [Option.some.injEq, Prod.mk.injEq] at h
    obtain ⟨rfl, rfl⟩ := h; simp [chars]
  · simp only [Option.some.injEq, Prod.mk.injEq] at h
    obtain ⟨rfl, rfl⟩ := h; simp [chars]
  · split at h
    · simp only [Option.some.injEq, Prod.mk.injEq] at h
      obtain ⟨rfl, rfl⟩ := h
      simp [chars, Number.chars]
    · split at h
      · simp only [Option.some.injEq, Prod.mk.injEq] at h
        obtain ⟨rfl, rfl⟩ := h
        simp [chars]
      · split at h
        · split at h
          · simp only [Option.some.injEq, Prod.mk.injEq] at h
            obtain ⟨rfl, rfl⟩ := h
            simp [chars, Number.chars, pointChars]
          · simp at h
        · simp at h

theorem Lexeme.next?_shorter {s rest : List Char} {l : Lexeme} (h : next? s = some (l, rest)) :
    rest.length < s.length := by
  have e := congrArg List.length (next?_append h)
  have n := List.length_pos_iff.mpr (chars_ne_nil h)
  rw [List.length_append] at e
  omega

/-- The tokens of a text that starts at a position, or the first character that starts none. -/
def tokensFrom (position : Nat) (s : List Char) : Except Fault (List Token) :=
  match s with
  | [] => .ok []
  | c :: rest =>
    match _h : Lexeme.next? (c :: rest) with
    | none => .error (.unexpectedCharacter c position)
    | some (lexeme, after) =>
      (tokensFrom (position + lexeme.chars.length) after).map (⟨lexeme, position⟩ :: ·)
  termination_by s.length
  decreasing_by exact Lexeme.next?_shorter (by assumption)

def tokens (s : List Char) : Except Fault (List Token) :=
  tokensFrom 0 s

end Reckoner.Arithmetic
