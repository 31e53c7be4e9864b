import Reckoner.Arithmetic.Reader
import Mathlib.Data.List.Chain

namespace Reckoner.Arithmetic

open Reckoner.Text

/-- The repetitions of the grammar are nested to the left, which is how its operators associate. -/
inductive Phrase where
  | expression
  | term
  | unary
  | primary

/-- A derivation of a phrase: one constructor for each way in which the grammar forms one. -/
inductive Tree : Phrase → Type where
  | term (t : Tree .term) : Tree .expression
  | add (e : Tree .expression) (t : Tree .term) : Tree .expression
  | sub (e : Tree .expression) (t : Tree .term) : Tree .expression
  | unary (u : Tree .unary) : Tree .term
  | mul (t : Tree .term) (u : Tree .unary) : Tree .term
  | div (t : Tree .term) (u : Tree .unary) : Tree .term
  | minus (u : Tree .unary) : Tree .unary
  | primary (p : Tree .primary) : Tree .unary
  | number (n : Number) : Tree .primary
  | parens (e : Tree .expression) : Tree .primary

namespace Tree

/-- The lexemes that a tree derives. -/
def lexemes : {p : Phrase} → Tree p → List Lexeme
  | _, .term t => t.lexemes
  | _, .add e t => e.lexemes ++ .operator .add :: t.lexemes
  | _, .sub e t => e.lexemes ++ .operator .sub :: t.lexemes
  | _, .unary u => u.lexemes
  | _, .mul t u => t.lexemes ++ .operator .mul :: u.lexemes
  | _, .div t u => t.lexemes ++ .operator .div :: u.lexemes
  | _, .minus u => .operator .sub :: u.lexemes
  | _, .primary p => p.lexemes
  | _, .number n => [.number n]
  | _, .parens e => .opening :: (e.lexemes ++ [.closing])

/-- The value of a tree, unless a division in it is one by zero. -/
def value {α : Type} (a : Scalars α) : {p : Phrase} → Tree p → Option α
  | _, .term t => t.value a
  | _, .add e t => do return a.add (← e.value a) (← t.value a)
  | _, .sub e t => do return a.sub (← e.value a) (← t.value a)
  | _, .unary u => u.value a
  | _, .mul t u => do return a.mul (← t.value a) (← u.value a)
  | _, .div t u => do
    let x ← t.value a
    let y ← u.value a
    if a.isZero y then none else some (a.div x y)
  | _, .minus u => (u.value a).map a.neg
  | _, .primary p => p.value a
  | _, .number n => some (a.ofNumber n)
  | _, .parens e => e.value a

theorem lexemes_ne_nil {p : Phrase} (t : Tree p) : t.lexemes ≠ [] := by
  induction t with
  | term t ih | unary t ih | primary t ih => exact ih
  | add e t | sub e t | mul e t | div e t => simp [lexemes]
  | minus u | number n | parens e => simp [lexemes]

end Tree

/-- Digits with an optional point and an optional fraction, or a point followed by digits. -/
def Number.WellFormed (n : Number) : Prop :=
  (n.whole ≠ [] ∧ (∀ c ∈ n.whole, isDigit c = true) ∧ ∀ f ∈ n.fraction, ∀ c ∈ f, isDigit c = true) ∨
    (n.whole = [] ∧ ∃ f, n.fraction = some f ∧ f ≠ [] ∧ ∀ c ∈ f, isDigit c = true)

def Lexeme.WellFormed : Lexeme → Prop
  | .number n => n.WellFormed
  | _ => True

/-- Some way to split a text into lexemes, each of which is one of the grammar's. -/
def Spells (ls : List Lexeme) (s : List Char) : Prop :=
  (∀ l ∈ ls, l.WellFormed) ∧ ls.flatMap Lexeme.chars = s

theorem spells_nil : Spells [] [] := ⟨by simp, rfl⟩

theorem Spells.cons {l : Lexeme} {ls : List Lexeme} {s : List Char} (hl : l.WellFormed)
    (hs : Spells ls s) : Spells (l :: ls) (l.chars ++ s) := by
  refine ⟨?_, ?_⟩
  · intro x hx
    rcases List.mem_cons.mp hx with rfl | hx
    · exact hl
    · exact hs.1 x hx
  · rw [List.flatMap_cons, hs.2]

def Lexeme.isNumber : Lexeme → Bool
  | .number _ => true
  | _ => false

/-- No two numbers stand next to each other. -/
def NumbersApart (ls : List Lexeme) : Prop :=
  ls.IsChain fun l m => l.isNumber = false ∨ m.isNumber = false

theorem NumbersApart.around {x y : List Lexeme} {l : Lexeme} (hl : l.isNumber = false)
    (hx : NumbersApart x) (hy : NumbersApart y) : NumbersApart (x ++ l :: y) := by
  refine List.isChain_append.mpr ⟨hx, ?_, ?_⟩
  · refine List.isChain_cons.mpr ⟨?_, hy⟩
    intro m _
    exact Or.inl hl
  · intro a _ m hm
    have h : m = l := by simpa using hm.symm
    exact Or.inr (h ▸ hl)

/-- Between two numbers of an expression there is always an operator or a parenthesis. -/
theorem Tree.numbersApart {p : Phrase} (t : Tree p) : NumbersApart t.lexemes := by
  induction t with
  | term t ih | unary t ih | primary t ih => exact ih
  | add e t he ht | sub e t he ht | mul e t he ht | div e t he ht => exact he.around rfl ht
  | minus u ih => exact NumbersApart.around (x := []) rfl List.isChain_nil ih
  | number n => exact List.isChain_singleton _
  | parens e ih =>
    have closed : NumbersApart (e.lexemes ++ [.closing]) := ih.around rfl List.isChain_nil
    exact NumbersApart.around (x := []) rfl List.isChain_nil closed

end Reckoner.Arithmetic
