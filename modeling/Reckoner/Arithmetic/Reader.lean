import Reckoner.Arithmetic.Token

namespace Reckoner.Arithmetic

/-- What is computed with: a number for each literal, the four operations and negation. -/
structure Scalars (α : Type) where
  ofNumber : Number → α
  add : α → α → α
  sub : α → α → α
  mul : α → α → α
  div : α → α → α
  neg : α → α
  isZero : α → Bool

/-- A sum that waits for a term, or a product that waits for a factor. -/
structure Half (α : Type) where
  value : α
  inverse : Bool

/-- What waits for the next operand on one level of parentheses. -/
structure Level (α : Type) where
  sum : Option (Half α)
  product : Option (Half α)
  minuses : Nat

/-- The level on which nothing waits. -/
def Level.fresh {α : Type} : Level α := ⟨none, none, 0⟩

/-- The levels outside the innermost open parenthesis, each with the place of the one it was left at. -/
abbrev Outer (α : Type) := List (Nat × Level α)

/-- An operand comes next, or one has been read and an operator comes next. -/
inductive State (α : Type) where
  | operand (level : Level α) (outer : Outer α)
  | operator (sum : Option (Half α)) (term : α) (outer : Outer α)

namespace State

variable {α : Type}

def start : State α := .operand .fresh []

/-- The sum so far with a term added to it. -/
def total (a : Scalars α) (sum : Option (Half α)) (term : α) : α :=
  match sum with
  | none => term
  | some ⟨left, false⟩ => a.add left term
  | some ⟨left, true⟩ => a.sub left term

/-- A primary has been read: its minus signs apply, then it joins the product that waits for it. -/
def finish (a : Scalars α) (level : Level α) (outer : Outer α) (primary : α) :
    Except Fault (State α) :=
  let factor := Nat.repeat a.neg level.minuses primary
  match level.product with
  | none => .ok (.operator level.sum factor outer)
  | some ⟨left, false⟩ => .ok (.operator level.sum (a.mul left factor) outer)
  | some ⟨left, true⟩ =>
    if a.isZero factor then .error .divisionByZero
    else .ok (.operator level.sum (a.div left factor) outer)

/-- A token that cannot stand after an operand. -/
def misplaced (t : Token) (outer : Outer α) : Fault :=
  match outer with
  | [] => .unexpectedToken t.text t.position
  | (opening, _) :: _ => .unclosed opening

/-- Reads one token. An expression is terms joined by `+` or `-`, a term is unaries joined by `*` or `/`, a unary is
minus signs and a primary, and a primary is a number or an expression in parentheses; all operations associate to the
left. Every token is judged as soon as it is read, and a division fails as soon as its divisor is known. -/
def step (a : Scalars α) (t : Token) : State α → Except Fault (State α)
  | .operand level outer =>
    match t.lexeme with
    | .number n => finish a level outer (a.ofNumber n)
    | .operator .sub => .ok (.operand { level with minuses := level.minuses + 1 } outer)
    | .opening => .ok (.operand .fresh ((t.position, level) :: outer))
    | _ => .error (.unexpectedToken t.text t.position)
  | .operator sum term outer =>
    match t.lexeme with
    | .operator .mul => .ok (.operand ⟨sum, some ⟨term, false⟩, 0⟩ outer)
    | .operator .div => .ok (.operand ⟨sum, some ⟨term, true⟩, 0⟩ outer)
    | .operator .add => .ok (.operand ⟨some ⟨total a sum term, false⟩, none, 0⟩ outer)
    | .operator .sub => .ok (.operand ⟨some ⟨total a sum term, true⟩, none, 0⟩ outer)
    | .closing =>
      match outer with
      | (_, level) :: outer => finish a level outer (total a sum term)
      | [] => .error (misplaced t outer)
    | _ => .error (misplaced t outer)

def run (a : Scalars α) : State α → List Token → Except Fault (State α)
  | s, [] => .ok s
  | s, t :: rest => do run a (← step a t s) rest

/-- The value when no token is left. -/
def value (a : Scalars α) : State α → Except Fault α
  | .operand _ _ => .error .unexpectedEnd
  | .operator _ _ ((opening, _) :: _) => .error (.unclosed opening)
  | .operator sum term [] => .ok (total a sum term)

theorem run_append (a : Scalars α) (s : State α) (t u : List Token) :
    run a s (t ++ u) = (run a s t).bind (run a · u) := by
  induction t generalizing s with
  | nil => rfl
  | cons x t ih =>
    simp only [List.cons_append, run, bind, Except.bind]
    cases step a x s with
    | error e => rfl
    | ok s' => exact ih s'

end State

/-- The value of a list of tokens. -/
def valueOf {α : Type} (a : Scalars α) (tokens : List Token) : Except Fault α :=
  match tokens with
  | [] => .error .empty
  | _ => do (← State.run a .start tokens).value a

/-- The value of a text without white space. -/
def read {α : Type} (a : Scalars α) (s : List Char) : Except Fault α := do
  valueOf a (← tokens s)

end Reckoner.Arithmetic
