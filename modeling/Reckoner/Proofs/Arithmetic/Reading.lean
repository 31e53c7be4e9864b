import Reckoner.Proofs.Arithmetic.LongestMatch

namespace Reckoner.Arithmetic

open Reckoner.Text

section Reading

variable {α : Type} (a : Scalars α)

/-- Goes on with a value; if there is none, a division has failed. -/
def orDivision {β γ : Type} (x : Option β) (next : β → Except Fault γ) : Except Fault γ :=
  x.elim (.error .divisionByZero) next

/-- The sum that waits when an expression has been read, and its last term. -/
def Tree.lastTerm : Tree .expression → Option (Option (Half α) × α)
  | .term t => (t.value a).map (none, ·)
  | .add e t => do return (some ⟨← e.value a, false⟩, ← t.value a)
  | .sub e t => do return (some ⟨← e.value a, true⟩, ← t.value a)

theorem Tree.total_lastTerm (e : Tree .expression) :
    (e.lastTerm a).map (fun p => State.total a p.1 p.2) = e.value a := by
  cases e with
  | term t => cases h : t.value a <;> simp [lastTerm, value, h, State.total]
  | add e t =>
    cases he : e.value a <;> cases ht : t.value a <;> simp [lastTerm, value, he, ht, State.total]
  | sub e t =>
    cases he : e.value a <;> cases ht : t.value a <;> simp [lastTerm, value, he, ht, State.total]

/-- How the tokens of a phrase are read: wherever it may stand, its value arrives there. -/
def Reads (ts : List Token) : {p : Phrase} → Tree p → Prop
  | .expression, e => ∀ outer, State.run a (.operand .fresh outer) ts =
      orDivision (e.lastTerm a) fun p => .ok (.operator p.1 p.2 outer)
  | .term, t => ∀ sum outer, State.run a (.operand ⟨sum, none, 0⟩ outer) ts =
      orDivision (t.value a) fun v => .ok (.operator sum v outer)
  | .unary, u => ∀ level outer, State.run a (.operand level outer) ts =
      orDivision (u.value a) (State.finish a level outer)
  | .primary, p => ∀ level outer, State.run a (.operand level outer) ts =
      orDivision (p.value a) (State.finish a level outer)

theorem split_tokens {ts : List Token} {x y : List Lexeme} {l : Lexeme}
    (h : ts.map Token.lexeme = x ++ l :: y) :
    ∃ us k vs, ts = us ++ k :: vs ∧ us.map Token.lexeme = x ∧ k.lexeme = l ∧
      vs.map Token.lexeme = y := by
  obtain ⟨us, rest, rfl, hu, hr⟩ := List.map_eq_append_iff.mp h
  obtain ⟨k, vs, rfl, hk, hv⟩ := List.map_eq_cons_iff.mp hr
  exact ⟨us, k, vs, rfl, hu, hk, hv⟩

theorem run_around {s : State α} {us vs : List Token} {k : Token} {s' : State α}
    (h : State.run a s us = .ok s') :
    State.run a s (us ++ k :: vs) = (State.step a k s').bind (State.run a · vs) := by
  rw [State.run_append, h]
  rfl

theorem run_failed {s : State α} {us : List Token} {f : Fault} (vs : List Token)
    (h : State.run a s us = .error f) : State.run a s (us ++ vs) = .error f := by
  rw [State.run_append, h]
  rfl

theorem repeat_neg (f : α → α) (n : Nat) (x : α) :
    Nat.repeat f (n + 1) x = Nat.repeat f n (f x) := by
  induction n with
  | zero => rfl
  | succ n ih => exact congrArg f ih

/-- A sum or a difference: the expression is read, and the term after it joins what waits. -/
theorem reads_sum {e : Tree .expression} {t : Tree .term} {us vs : List Token} {k : Token}
    (o : Operator) (inverse : Bool) (ho : (o, inverse) = (.add, false) ∨ (o, inverse) = (.sub, true))
    (hk : k.lexeme = .operator o) (he : Reads a us e) (ht : Reads a vs t) (outer : Outer α) :
    State.run a (.operand .fresh outer) (us ++ k :: vs) =
      orDivision (e.value a) fun x => orDivision (t.value a) fun y =>
        .ok (.operator (some ⟨x, inverse⟩) y outer) := by
  have first := he outer
  rw [← e.total_lastTerm a]
  cases hx : e.lastTerm a with
  | none =>
    rw [hx] at first
    exact run_failed a _ first
  | some p =>
    rw [hx] at first
    have second : State.step a k (.operator p.1 p.2 outer) =
        .ok (.operand ⟨some ⟨State.total a p.1 p.2, inverse⟩, none, 0⟩ outer) := by
      rcases ho with ho | ho <;> obtain ⟨rfl, rfl⟩ := Prod.mk.inj ho <;> simp [State.step, hk]
    rw [run_around a first, second]
    exact ht _ outer

/-- A product or a quotient: the term is read, and the unary after it joins it. -/
theorem reads_product {t : Tree .term} {u : Tree .unary} {us vs : List Token} {k : Token}
    (o : Operator) (inverse : Bool) (ho : (o, inverse) = (.mul, false) ∨ (o, inverse) = (.div, true))
    (hk : k.lexeme = .operator o) (ht : Reads a us t) (hu : Reads a vs u)
    (sum : Option (Half α)) (outer : Outer α) :
    State.run a (.operand ⟨sum, none, 0⟩ outer) (us ++ k :: vs) =
      orDivision (t.value a) fun x => orDivision (u.value a) fun y =>
        State.finish a ⟨sum, some ⟨x, inverse⟩, 0⟩ outer y := by
  have first := ht sum outer
  cases hx : t.value a with
  | none =>
    rw [hx] at first
    exact run_failed a _ first
  | some x =>
    rw [hx] at first
    have second : State.step a k (.operator sum x outer) =
        .ok (.operand ⟨sum, some ⟨x, inverse⟩, 0⟩ outer) := by
      rcases ho with ho | ho <;> obtain ⟨rfl, rfl⟩ := Prod.mk.inj ho <;> simp [State.step, hk]
    rw [run_around a first, second]
    exact hu _ outer

theorem reads_minus {u : Tree .unary} {vs : List Token} {k : Token}
    (hk : k.lexeme = .operator .sub) (hu : Reads a vs u) : Reads a (k :: vs) (.minus u) := by
  intro level outer
  have first : State.step a k (.operand level outer) =
      .ok (.operand { level with minuses := level.minuses + 1 } outer) := by
    simp [State.step, hk]
  have rest := hu { level with minuses := level.minuses + 1 } outer
  rw [State.run, first]
  refine rest.trans ?_
  cases hv : u.value a with
  | none => simp [orDivision, Tree.value, hv]
  | some v => simp [orDivision, Tree.value, hv, State.finish, repeat_neg]

theorem reads_parens {e : Tree .expression} {us : List Token} {k c : Token}
    (hk : k.lexeme = .opening) (hc : c.lexeme = .closing) (he : Reads a us e) :
    Reads a (k :: (us ++ [c])) (.parens e) := by
  intro level outer
  have first : State.step a k (.operand level outer) =
      .ok (.operand .fresh ((k.position, level) :: outer)) := by
    simp [State.step, hk]
  have inside := he ((k.position, level) :: outer)
  rw [State.run, first]
  change State.run a (.operand .fresh ((k.position, level) :: outer)) (us ++ [c]) =
    orDivision (e.value a) (State.finish a level outer)
  rw [← e.total_lastTerm a]
  cases hx : e.lastTerm a with
  | none =>
    rw [hx] at inside
    exact run_failed a _ inside
  | some p =>
    rw [hx] at inside
    have last : State.step a c (.operator p.1 p.2 ((k.position, level) :: outer)) =
        State.finish a level outer (State.total a p.1 p.2) := by
      simp [State.step, hc]
    rw [run_around a inside, last]
    cases hf : State.finish a level outer (State.total a p.1 p.2) <;>
      simp [Except.bind, State.run, orDivision, hf]

/-- The tokens of a tree are read as its value, or up to its first division by zero. -/
theorem reads {p : Phrase} (t : Tree p) (ts : List Token) (h : ts.map Token.lexeme = t.lexemes) :
    Reads a ts t := by
  induction t generalizing ts with
  | term t ih =>
    intro outer
    refine (ih ts h none outer).trans ?_
    cases hv : t.value a <;> simp [orDivision, Tree.lastTerm, hv]
  | add e t he ht =>
    obtain ⟨us, k, vs, rfl, hu, hk, hv⟩ := split_tokens h
    intro outer
    rw [reads_sum a .add false (Or.inl rfl) hk (he us hu) (ht vs hv)]
    cases hx : e.value a <;> cases hy : t.value a <;> simp [orDivision, Tree.lastTerm, hx, hy]
  | sub e t he ht =>
    obtain ⟨us, k, vs, rfl, hu, hk, hv⟩ := split_tokens h
    intro outer
    rw [reads_sum a .sub true (Or.inr rfl) hk (he us hu) (ht vs hv)]
    cases hx : e.value a <;> cases hy : t.value a <;> simp [orDivision, Tree.lastTerm, hx, hy]
  | unary u ih =>
    intro sum outer
    exact ih ts h ⟨sum, none, 0⟩ outer
  | mul t u ht hu =>
    obtain ⟨us, k, vs, rfl, ht', hk, hu'⟩ := split_tokens h
    intro sum outer
    rw [reads_product a .mul false (Or.inl rfl) hk (ht us ht') (hu vs hu')]
    cases hx : t.value a <;> cases hy : u.value a <;>
      simp [orDivision, Tree.value, hx, hy, State.finish, Nat.repeat]
  | div t u ht hu =>
    obtain ⟨us, k, vs, rfl, ht', hk, hu'⟩ := split_tokens h
    intro sum outer
    rw [reads_product a .div true (Or.inr rfl) hk (ht us ht') (hu vs hu')]
    cases hx : t.value a with
    | none => simp [orDivision, Tree.value, hx]
    | some x =>
      cases hy : u.value a with
      | none => simp [orDivision, Tree.value, hx, hy]
      | some y =>
        cases hz : a.isZero y <;>
          simp [orDivision, Tree.value, hx, hy, hz, State.finish, Nat.repeat]
  | minus u ih =>
    obtain ⟨k, vs, rfl, hk, hv⟩ := List.map_eq_cons_iff.mp h
    exact reads_minus a hk (ih vs hv)
  | primary p ih => exact ih ts h
  | number n =>
    obtain ⟨k, vs, rfl, hk, hv⟩ := List.map_eq_cons_iff.mp h
    obtain rfl : vs = [] := by simpa using hv
    intro level outer
    cases hf : State.finish a level outer (a.ofNumber n) <;>
      simp [State.run, State.step, hk, orDivision, Tree.value, hf, bind, Except.bind]
  | parens e ih =>
    obtain ⟨k, rest, rfl, hk, hr⟩ := List.map_eq_cons_iff.mp h
    obtain ⟨us, c, vs, rfl, hu, hc, hv⟩ := split_tokens hr
    obtain rfl : vs = [] := by simpa using hv
    exact reads_parens a hk hc (ih us hu)

end Reading

end Reckoner.Arithmetic
