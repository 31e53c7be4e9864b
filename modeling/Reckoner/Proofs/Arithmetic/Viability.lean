import Reckoner.Proofs.Arithmetic.Derivation

namespace Reckoner.Arithmetic

open Reckoner.Text

def Derivable (ls : List Lexeme) : Prop :=
  ∃ e : Tree .expression, e.lexemes = ls

/-- Some continuation makes an expression. -/
def Viable (ls : List Lexeme) : Prop :=
  ∃ more, (∀ l ∈ more, l.WellFormed) ∧ Derivable (ls ++ more)

section Completion

variable {α : Type} {a : Scalars α}

theorem SumSpells.complete {sum : Option (Half α)} {y : List Lexeme} (h : SumSpells a sum y)
    (t : Tree .term) : ∃ e : Tree .expression, e.lexemes = y ++ t.lexemes := by
  match sum, h with
  | none, h =>
    obtain rfl : y = [] := h
    exact ⟨.term t, rfl⟩
  | some ⟨left, false⟩, ⟨e, _, hy⟩ => exact ⟨.add e t, by simp [hy, Tree.lexemes]⟩
  | some ⟨left, true⟩, ⟨e, _, hy⟩ => exact ⟨.sub e t, by simp [hy, Tree.lexemes]⟩

theorem ProductSpells.complete {product : Option (Half α)} {y : List Lexeme}
    (h : ProductSpells a product y) (u : Tree .unary) :
    ∃ t : Tree .term, t.lexemes = y ++ u.lexemes := by
  match product, h with
  | none, h =>
    obtain rfl : y = [] := h
    exact ⟨.unary u, rfl⟩
  | some ⟨left, false⟩, ⟨t, _, hy⟩ => exact ⟨.mul t u, by simp [hy, Tree.lexemes]⟩
  | some ⟨left, true⟩, ⟨t, _, hy⟩ => exact ⟨.div t u, by simp [hy, Tree.lexemes]⟩

/-- A primary makes an expression of what waits on its level: every state of the reader can be completed, so what has
been read is always viable. -/
theorem LevelSpells.complete {level : Level α} {y : List Lexeme} (h : LevelSpells a level y)
    (p : Tree .primary) : ∃ e : Tree .expression, e.lexemes = y ++ p.lexemes := by
  obtain ⟨x, z, hsum, hproduct, rfl⟩ := h
  obtain ⟨t, ht⟩ := hproduct.complete (p.negated level.minuses)
  obtain ⟨e, he⟩ := hsum.complete t
  exact ⟨e, by simp [he, ht, Tree.lexemes_negated]⟩

/-- Closing parentheses make an expression of what waits outside. -/
theorem OuterSpells.complete {outer : Outer α} {x : List Lexeme} (h : OuterSpells a outer x)
    (e : Tree .expression) :
    Derivable (x ++ e.lexemes ++ List.replicate outer.length .closing) := by
  induction outer generalizing x e with
  | nil =>
    obtain rfl : x = [] := h
    exact ⟨e, by simp⟩
  | cons p outer ih =>
    obtain ⟨x, y, houter, hlevel, rfl⟩ := h
    obtain ⟨f, hf⟩ := hlevel.complete (.parens e)
    obtain ⟨g, hg⟩ := ih houter f
    exact ⟨g, by simp [hg, hf, Tree.lexemes, List.replicate_succ]⟩

theorem StateSpells.viable {s : State α} {ls : List Lexeme} (h : StateSpells a s ls) : Viable ls := by
  have closing : ∀ n, ∀ l ∈ List.replicate n Lexeme.closing, l.WellFormed := by
    intro n l hl
    obtain rfl := List.eq_of_mem_replicate hl
    trivial
  cases s with
  | operand level outer =>
    obtain ⟨x, y, houter, hlevel, rfl⟩ := h
    let zero : Number := ⟨['0'], none⟩
    have formed : zero.WellFormed := by
      refine Or.inl ⟨by simp [zero], ?_, by simp [zero]⟩
      intro c hc
      obtain rfl : c = '0' := by simpa [zero] using hc
      decide
    obtain ⟨e, he⟩ := hlevel.complete (.number zero)
    refine ⟨.number zero :: List.replicate outer.length .closing, ?_, ?_⟩
    · intro l hl
      rcases List.mem_cons.mp hl with rfl | hl
      · exact formed
      · exact closing _ l hl
    · have whole := houter.complete e
      rw [he] at whole
      simpa [Tree.lexemes] using whole
  | operator sum term outer =>
    obtain ⟨x, y, t, houter, hsum, -, rfl⟩ := h
    obtain ⟨e, he⟩ := hsum.complete t
    refine ⟨List.replicate outer.length .closing, closing _, ?_⟩
    have whole := houter.complete e
    rw [he] at whole
    simpa using whole

end Completion

section Refusal

variable {α : Type} (a : Scalars α)

theorem viable_of_run {ts : List Token} {s : State α} (h : State.run a .start ts = .ok s) :
    Viable (ts.map Token.lexeme) :=
  (stateSpells_run a h).viable

/-- Tokens of an expression have a value or divide by zero. -/
theorem fault_of_derivable {ts : List Token} {f : Fault} (hd : Derivable (ts.map Token.lexeme))
    (h : valueOf a ts = .error f) : f = .divisionByZero := by
  obtain ⟨e, he⟩ := hd
  rw [valueOf_tree a e he.symm] at h
  cases hv : e.value a with
  | none => simpa [orDivision, hv] using h.symm
  | some v => simp [orDivision, hv] at h

/-- No expression goes on with a token that is refused. -/
theorem not_viable_of_refused {ts : List Token} {s : State α} {k : Token} {f : Fault}
    (hr : State.run a .start ts = .ok s) (hk : State.step a k s = .error f)
    (hf : f ≠ .divisionByZero) : ¬ Viable ((ts ++ [k]).map Token.lexeme) := by
  rintro ⟨more, -, hd⟩
  let rest : List Token := more.map (⟨·, 0⟩)
  have same : (ts ++ k :: rest).map Token.lexeme = (ts ++ [k]).map Token.lexeme ++ more := by
    simp [rest, Function.comp_def]
  have stopped : State.run a .start (ts ++ k :: rest) = .error f := by
    rw [run_around a hr, hk]
    rfl
  have failed : valueOf a (ts ++ k :: rest) = .error f := by
    obtain ⟨t, us, ht⟩ := List.exists_cons_of_ne_nil (show ts ++ k :: rest ≠ [] by simp)
    rw [ht] at stopped ⊢
    simp only [valueOf, stopped]
    rfl
  exact hf (fault_of_derivable a (same ▸ hd) failed)

end Refusal

/-- Every parenthesis is closed, and none is closed that is not open. -/
inductive Balanced : List Lexeme → Prop where
  | nil : Balanced []
  | plain {l : Lexeme} {ls : List Lexeme} (opens : l ≠ .opening) (closes : l ≠ .closing)
      (rest : Balanced ls) : Balanced (l :: ls)
  | parens {x y : List Lexeme} (inside : Balanced x) (rest : Balanced y) :
      Balanced (.opening :: (x ++ .closing :: y))

theorem Balanced.append {x y : List Lexeme} (hx : Balanced x) (hy : Balanced y) :
    Balanced (x ++ y) := by
  induction hx with
  | nil => exact hy
  | plain opens closes _ ih => exact .plain opens closes ih
  | parens inside _ _ ih =>
    have joined := Balanced.parens inside ih
    simpa using joined

/-- The places of the parentheses that are open behind some tokens, the innermost first: each is followed
by balanced tokens up to the next one or the end. -/
def OpenAt : List Nat → List Token → Prop
  | [], ts => Balanced (ts.map Token.lexeme)
  | p :: ps, ts => ∃ x k y, ts = x ++ k :: y ∧ k.lexeme = .opening ∧ k.position = p ∧
      Balanced (y.map Token.lexeme) ∧ OpenAt ps x

theorem OpenAt.append {ps : List Nat} {ts us : List Token} (h : OpenAt ps ts)
    (hu : Balanced (us.map Token.lexeme)) : OpenAt ps (ts ++ us) := by
  cases ps with
  | nil =>
    show Balanced ((ts ++ us).map Token.lexeme)
    rw [List.map_append]
    exact Balanced.append h hu
  | cons p ps =>
    obtain ⟨x, k, y, rfl, hk, hp, hy, hx⟩ := h
    refine ⟨x, k, y ++ us, by simp, hk, hp, ?_, hx⟩
    rw [List.map_append]
    exact hy.append hu

theorem OpenAt.plain {ps : List Nat} {ts : List Token} {k : Token} (h : OpenAt ps ts)
    (opens : k.lexeme ≠ .opening) (closes : k.lexeme ≠ .closing) : OpenAt ps (ts ++ [k]) :=
  h.append (.plain opens closes .nil)

theorem OpenAt.opened {ps : List Nat} {ts : List Token} {k : Token} (h : OpenAt ps ts)
    (hk : k.lexeme = .opening) : OpenAt (k.position :: ps) (ts ++ [k]) :=
  ⟨ts, k, [], rfl, hk, rfl, .nil, h⟩

theorem OpenAt.closed {p : Nat} {ps : List Nat} {ts : List Token} {k : Token}
    (h : OpenAt (p :: ps) ts) (hk : k.lexeme = .closing) : OpenAt ps (ts ++ [k]) := by
  obtain ⟨x, o, y, rfl, ho, -, hy, hx⟩ := h
  have pair : Balanced ((o :: (y ++ [k])).map Token.lexeme) := by
    simpa [ho, hk] using Balanced.parens hy .nil
  simpa using hx.append pair

/-- The parenthesis at a place is open, and all that are opened behind it are closed again. -/
def InnermostOpen (p : Nat) (ts : List Token) : Prop :=
  ∃ x k y, ts = x ++ k :: y ∧ k.lexeme = .opening ∧ k.position = p ∧ Balanced (y.map Token.lexeme)

theorem OpenAt.innermost {p : Nat} {ps : List Nat} {ts : List Token} (h : OpenAt (p :: ps) ts) :
    InnermostOpen p ts := by
  obtain ⟨x, k, y, hts, hk, hp, hy, -⟩ := h
  exact ⟨x, k, y, hts, hk, hp, hy⟩

section Places

variable {α : Type} (a : Scalars α)

/-- Where the parentheses stand that a state has open. -/
def State.places : State α → List Nat
  | .operand _ outer | .operator _ _ outer => outer.map Prod.fst

/-- A primary leaves the parentheses as they are, or ends a divisor that is zero. -/
theorem finish_cases (level : Level α) (outer : Outer α) (v : α) :
    (∃ term, State.finish a level outer v = .ok (.operator level.sum term outer)) ∨
      State.finish a level outer v = .error .divisionByZero := by
  obtain ⟨sum, product, minuses⟩ := level
  match product with
  | none => exact Or.inl ⟨_, rfl⟩
  | some ⟨left, false⟩ => exact Or.inl ⟨_, rfl⟩
  | some ⟨left, true⟩ =>
    cases hz : a.isZero (Nat.repeat a.neg minuses v) with
    | true => exact Or.inr (by simp [State.finish, hz])
    | false => exact Or.inl ⟨a.div left (Nat.repeat a.neg minuses v), by simp [State.finish, hz]⟩

theorem places_finish {level : Level α} {outer : Outer α} {v : α} {s : State α}
    (h : State.finish a level outer v = .ok s) : s.places = outer.map Prod.fst := by
  rcases finish_cases a level outer v with ⟨term, hf⟩ | hf
  · obtain rfl := Except.ok.inj (hf.symm.trans h)
    rfl
  · simp [hf] at h

/-- One token opens a parenthesis, closes the innermost one, or leaves them all as they are. -/
theorem openAt_step {s s' : State α} {ts : List Token} {k : Token} (hs : OpenAt s.places ts)
    (h : State.step a k s = .ok s') : OpenAt s'.places (ts ++ [k]) := by
  obtain ⟨lexeme, position⟩ := k
  cases s with
  | operand level outer =>
    cases lexeme with
    | number n =>
      rw [places_finish a h]
      exact hs.plain (by simp) (by simp)
    | operator o =>
      cases o with
      | sub =>
        obtain rfl : _ = s' := Except.ok.inj h
        exact hs.plain (by simp) (by simp)
      | add | mul | div => simp [State.step] at h
    | opening =>
      obtain rfl : _ = s' := Except.ok.inj h
      exact hs.opened rfl
    | closing => simp [State.step] at h
  | operator sum term outer =>
    cases lexeme with
    | number n => simp [State.step] at h
    | opening => simp [State.step] at h
    | operator o =>
      cases o with
      | add | sub | mul | div =>
        obtain rfl : _ = s' := Except.ok.inj h
        exact hs.plain (by simp) (by simp)
    | closing =>
      cases outer with
      | nil => simp [State.step] at h
      | cons p outer =>
        rw [places_finish a h]
        exact OpenAt.closed hs rfl

theorem openAt_run {s : State α} {ts : List Token} (h : State.run a .start ts = .ok s) :
    OpenAt s.places ts := by
  have start : OpenAt (State.places (α := α) .start) [] := Balanced.nil
  exact run_keeps a (fun s ts => OpenAt s.places ts) (openAt_step a) start h

end Places

/-- What a fault says of the tokens that it is reported for. -/
def Fault.Blames (ts : List Token) : Fault → Prop
  | .empty => ts = []
  | .unexpectedToken text p => ∃ us k vs, ts = us ++ k :: vs ∧ k.text = text ∧ k.position = p ∧
      Viable (us.map Token.lexeme) ∧ ¬ Viable ((us ++ [k]).map Token.lexeme)
  | .unexpectedEnd => Viable (ts.map Token.lexeme) ∧ ¬ Derivable (ts.map Token.lexeme)
  | .unclosed p => ∃ us vs, ts = us ++ vs ∧ Viable (us.map Token.lexeme) ∧ InnermostOpen p us ∧
      ∀ k ∈ vs.head?, ¬ Viable ((us ++ [k]).map Token.lexeme)
  | .divisionByZero => True
  | _ => False

section Blame

variable {α : Type} (a : Scalars α)

theorem finish_error {level : Level α} {outer : Outer α} {v : α} {f : Fault}
    (h : State.finish a level outer v = .error f) : f = .divisionByZero := by
  rcases finish_cases a level outer v with ⟨term, hf⟩ | hf
  · simp [hf] at h
  · exact (Except.error.inj (hf.symm.trans h)).symm

/-- A token is refused as such, or because the innermost open parenthesis should be closed; or it ends a
divisor that is zero. -/
theorem step_error {s : State α} {k : Token} {f : Fault} (h : State.step a k s = .error f) :
    f = .divisionByZero ∨ f = .unexpectedToken k.text k.position ∨
      ∃ p ps, s.places = p :: ps ∧ f = .unclosed p := by
  have misplaced : ∀ outer : Outer α, State.misplaced k outer = .unexpectedToken k.text k.position ∨
      ∃ p ps, outer.map Prod.fst = p :: ps ∧ State.misplaced k outer = .unclosed p := by
    intro outer
    cases outer with
    | nil => exact Or.inl rfl
    | cons q outer => exact Or.inr ⟨q.1, outer.map Prod.fst, rfl, rfl⟩
  cases s with
  | operand level outer =>
    simp only [State.step] at h
    split at h
    · exact Or.inl (finish_error a h)
    · simp at h
    · simp at h
    · exact Or.inr (Or.inl (Except.error.inj h).symm)
  | operator sum term outer =>
    simp only [State.step] at h
    split at h
    · simp at h
    · simp at h
    · simp at h
    · simp at h
    · split at h
      · exact Or.inl (finish_error a h)
      · obtain rfl := Except.error.inj h
        exact Or.inr (misplaced _)
    · obtain rfl := Except.error.inj h
      exact Or.inr (misplaced _)

/-- A run fails at one token, and the tokens before it are read. -/
theorem run_error {s : State α} {ts : List Token} {f : Fault} (h : State.run a s ts = .error f) :
    ∃ us k vs s', ts = us ++ k :: vs ∧ State.run a s us = .ok s' ∧ State.step a k s' = .error f := by
  induction ts generalizing s with
  | nil => simp [State.run] at h
  | cons k ts ih =>
    cases hk : State.step a k s with
    | error g =>
      obtain rfl : g = f := by simpa [State.run, hk, bind, Except.bind] using h
      exact ⟨[], k, ts, s, rfl, rfl, hk⟩
    | ok t =>
      have rest : State.run a t ts = .error f := by simpa [State.run, hk, bind, Except.bind] using h
      obtain ⟨us, l, vs, s', rfl, hr, hl⟩ := ih rest
      exact ⟨k :: us, l, vs, s', rfl, by simpa [State.run, hk, bind, Except.bind] using hr, hl⟩

theorem blames_of_refused {us vs : List Token} {k : Token} {s : State α} {f : Fault}
    (hr : State.run a .start us = .ok s) (hk : State.step a k s = .error f) :
    f.Blames (us ++ k :: vs) := by
  have before := viable_of_run a hr
  rcases step_error a hk with rfl | rfl | ⟨p, ps, hp, rfl⟩
  · trivial
  · exact ⟨us, k, vs, rfl, rfl, rfl, before, not_viable_of_refused a hr hk (by simp)⟩
  · have innermost : OpenAt (p :: ps) us := hp ▸ openAt_run a hr
    refine ⟨us, k :: vs, rfl, before, innermost.innermost, ?_⟩
    intro l hl
    obtain rfl : k = l := by simpa using hl
    exact not_viable_of_refused a hr hk (by simp)

/-- Tokens without a value. -/
theorem blames_of_valueOf {ts : List Token} {f : Fault} (h : valueOf a ts = .error f) :
    f.Blames ts := by
  cases ts with
  | nil =>
    obtain rfl : Fault.empty = f := Except.error.inj h
    rfl
  | cons t ts =>
    cases hr : State.run a .start (t :: ts) with
    | error g =>
      obtain rfl : g = f := by simpa [valueOf, hr, bind, Except.bind] using h
      obtain ⟨us, k, vs, s, split, before, refused⟩ := run_error a hr
      rw [split]
      exact blames_of_refused a before refused
    | ok s =>
      have last : s.value a = .error f := by simpa [valueOf, hr, bind, Except.bind] using h
      have whole := viable_of_run a hr
      cases s with
      | operand level outer =>
        obtain rfl : Fault.unexpectedEnd = f := Except.error.inj last
        refine ⟨whole, ?_⟩
        intro derivable
        have division := fault_of_derivable a derivable h
        simp at division
      | operator sum term outer =>
        cases outer with
        | nil => simp [State.value] at last
        | cons o outer =>
          obtain rfl : Fault.unclosed o.1 = f := Except.error.inj last
          have innermost : OpenAt (o.1 :: outer.map Prod.fst) (t :: ts) := openAt_run a hr
          exact ⟨t :: ts, [], by simp, whole, innermost.innermost, by simp⟩

/-- A text that splits into tokens is refused at the first token with which no expression goes on, at its
end when something is missing there, or for the innermost parenthesis that is open at one of the two. -/
theorem faults_name_first_offender {s : List Char} {ts : List Token} {f : Fault}
    (split : tokens s = .ok ts) (failed : read a s = .error f) : f.Blames ts := by
  have failed' : valueOf a ts = .error f := by simpa [read, split, bind, Except.bind] using failed
  exact blames_of_valueOf a failed'

end Blame

/-- The five is the offender: the inner parenthesis is closed again before it, so it is held against the outer
one. -/
theorem faults_name_first_offender_inside :
    ∃ ts, tokens "2*(3+-(4)5)".toList = .ok ts ∧
      read doubles "2*(3+-(4)5)".toList = .error (.unclosed 2) ∧ (Fault.unclosed 2).Blames ts := by
  let ts : List Token := [⟨.number ⟨['2'], none⟩, 0⟩, ⟨.operator .mul, 1⟩, ⟨.opening, 2⟩,
    ⟨.number ⟨['3'], none⟩, 3⟩, ⟨.operator .add, 4⟩, ⟨.operator .sub, 5⟩, ⟨.opening, 6⟩,
    ⟨.number ⟨['4'], none⟩, 7⟩, ⟨.closing, 8⟩, ⟨.number ⟨['5'], none⟩, 9⟩, ⟨.closing, 10⟩]
  have split : tokens "2*(3+-(4)5)".toList = .ok ts := by decide +kernel
  have failed : read doubles "2*(3+-(4)5)".toList = .error (.unclosed 2) := by
    rw [read, split]
    rfl
  exact ⟨ts, split, failed, faults_name_first_offender doubles split failed⟩

end Reckoner.Arithmetic
