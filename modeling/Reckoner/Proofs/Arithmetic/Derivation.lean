import Reckoner.Arithmetic.Evaluation
import Reckoner.Proofs.Arithmetic.Reading

namespace Reckoner.Arithmetic

open Reckoner.Text

section Spelling

variable {α : Type} (a : Scalars α)

/-- A sum that waits for a term: an expression with the value so far, and an operator. -/
def SumSpells : Option (Half α) → List Lexeme → Prop
  | none, ls => ls = []
  | some ⟨left, inverse⟩, ls => ∃ e : Tree .expression, e.value a = some left ∧
      ls = e.lexemes ++ [.operator (if inverse then .sub else .add)]

/-- A product that waits for a factor: a term with the value so far, and an operator. -/
def ProductSpells : Option (Half α) → List Lexeme → Prop
  | none, ls => ls = []
  | some ⟨left, inverse⟩, ls => ∃ t : Tree .term, t.value a = some left ∧
      ls = t.lexemes ++ [.operator (if inverse then .div else .mul)]

def minusSigns (n : Nat) : List Lexeme := List.replicate n (.operator .sub)

def LevelSpells (level : Level α) (ls : List Lexeme) : Prop :=
  ∃ x y, SumSpells a level.sum x ∧ ProductSpells a level.product y ∧
    ls = x ++ y ++ minusSigns level.minuses

def OuterSpells : Outer α → List Lexeme → Prop
  | [], ls => ls = []
  | (_, level) :: outer, ls => ∃ x y, OuterSpells outer x ∧ LevelSpells a level y ∧
      ls = x ++ y ++ [.opening]

/-- What has been read when a state is reached. -/
def StateSpells : State α → List Lexeme → Prop
  | .operand level outer, ls => ∃ x y, OuterSpells a outer x ∧ LevelSpells a level y ∧ ls = x ++ y
  | .operator sum term outer, ls => ∃ x y, ∃ t : Tree .term, OuterSpells a outer x ∧
      SumSpells a sum y ∧ t.value a = some term ∧ ls = x ++ y ++ t.lexemes

theorem levelSpells_fresh : LevelSpells a .fresh [] :=
  ⟨[], [], rfl, rfl, rfl⟩

theorem stateSpells_start : StateSpells a .start [] :=
  ⟨[], [], rfl, levelSpells_fresh a, rfl⟩

/-- A primary behind its minus signs. -/
def Tree.negated (p : Tree .primary) : Nat → Tree .unary
  | 0 => .primary p
  | n + 1 => .minus (p.negated n)

theorem Tree.lexemes_negated (p : Tree .primary) (n : Nat) :
    (p.negated n).lexemes = minusSigns n ++ p.lexemes := by
  induction n with
  | zero => rfl
  | succ n ih => simp [negated, lexemes, ih, minusSigns, List.replicate_succ]

theorem Tree.value_negated {p : Tree .primary} {v : α} (h : p.value a = some v) (n : Nat) :
    (p.negated n).value a = some (Nat.repeat a.neg n v) := by
  induction n with
  | zero => exact h
  | succ n ih => simp [negated, value, ih, Nat.repeat]

/-- The expression that a sum and a term make. -/
theorem exists_total {sum : Option (Half α)} {y : List Lexeme} {t : Tree .term} {v : α}
    (hs : SumSpells a sum y) (ht : t.value a = some v) :
    ∃ e : Tree .expression, e.value a = some (State.total a sum v) ∧ e.lexemes = y ++ t.lexemes := by
  match sum, hs with
  | none, hs =>
    obtain rfl : y = [] := hs
    exact ⟨.term t, ht, rfl⟩
  | some ⟨left, false⟩, hs =>
    obtain ⟨e, he, rfl⟩ := hs
    exact ⟨.add e t, by simp [Tree.value, he, ht, State.total], by simp [Tree.lexemes]⟩
  | some ⟨left, true⟩, hs =>
    obtain ⟨e, he, rfl⟩ := hs
    exact ⟨.sub e t, by simp [Tree.value, he, ht, State.total], by simp [Tree.lexemes]⟩

/-- A primary ends a factor: it joins the minus signs and the product that wait for it. -/
theorem stateSpells_finish {level : Level α} {outer : Outer α} {x y : List Lexeme}
    {p : Tree .primary} {v : α} {s : State α} (ho : OuterSpells a outer x)
    (hl : LevelSpells a level y) (hp : p.value a = some v)
    (h : State.finish a level outer v = .ok s) : StateSpells a s (x ++ y ++ p.lexemes) := by
  obtain ⟨sum, product, minuses⟩ := level
  obtain ⟨y, z, hs, hz, rfl⟩ := hl
  let u := p.negated minuses
  have hu : u.value a = some (Nat.repeat a.neg minuses v) := Tree.value_negated a hp minuses
  have hw : u.lexemes = minusSigns minuses ++ p.lexemes := p.lexemes_negated minuses
  match product, hz with
  | none, hz =>
    obtain rfl : z = [] := hz
    obtain rfl : _ = s := Except.ok.inj h
    exact ⟨x, y, .unary u, ho, hs, hu, by simp [Tree.lexemes, hw]⟩
  | some ⟨left, false⟩, hz =>
    obtain ⟨t, ht, rfl⟩ := hz
    obtain rfl : _ = s := Except.ok.inj h
    exact ⟨x, y, .mul t u, ho, hs, by simp [Tree.value, ht, hu], by simp [Tree.lexemes, hw]⟩
  | some ⟨left, true⟩, hz =>
    obtain ⟨t, ht, rfl⟩ := hz
    simp only [State.finish] at h
    split at h
    · simp at h
    · rename_i hd
      obtain rfl : _ = s := Except.ok.inj h
      exact ⟨x, y, .div t u, ho, hs, by simp [Tree.value, ht, hu, hd], by simp [Tree.lexemes, hw]⟩

/-- An operand where one can stand: a number, a minus sign or an opening parenthesis. -/
theorem stateSpells_operand {level : Level α} {outer : Outer α} {ls : List Lexeme} {k : Token}
    {s : State α} (hs : StateSpells a (.operand level outer) ls)
    (h : State.step a k (.operand level outer) = .ok s) : StateSpells a s (ls ++ [k.lexeme]) := by
  obtain ⟨x, y, ho, hl, rfl⟩ := hs
  obtain ⟨lexeme, position⟩ := k
  cases lexeme with
  | number n =>
    have hn : (Tree.number n).value a = some (a.ofNumber n) := rfl
    exact stateSpells_finish a ho hl hn h
  | operator o =>
    cases o with
    | sub =>
      obtain rfl : _ = s := Except.ok.inj h
      obtain ⟨y, z, hy, hz, rfl⟩ := hl
      refine ⟨x, _, ho, ⟨y, z, hy, hz, rfl⟩, ?_⟩
      simp [minusSigns, List.replicate_succ']
    | add | mul | div => simp [State.step] at h
  | opening =>
    obtain rfl : _ = s := Except.ok.inj h
    exact ⟨x ++ y ++ [.opening], [], ⟨x, y, ho, hl, rfl⟩, levelSpells_fresh a, by simp⟩
  | closing => simp [State.step] at h

/-- An operator after an operand, or the parenthesis that closes its level. -/
theorem stateSpells_operator {sum : Option (Half α)} {term : α} {outer : Outer α} {ls : List Lexeme}
    {k : Token} {s : State α} (hs : StateSpells a (.operator sum term outer) ls)
    (h : State.step a k (.operator sum term outer) = .ok s) : StateSpells a s (ls ++ [k.lexeme]) := by
  obtain ⟨x, y, t, ho, hy, ht, rfl⟩ := hs
  obtain ⟨e, he, hw⟩ := exists_total a hy ht
  obtain ⟨lexeme, position⟩ := k
  cases lexeme with
  | number n => simp [State.step] at h
  | opening => simp [State.step] at h
  | operator o =>
    cases o with
    | add | sub =>
      obtain rfl : _ = s := Except.ok.inj h
      refine ⟨x, _, ho, ⟨_, [], ⟨e, he, rfl⟩, rfl, rfl⟩, ?_⟩
      simp [minusSigns, hw]
    | mul | div =>
      obtain rfl : _ = s := Except.ok.inj h
      refine ⟨x, _, ho, ⟨y, _, hy, ⟨t, ht, rfl⟩, rfl⟩, ?_⟩
      simp [minusSigns]
  | closing =>
    cases outer with
    | nil => simp [State.step] at h
    | cons p outer =>
      obtain ⟨opening, level⟩ := p
      obtain ⟨x, z, ho, hl, rfl⟩ := ho
      have hp : (Tree.parens e).value a = some (State.total a sum term) := he
      have joined := stateSpells_finish a ho hl hp h
      simpa [Tree.lexemes, hw] using joined

theorem stateSpells_step {s s' : State α} {ls : List Lexeme} {k : Token} (hs : StateSpells a s ls)
    (h : State.step a k s = .ok s') : StateSpells a s' (ls ++ [k.lexeme]) := by
  cases s with
  | operand level outer => exact stateSpells_operand a hs h
  | operator sum term outer => exact stateSpells_operator a hs h

/-- What is kept with each token is kept with all of them. -/
theorem run_keeps (Keeps : State α → List Token → Prop)
    (one : ∀ {s s' ts k}, Keeps s ts → State.step a k s = .ok s' → Keeps s' (ts ++ [k]))
    {s s' : State α} {ts us : List Token} (hs : Keeps s ts) (h : State.run a s us = .ok s') :
    Keeps s' (ts ++ us) := by
  induction us generalizing s ts with
  | nil =>
    obtain rfl : s = s' := Except.ok.inj h
    simpa using hs
  | cons k us ih =>
    cases hk : State.step a k s with
    | error f => simp [State.run, hk, bind, Except.bind] at h
    | ok t =>
      have rest : State.run a t us = .ok s' := by simpa [State.run, hk, bind, Except.bind] using h
      simpa using ih (one hs hk) rest

theorem stateSpells_run {s : State α} {ts : List Token} (h : State.run a .start ts = .ok s) :
    StateSpells a s (ts.map Token.lexeme) := by
  have one : ∀ {s s' : State α} {ts k}, StateSpells a s (ts.map Token.lexeme) →
      State.step a k s = .ok s' → StateSpells a s' ((ts ++ [k]).map Token.lexeme) := by
    intro s s' ts k hs hk
    rw [List.map_append]
    exact stateSpells_step a hs hk
  have start : StateSpells a .start (([] : List Token).map Token.lexeme) := stateSpells_start a
  exact run_keeps a (fun s ts => StateSpells a s (ts.map Token.lexeme)) one start h

/-- Tokens with a value are those of an expression with that value. -/
theorem exists_tree_of_valueOf {ts : List Token} {v : α} (h : valueOf a ts = .ok v) :
    ∃ e : Tree .expression, e.lexemes = ts.map Token.lexeme ∧ e.value a = some v := by
  cases ts with
  | nil => simp [valueOf] at h
  | cons k ts =>
    cases hr : State.run a .start (k :: ts) with
    | error f => simp [valueOf, hr, bind, Except.bind] at h
    | ok s =>
      have hv : s.value a = .ok v := by simpa [valueOf, hr, bind, Except.bind] using h
      have hs := stateSpells_run a hr
      match s, hs, hv with
      | .operator sum term [], ⟨x, y, t, hx, hy, ht, hw⟩, hv =>
        obtain rfl : x = [] := hx
        obtain rfl : State.total a sum term = v := Except.ok.inj hv
        obtain ⟨e, he, hl⟩ := exists_total a hy ht
        exact ⟨e, by simpa [hl] using hw.symm, he⟩

/-- The tokens of an expression have its value, or divide by zero. -/
theorem valueOf_tree (e : Tree .expression) {ts : List Token}
    (h : ts.map Token.lexeme = e.lexemes) : valueOf a ts = orDivision (e.value a) .ok := by
  have hr := reads a e ts h []
  have hne : ts ≠ [] := by
    rintro rfl
    exact e.lexemes_ne_nil h.symm
  obtain ⟨k, us, rfl⟩ := List.exists_cons_of_ne_nil hne
  rw [← e.total_lastTerm a]
  simp only [valueOf, State.start, hr]
  cases e.lastTerm a <;> rfl

/-- A text with a derivation is read as its value, however it is split, or up to its first division by
zero. -/
theorem read_of_spells {e : Tree .expression} {s : List Char} (hs : Spells e.lexemes s) :
    read a s = orDivision (e.value a) .ok := by
  obtain ⟨ts, ht, hl⟩ := tokensFrom_of_spells 0 e.numbersApart hs
  have hr : read a s = valueOf a ts := by
    simp only [read, tokens, ht]
    rfl
  rw [hr, valueOf_tree a e hl]

theorem exists_tree_of_read {s : List Char} {v : α} (h : read a s = .ok v) :
    ∃ e : Tree .expression, Spells e.lexemes s ∧ e.value a = some v := by
  cases ht : tokens s with
  | error f => simp [read, ht, bind, Except.bind] at h
  | ok ts =>
    have hv : valueOf a ts = .ok v := by simpa [read, ht, bind, Except.bind] using h
    obtain ⟨e, hl, he⟩ := exists_tree_of_valueOf a hv
    exact ⟨e, hl ▸ spells_of_tokensFrom ht, he⟩

theorem orDivision_ok_iff {β : Type} {x : Option β} {v : β} :
    orDivision x .ok = .ok v ↔ x = some v := by
  cases x <;> simp [orDivision]

theorem read_ok_iff {s : List Char} {v : α} :
    read a s = .ok v ↔ ∃ e : Tree .expression, Spells e.lexemes s ∧ e.value a = some v := by
  constructor
  · exact exists_tree_of_read a
  · rintro ⟨e, hs, he⟩
    exact (read_of_spells a hs).trans (orDivision_ok_iff.mpr he)

end Spelling

/-- Reading is deriving. A text has a value exactly if some split of it into lexemes derives from the
grammar without a division by zero, and then the value is that of the derivation; taking every token as
long as it can be finds every split that has a derivation; and all derivations agree on the value. -/
theorem read_is_derivation {α : Type} (a : Scalars α) (s : List Char) :
    (∀ v, read a s = .ok v ↔ ∃ e : Tree .expression, Spells e.lexemes s ∧ e.value a = some v) ∧
    (∀ e : Tree .expression, Spells e.lexemes s →
      ∃ ts, tokens s = .ok ts ∧ ts.map Token.lexeme = e.lexemes) ∧
    (∀ e f : Tree .expression, Spells e.lexemes s → Spells f.lexemes s → e.value a = f.value a) ∧
    (∀ x, readDouble s = .ok x ↔ ∃ e : Tree .expression, Spells e.lexemes s ∧
      ∃ v, e.value doubles = some v ∧ Decimal.Double.ofFloat v = x) := by
  refine ⟨fun v => read_ok_iff a, ?_, ?_, ?_⟩
  · intro e hs
    exact tokensFrom_of_spells 0 e.numbersApart hs
  · intro e f he hf
    have same : orDivision (e.value a) .ok = orDivision (f.value a) .ok :=
      (read_of_spells a he).symm.trans (read_of_spells a hf)
    apply Option.ext
    intro v
    rw [← orDivision_ok_iff, ← orDivision_ok_iff, same]
  · intro x
    constructor
    · intro h
      cases hr : read doubles s with
      | error f => simp [readDouble, hr, Except.map] at h
      | ok v =>
        obtain ⟨e, hs, he⟩ := exists_tree_of_read doubles hr
        exact ⟨e, hs, v, he, by simpa [readDouble, hr, Except.map] using h⟩
    · rintro ⟨e, hs, v, he, rfl⟩
      have hr : read doubles s = .ok v := (read_ok_iff doubles).mpr ⟨e, hs, he⟩
      simp [readDouble, hr, Except.map]

end Reckoner.Arithmetic
