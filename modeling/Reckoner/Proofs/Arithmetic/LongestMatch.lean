import Reckoner.Proofs.Arithmetic.Grammar
import Mathlib.Data.List.TakeWhile

namespace Reckoner.Arithmetic

open Reckoner.Text

/-- A text that cannot prolong a number before it. -/
def Stops (s : List Char) : Prop :=
  ∀ c ∈ s.head?, isDigit c = false ∧ c ≠ '.'

theorem stops_nil : Stops [] := by
  intro c hc
  simp at hc

theorem Stops.digit {s : List Char} (h : Stops s) : ∀ c ∈ s.head?, isDigit c = false :=
  fun c hc => (h c hc).1

theorem takeWhile_of_stop {p : Char → Bool} {x rest : List Char} (hx : ∀ c ∈ x, p c = true)
    (hr : ∀ c ∈ rest.head?, p c = false) : (x ++ rest).takeWhile p = x := by
  rw [List.takeWhile_append_of_pos hx]
  cases rest with
  | nil => simp
  | cons c rest => simp [hr c (by simp)]

theorem dropWhile_of_stop {p : Char → Bool} {x rest : List Char} (hx : ∀ c ∈ x, p c = true)
    (hr : ∀ c ∈ rest.head?, p c = false) : (x ++ rest).dropWhile p = rest := by
  rw [List.dropWhile_append_of_pos hx]
  cases rest with
  | nil => rfl
  | cons c rest => simp [hr c (by simp)]

/-- The characters of operators and parentheses are neither digits nor points. -/
theorem stops_of_not_number {l : Lexeme} (h : l.isNumber = false) (s : List Char) :
    Stops (l.chars ++ s) := by
  intro c hc
  cases l with
  | number n => simp [Lexeme.isNumber] at h
  | operator o =>
    cases o <;> simp only [Lexeme.chars, Operator.symbol, List.cons_append, List.head?_cons,
      Option.mem_some_iff] at hc <;> subst hc <;> decide
  | opening | closing =>
    simp only [Lexeme.chars, List.cons_append, List.head?_cons, Option.mem_some_iff] at hc
    subst hc
    decide

theorem takePoint_of_stops {f : Option (List Char)} {rest : List Char}
    (hf : ∀ x ∈ f, ∀ c ∈ x, isDigit c = true) (hr : Stops rest) :
    takePoint (pointChars f ++ rest) = (f, rest) := by
  cases f with
  | none =>
    cases rest with
    | nil => rfl
    | cons c rest =>
      have hc : c ≠ '.' := (hr c (by simp)).2
      simp [pointChars, takePoint, hc]
  | some x =>
    have hx : ∀ c ∈ x, isDigit c = true := hf x rfl
    simp only [pointChars, List.cons_append, takePoint]
    rw [takeWhile_of_stop hx hr.digit, dropWhile_of_stop hx hr.digit]

/-- The character after a run of digits in a number: a point, or what follows the number. -/
theorem pointChars_digit {f : Option (List Char)} {rest : List Char} (hr : Stops rest) :
    ∀ c ∈ (pointChars f ++ rest).head?, isDigit c = false := by
  intro c hc
  cases f with
  | none => exact (hr c (by simpa [pointChars] using hc)).1
  | some x =>
    have h : c = '.' := by simpa [pointChars] using hc.symm
    subst h
    decide

theorem Lexeme.next?_digit {c : Char} (hc : isDigit c = true) (s : List Char) :
    next? (c :: s) = some (.number ⟨c :: s.takeWhile isDigit, (takePoint (s.dropWhile isDigit)).1⟩,
      (takePoint (s.dropWhile isDigit)).2) := by
  have ho : c ≠ '(' := by rintro rfl; revert hc; decide
  have hp : c ≠ ')' := by rintro rfl; revert hc; decide
  simp [next?, hc]

theorem Lexeme.next?_point {d : Char} (hd : isDigit d = true) (s : List Char) :
    next? ('.' :: d :: s) =
      some (.number ⟨[], some (d :: s.takeWhile isDigit)⟩, s.dropWhile isDigit) := by
  have hp : isDigit '.' = false := by decide
  simp [next?, hp, hd, Operator.ofSymbol?]

theorem Lexeme.next?_operator (o : Operator) (s : List Char) :
    next? (o.symbol :: s) = some (.operator o, s) := by
  have hd : isDigit o.symbol = false := by cases o <;> decide
  cases o <;> simp_all [next?, Operator.symbol, Operator.ofSymbol?]

/-- A number is taken as a whole where nothing that follows can prolong it. -/
theorem Lexeme.next?_number {n : Number} {rest : List Char} (hn : n.WellFormed) (hr : Stops rest) :
    next? (n.chars ++ rest) = some (.number n, rest) := by
  obtain ⟨whole, fraction⟩ := n
  rcases hn with ⟨hne, hw, hf⟩ | ⟨hw, f, hf, hne, hd⟩
  · obtain ⟨c, w, rfl⟩ := List.exists_cons_of_ne_nil hne
    have hc : isDigit c = true := hw c (by simp)
    have ht : ∀ x ∈ w, isDigit x = true := fun x hx => hw x (by simp [hx])
    have stop : ∀ x ∈ (pointChars fraction ++ rest).head?, isDigit x = false := pointChars_digit hr
    simp only [Number.chars, List.cons_append, List.append_assoc]
    rw [next?_digit hc, takeWhile_of_stop ht stop, dropWhile_of_stop ht stop,
      takePoint_of_stops hf hr]
  · dsimp only at hw hf
    subst hw hf
    obtain ⟨d, f, rfl⟩ := List.exists_cons_of_ne_nil hne
    have hfirst : isDigit d = true := hd d (by simp)
    have ht : ∀ x ∈ f, isDigit x = true := fun x hx => hd x (by simp [hx])
    simp only [Number.chars, pointChars, List.nil_append, List.cons_append]
    rw [next?_point hfirst, takeWhile_of_stop ht hr.digit, dropWhile_of_stop ht hr.digit]

theorem Lexeme.next?_chars {l : Lexeme} {rest : List Char} (hl : l.WellFormed)
    (hr : l.isNumber = true → Stops rest) : next? (l.chars ++ rest) = some (l, rest) := by
  cases l with
  | number n => exact next?_number hl (hr rfl)
  | operator o => exact next?_operator o rest
  | opening | closing => rfl

theorem tokensFrom_of_next? {s rest : List Char} {l : Lexeme} (position : Nat)
    (h : Lexeme.next? s = some (l, rest)) :
    tokensFrom position s =
      (tokensFrom (position + l.chars.length) rest).map (⟨l, position⟩ :: ·) := by
  cases s with
  | nil => simp [Lexeme.next?] at h
  | cons c s =>
    rw [tokensFrom]
    split
    · rename_i hn
      rw [h] at hn
      simp at hn
    · rename_i l' rest' hn
      rw [h] at hn
      obtain ⟨rfl, rfl⟩ : l = l' ∧ rest = rest' := by simpa using hn
      rfl

/-- Any split of a text with its numbers apart is the one that `tokens` finds, because neither a digit nor a point
follows a number there. -/
theorem tokensFrom_of_spells {ls : List Lexeme} {s : List Char} (position : Nat)
    (ha : NumbersApart ls) (hs : Spells ls s) :
    ∃ ts, tokensFrom position s = .ok ts ∧ ts.map Token.lexeme = ls := by
  induction ls generalizing position s with
  | nil =>
    obtain rfl : s = [] := by simpa using hs.2.symm
    exact ⟨[], by rw [tokensFrom], rfl⟩
  | cons l ls ih =>
    obtain ⟨hw, rfl⟩ := hs
    obtain ⟨hnext, hrest⟩ := List.isChain_cons.mp ha
    have tail : Spells ls (ls.flatMap Lexeme.chars) := ⟨fun x hx => hw x (by simp [hx]), rfl⟩
    have stop : l.isNumber = true → Stops (ls.flatMap Lexeme.chars) := by
      intro hl
      cases ls with
      | nil => exact stops_nil
      | cons m ls =>
        have hm : m.isNumber = false := by simpa [hl] using hnext m (by simp)
        exact stops_of_not_number hm _
    have first : Lexeme.next? (l.chars ++ ls.flatMap Lexeme.chars) =
        some (l, ls.flatMap Lexeme.chars) := Lexeme.next?_chars (hw l (by simp)) stop
    obtain ⟨ts, hts, rfl⟩ := ih (position + l.chars.length) hrest tail
    refine ⟨⟨l, position⟩ :: ts, ?_, rfl⟩
    rw [List.flatMap_cons, tokensFrom_of_next? position first, hts]
    rfl

theorem takePoint_digits {s x : List Char} (h : (takePoint s).1 = some x) :
    ∀ c ∈ x, isDigit c = true := by
  unfold takePoint at h
  split at h
  · obtain rfl := Option.some.inj h
    exact fun c hc => List.mem_takeWhile_imp hc
  · simp at h

/-- What is taken as a token is one of the grammar's. -/
theorem Lexeme.wellFormed_of_next? {s rest : List Char} {l : Lexeme}
    (h : next? s = some (l, rest)) : l.WellFormed := by
  cases l with
  | operator o => trivial
  | opening | closing => trivial
  | number n =>
    unfold next? at h
    split at h
    · simp at h
    · simp at h
    · simp at h
    · rename_i c s _ _
      split at h
      · rename_i hc
        simp only [Option.some.injEq, Prod.mk.injEq, Lexeme.number.injEq] at h
        obtain ⟨rfl, rfl⟩ := h
        refine Or.inl ⟨by simp, ?_, ?_⟩
        · intro x hx
          rcases List.mem_cons.mp hx with rfl | hx
          · exact hc
          · exact List.mem_takeWhile_imp hx
        · intro f hf
          exact takePoint_digits hf
      · split at h
        · simp at h
        · split at h
          · rename_i d s
            split at h
            · rename_i hd
              simp only [Option.some.injEq, Prod.mk.injEq, Lexeme.number.injEq] at h
              obtain ⟨rfl, rfl⟩ := h
              refine Or.inr ⟨rfl, _, rfl, by simp, ?_⟩
              intro x hx
              rcases List.mem_cons.mp hx with rfl | hx
              · exact hd
              · exact List.mem_takeWhile_imp hx
            · simp at h
          · simp at h

theorem spells_of_tokensFrom {s : List Char} {ts : List Token} {position : Nat}
    (h : tokensFrom position s = .ok ts) : Spells (ts.map Token.lexeme) s := by
  fun_induction tokensFrom position s generalizing ts with
  | case1 =>
    obtain rfl : ts = [] := by simpa using h.symm
    exact spells_nil
  | case2 => simp at h
  | case3 position c s l rest hn ih =>
    cases hr : tokensFrom (position + l.chars.length) rest with
    | error f => simp [hr, Except.map] at h
    | ok us =>
      obtain rfl : ⟨l, position⟩ :: us = ts := by simpa [hr, Except.map] using h
      have tail : Spells (us.map Token.lexeme) rest := ih hr
      rw [← Lexeme.next?_append hn]
      exact tail.cons (Lexeme.wellFormed_of_next? hn)

end Reckoner.Arithmetic
