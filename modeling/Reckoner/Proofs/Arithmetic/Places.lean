import Reckoner.Arithmetic.Evaluation
import Reckoner.Failure
import Reckoner.Proofs.Arithmetic.Tokenization
import Reckoner.Proofs.Arithmetic.Viability

namespace Reckoner.Arithmetic

open Reckoner.Text

/-- The text that a fault holds against an expression, and the place that it names for it. -/
def Fault.named? : Fault → Option (List Char × Nat)
  | .unexpectedCharacter c p => some ([c], p)
  | .unexpectedToken text p => some (text.toList, p)
  | .unclosed p => some (Lexeme.opening.chars, p)
  | _ => none

/-- A text stands in another from a place on. -/
def StandsAt (text : List Char) (p : Nat) (s : List Char) : Prop :=
  text <+: s.drop p

theorem standsAt_append (x text y : List Char) : StandsAt text x.length (x ++ (text ++ y)) := by
  rw [StandsAt, List.drop_left]
  exact List.prefix_append text y

/-- What is held against tokens is one of them. -/
theorem Fault.Blames.named {ts : List Token} {f : Fault} (h : f.Blames ts) {text : List Char} {p : Nat}
    (named : f.named? = some (text, p)) : ∃ k ∈ ts, k.lexeme.chars = text ∧ k.position = p := by
  cases f with
  | unexpectedToken t q =>
    obtain ⟨us, k, vs, rfl, ht, hq, -, -⟩ := h
    obtain ⟨rfl, rfl⟩ : t.toList = text ∧ q = p := by simpa [Fault.named?] using named
    exact ⟨k, by simp, by simp [← ht, Token.text], hq⟩
  | unclosed q =>
    obtain ⟨us, vs, rfl, -, ⟨x, k, y, rfl, hk, hq, -⟩, -⟩ := h
    obtain ⟨rfl, rfl⟩ : Lexeme.opening.chars = text ∧ q = p := by simpa [Fault.named?] using named
    exact ⟨k, by simp, by rw [hk], hq⟩
  | unexpectedCharacter c q => exact h.elim
  | empty | tooLong _ | unexpectedEnd | divisionByZero | notFinite | unsupported
  | exactDivisionByZero => simp [Fault.named?] at named

theorem standsAt_of_read {α : Type} (a : Scalars α) {s : List Char} {f : Fault}
    (failed : read a s = .error f) {text : List Char} {p : Nat} (named : f.named? = some (text, p)) :
    text ≠ [] ∧ StandsAt text p s := by
  cases split : tokens s with
  | error g =>
    obtain rfl : g = f := by simpa [read, split, bind, Except.bind] using failed
    obtain ⟨-, x, c, y, rfl, -, -, rfl⟩ := tokens_error_iff.mp split
    obtain ⟨rfl, rfl⟩ : [c] = text ∧ x.length = p := by simpa [Fault.named?] using named
    exact ⟨by simp, standsAt_append x [c] y⟩
  | ok ts =>
    have failed' : valueOf a ts = .error f := by
      simpa [read, split, bind, Except.bind] using failed
    obtain ⟨k, hk, rfl, rfl⟩ := (blames_of_valueOf a failed').named named
    obtain ⟨some_char, x, y, rfl, hp⟩ := (tokens_ok_iff.mp split).mem hk
    rw [hp, Nat.zero_add]
    exact ⟨some_char, standsAt_append x k.lexeme.chars y⟩

/-- Only reading an expression in doubles names places. -/
theorem read_of_named {limit : Int} {s : List Char} {f : Fault} (h : evaluateChars limit s = .error f)
    {text : List Char} {p : Nat} (named : f.named? = some (text, p)) : read doubles s = .error f := by
  have unnamed : ∀ g : Fault, g.named? = none → g ≠ f := by
    rintro g hg rfl
    simp [hg] at named
  unfold evaluateChars at h
  split at h
  · exact absurd (Except.error.inj h) (unnamed _ rfl)
  split at h
  · exact absurd (Except.error.inj h) (unnamed _ rfl)
  split at h
  · cases hx : evaluateExact s with
    | ok n => simp [evaluateDigits, hx, bind, Except.bind, pure, Except.pure] at h
    | error g =>
      obtain rfl : g = f := by simpa [evaluateDigits, hx, bind, Except.bind] using h
      unfold evaluateExact at hx
      split at hx
      · exact absurd (Except.error.inj hx) (unnamed _ rfl)
      split at hx
      · exact absurd (Except.error.inj hx) (unnamed _ rfl)
      · simp at hx
  · cases hr : read doubles s with
    | error g =>
      simpa [evaluateDouble, readDouble, hr, bind, Except.bind, Except.map] using h
    | ok v =>
      cases hv : Decimal.Double.ofFloat v with
      | finite negative m e =>
        simp [evaluateDouble, readDouble, hr, hv, bind, Except.bind, Except.map, pure, Except.pure] at h
      | nan | infinite =>
        have finite : Fault.notFinite = f := by
          simpa [evaluateDouble, readDouble, hr, hv, bind, Except.bind, Except.map, throw,
            throwThe, MonadExceptOf.throw] using h
        exact absurd finite (unnamed _ rfl)

theorem evaluate_error {e : String} {f : Failure} (h : evaluate e = .error f) :
    f.expression = e ∧ evaluateChars lengthLimit (withoutBlanks e) = .error f.fault := by
  unfold evaluate evaluateWithin at h
  split at h
  · simp at h
  · rename_i fault hf
    obtain rfl := Except.error.inj h
    exact ⟨rfl, hf⟩

theorem length_eq_add_countP (s : List Char) :
    s.length = (s.filter (!isBlank ·)).length + s.countP isBlank := by
  induction s with
  | nil => rfl
  | cons c s ih =>
    cases hc : isBlank c with
    | true => simp [hc, ih, Nat.add_assoc]
    | false =>
      simp only [List.filter_cons, List.countP_cons, hc, List.length_cons, ih]
      simp only [Bool.not_false, if_true, List.length_cons, Bool.false_eq_true, if_false]
      omega

/-- A text that stands in an expression without its white space starts in the expression itself as many
places later as there are white characters before it. -/
theorem exists_start {s text : List Char} {p : Nat} (some_char : text ≠ [])
    (h : StandsAt text p (s.filter (!isBlank ·))) :
    ∃ x y, s = x ++ y ∧ x.length = p + x.countP isBlank ∧ y.head? = text.head? ∧
      text <+: y.filter (!isBlank ·) := by
  obtain ⟨t, text, rfl⟩ := List.exists_cons_of_ne_nil some_char
  obtain ⟨more, hm⟩ := h
  have inside : p ≤ (s.filter (!isBlank ·)).length := by
    have long := congrArg List.length hm
    simp only [List.length_append, List.length_cons, List.length_drop] at long
    omega
  have parts : s.filter (!isBlank ·) = (s.filter (!isBlank ·)).take p ++ (t :: (text ++ more)) := by
    rw [← List.cons_append, hm, List.take_append_drop]
  obtain ⟨x, y, rfl, hx, hy⟩ := List.filter_eq_append_iff.mp parts
  obtain ⟨blanks, z, rfl, hb, ht, hz⟩ := List.filter_eq_cons_iff.mp hy
  refine ⟨x ++ blanks, t :: z, by simp, ?_, rfl, ?_⟩
  · have no_more : blanks.filter (!isBlank ·) = [] := List.filter_eq_nil_iff.mpr hb
    have before : ((x ++ blanks).filter (!isBlank ·)).length = p := by
      rw [List.filter_append, no_more, List.append_nil, hx, List.length_take,
        Nat.min_eq_left inside]
    rw [length_eq_add_countP, before]
  · rw [List.filter_cons, if_pos ht, hz]
    exact ⟨more, rfl⟩

theorem standsAt_iff_take {text s : List Char} {p : Nat} :
    StandsAt text p s ↔ (s.drop p).take text.length = text := by
  rw [StandsAt, List.prefix_iff_eq_take, eq_comm]

/-- Up to the first white character nothing moves. -/
theorem take_filter {s : List Char} {n : Nat} (unbroken : ∀ c ∈ s.take n, isBlank c = false) :
    (s.filter (!isBlank ·)).take n = s.take n := by
  have kept : (s.take n).filter (!isBlank ·) = s.take n := by
    rw [List.filter_eq_self]
    intro c hc
    rw [unbroken c hc]
    rfl
  have parts : s.filter (!isBlank ·) = s.take n ++ (s.drop n).filter (!isBlank ·) := by
    conv => lhs; rw [← List.take_append_drop n s, List.filter_append, kept]
  rw [parts]
  rcases Nat.le_total n s.length with short | long
  · exact List.take_left' (by rw [List.length_take, Nat.min_eq_left short])
  · have nothing : s.drop n = [] := List.drop_eq_nil_of_le long
    rw [nothing, List.filter_nil, List.append_nil, List.take_take, Nat.min_self]

theorem StandsAt.of_filter {text s : List Char} {p : Nat} (h : StandsAt text p (s.filter (!isBlank ·)))
    (unbroken : ∀ c ∈ s.take (p + text.length), isBlank c = false) : StandsAt text p s := by
  rw [standsAt_iff_take] at h ⊢
  calc (s.drop p).take text.length
      = (s.take (p + text.length)).drop p := by rw [List.drop_take, Nat.add_sub_cancel_left]
    _ = ((s.filter (!isBlank ·)).take (p + text.length)).drop p := by rw [take_filter unbroken]
    _ = ((s.filter (!isBlank ·)).drop p).take text.length := by
      rw [List.drop_take, Nat.add_sub_cancel_left]
    _ = text := h

/-- What a fault names stands at its place in the expression without white space. In the expression that
is shown with the fault it starts as many places later as there are white characters before it; at the
very place it stands exactly if both expressions have the same characters there, and so whenever no white
character comes before its end. -/
theorem named_place_iff {e : String} {f : Failure} {text : List Char} {p : Nat}
    (failed : evaluate e = .error f) (named : f.fault.named? = some (text, p)) :
    f.expression = e ∧ (Reckoner.Failure.evaluation f).details = [("expression", .text e)] ∧
    StandsAt text p (withoutBlanks e) ∧
    (∃ x y, e.toList = x ++ y ∧ x.length = p + x.countP isBlank ∧ y.head? = text.head? ∧
      text <+: y.filter (!isBlank ·)) ∧
    (StandsAt text p e.toList ↔ (e.toList.drop p).take text.length =
      ((withoutBlanks e).drop p).take text.length) ∧
    ((∀ c ∈ e.toList.take (p + text.length), isBlank c = false) → StandsAt text p e.toList) := by
  obtain ⟨shown, fault⟩ := evaluate_error failed
  obtain ⟨some_char, stands⟩ := standsAt_of_read doubles (read_of_named fault named) named
  refine ⟨shown, ?_, stands, exists_start some_char stands, ?_, stands.of_filter⟩
  · rw [Reckoner.Failure.details, shown]
  · rw [standsAt_iff_take.mp stands]
    exact standsAt_iff_take

/-- The dollar sign starts at four, as there are two spaces before it. -/
theorem named_place_spaced :
    ∃ f, evaluate "1 + $" = .error f ∧ f.fault.named? = some (['$'], 2) ∧
      ∃ x y, "1 + $".toList = x ++ y ∧ x.length = 2 + x.countP isBlank ∧ y.head? = some '$' := by
  have failed : evaluate "1 + $" = .error ⟨"1 + $", .unexpectedCharacter '$' 2⟩ := by decide +kernel
  obtain ⟨-, -, -, ⟨x, y, parts, behind, first, -⟩, -⟩ := named_place_iff failed rfl
  exact ⟨_, failed, rfl, x, y, parts, behind, first⟩

/-- So the place that is told for the dollar sign is that of the plus. -/
theorem named_place_misses_shown :
    evaluate "1 + $" = .error ⟨"1 + $", .unexpectedCharacter '$' 2⟩ ∧
      ¬ StandsAt ['$'] 2 "1 + $".toList ∧ StandsAt ['+'] 2 "1 + $".toList := by
  refine ⟨by decide +kernel, ?_, ?_⟩
  · rw [standsAt_iff_take]
    decide
  · rw [standsAt_iff_take]
    decide

end Reckoner.Arithmetic
