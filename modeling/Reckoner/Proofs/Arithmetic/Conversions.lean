import Reckoner.Arithmetic.Schema
import Reckoner.Decimal.Literal
import Reckoner.Proofs.Arithmetic.LongestMatch
import Reckoner.Proofs.Text.Numerals

namespace Reckoner.Arithmetic

open Reckoner.Decimal Reckoner.Schema Reckoner.Text

/-- What would break an evaluation off although the expression has no fault. -/
inductive Breakage where
  | conversion (o : Oversize)
  | notWhole (text : List Char)
  | notDecimal (text : List Char)
  | zeroDivisor
  | notFinite (x : Double)
  | overflow
  | noExponent (text : List Char)
  | noText (position : Nat)
  | rejected (issues : List Issue)

/-- The whole number that a text writes: digits of any script, with a sign or without one. -/
def readWhole (s : List Char) : Except Breakage Int :=
  let (negative, digits) := takeSign s
  if digits.isEmpty || !digits.all isDigit then .error (.notWhole s)
  else if conversionLimit < digits.length then .error (.conversion (.reading digits.length))
  else .ok (if negative then -(numberOf digits : Int) else numberOf digits)

def writeWhole (n : Int) : Except Breakage String :=
  if Nat.pow 10 conversionLimit ≤ n.natAbs then .error (.conversion .writing) else .ok (toString n)

/-- An operation on whole numbers; there is no quotient by zero. -/
def applyWhole (o : Operator) (a b : Int) : Except Breakage Int :=
  if o = .div && b = 0 then .error .zeroDivisor else .ok (applyExact o a b)

theorem takeSign_of_unsigned {s : List Char} (h : ∀ c ∈ s.head?, c ≠ '-' ∧ c ≠ '+') :
    takeSign s = (false, s) := by
  unfold takeSign
  split
  · exact absurd rfl (h '-' rfl).1
  · exact absurd rfl (h '+' rfl).2
  · rfl

theorem readWhole_of_takeSign {s digits : List Char} {negative : Bool}
    (sign : takeSign s = (negative, digits)) (some_digit : digits ≠ [])
    (all : ∀ c ∈ digits, isDigit c = true) (few : digits.length ≤ conversionLimit) :
    readWhole s = .ok (if negative then -(numberOf digits : Int) else numberOf digits) := by
  have every : digits.all isDigit = true := List.all_eq_true.mpr all
  have some_left : digits.isEmpty = false := by simpa using some_digit
  simp only [readWhole, sign, every, some_left, Bool.not_true, Bool.or_self, Bool.false_eq_true, if_false]
  rw [if_neg (Nat.not_lt.mpr few)]

theorem readWhole_digits {s : List Char} (some_digit : s ≠ []) (all : ∀ c ∈ s, isDigit c = true)
    (few : s.length ≤ conversionLimit) : readWhole s = .ok (numberOf s) := by
  have unsigned : ∀ c ∈ s.head?, c ≠ '-' ∧ c ≠ '+' := by
    intro c hc
    have digit := all c (List.mem_of_mem_head? hc)
    constructor <;> rintro rfl <;> revert digit <;> decide
  exact readWhole_of_takeSign (takeSign_of_unsigned unsigned) some_digit all few

theorem writeWhole_of_lt {n : Int} (h : n.natAbs < 10 ^ conversionLimit) :
    writeWhole n = .ok (toString n) := by
  rw [writeWhole, Nat.pow_eq, if_neg (Nat.not_le.mpr h)]

/-- The common digit of the same value; other characters stay as they are. -/
def commonDigit (c : Char) : Char :=
  match digitValue? c with
  | some v => Nat.digitChar v
  | none => c

/-- The double that a text writes with digits of any script. -/
def readDecimal (s : List Char) : Except Breakage Double :=
  match extended? (s.map commonDigit) with
  | some x => .ok x
  | none => .error (.notDecimal s)

theorem commonDigit_spec {c : Char} (h : isDigit c = true) :
    ∃ v < 10, digitValue? c = some v ∧ commonDigit c = Nat.digitChar v := by
  obtain ⟨v, hv⟩ := isDigit_iff.mp h
  exact ⟨v, digitValue?_lt hv, hv, by rw [commonDigit, hv]⟩

theorem digitValue?_commonDigit (c : Char) : digitValue? (commonDigit c) = digitValue? c := by
  have each : ∀ v < 10, digitValue? (Nat.digitChar v) = some v := by decide
  cases h : digitValue? c with
  | none => rw [commonDigit, h, h]
  | some v => rw [commonDigit, h, each v (digitValue?_lt h)]

theorem numberOf_map_commonDigit (s : List Char) : numberOf (s.map commonDigit) = numberOf s := by
  simp only [numberOf, List.foldl_map, digitValue?_commonDigit]

theorem isAsciiDigit_map {s : List Char} (h : ∀ c ∈ s, isDigit c = true) :
    ∀ c ∈ s.map commonDigit, isAsciiDigit c = true := by
  have each : ∀ v < 10, isAsciiDigit (Nat.digitChar v) = true := by decide
  intro c hc
  obtain ⟨d, hd, rfl⟩ := List.mem_map.mp hc
  obtain ⟨v, small, -, same⟩ := commonDigit_spec (h d hd)
  rw [same]
  exact each v small

theorem map_pointChars (f : Option (List Char)) :
    (pointChars f).map commonDigit = pointChars (f.map (List.map commonDigit)) := by
  cases f <;> rfl

/-- Common digits, of which there are some, with a point and a fraction or without, are a literal. -/
theorem unsigned?_digits {whole : List Char} {fraction : Option (List Char)}
    (whole_digits : ∀ c ∈ whole, isAsciiDigit c = true)
    (fraction_digits : ∀ f ∈ fraction, ∀ c ∈ f, isAsciiDigit c = true)
    (some_digit : whole ≠ [] ∨ ∃ f ∈ fraction, f ≠ []) :
    unsigned? (whole ++ pointChars fraction) =
      some (numberOf (whole ++ fraction.getD []), -((fraction.getD []).length : Int)) := by
  have stop : ∀ c ∈ (pointChars fraction).head?, isAsciiDigit c = false := by
    cases fraction with
    | none => simp [pointChars]
    | some f =>
      intro c hc
      obtain rfl : '.' = c := by simpa [pointChars] using hc
      rfl
  have taken := takeWhile_of_stop whole_digits stop
  have left := dropWhile_of_stop whole_digits stop
  unfold unsigned?
  simp only [taken, left]
  cases fraction with
  | none =>
    have some_whole : whole.isEmpty = false := by simpa using some_digit
    simp [pointChars, some_whole, exponent?]
  | some f =>
    have all : f.takeWhile isAsciiDigit = f := List.takeWhile_eq_self_iff.mpr (fraction_digits f rfl)
    have none_left : f.dropWhile isAsciiDigit = [] := List.dropWhile_eq_nil_iff.mpr (fraction_digits f rfl)
    have some_part : (whole.isEmpty && f.isEmpty) = false := by
      simpa [List.isEmpty_iff, imp_iff_not_or] using some_digit
    simp [pointChars, all, none_left, some_part, exponent?]

/-- What starts with a digit or a point is neither signed nor a name. -/
theorem extended?_of_head {c : Char} {s : List Char} (h : c = '.' ∨ ∃ v < 10, c = Nat.digitChar v) :
    extended? (c :: s) = (unsigned? (c :: s)).map fun p => Double.ofDecimal false p.1 p.2 := by
  have plain : c ≠ '-' ∧ c ≠ '+' ∧ c.toLower ≠ 'i' ∧ c.toLower ≠ 'n' := by
    have each : ∀ v < 10, Nat.digitChar v ≠ '-' ∧ Nat.digitChar v ≠ '+' ∧
        (Nat.digitChar v).toLower ≠ 'i' ∧ (Nat.digitChar v).toLower ≠ 'n' := by decide
    rcases h with rfl | ⟨v, small, rfl⟩
    · decide
    · exact each v small
  have sign : takeSign (c :: s) = (false, c :: s) := by
    refine takeSign_of_unsigned ?_
    intro d hd
    obtain rfl : c = d := by simpa using hd
    exact ⟨plain.1, plain.2.1⟩
  have unnamed (name : String) (d : Char) (rest : List Char) (hname : name.toList = d :: rest)
      (other : c.toLower ≠ d) : String.ofList ((c :: s).map Char.toLower) ≠ name := by
    rintro rfl
    rw [String.toList_ofList, List.map_cons] at hname
    exact other (List.cons.inj hname).1
  have not_inf := unnamed "inf" 'i' _ rfl plain.2.2.1
  have not_infinity := unnamed "infinity" 'i' _ rfl plain.2.2.1
  have not_nan := unnamed "nan" 'n' _ rfl plain.2.2.2
  simp only [extended?, literal?, sign, not_inf, not_infinity, not_nan, decide_false, Bool.or_self,
    Bool.false_eq_true, if_false]

/-- Every number of the grammar is read, as the double it denotes. -/
theorem readDecimal_number {n : Number} (h : n.WellFormed) : readDecimal n.chars = .ok n.toDouble := by
  have whole_digits : ∀ c ∈ n.whole, isDigit c = true := by
    rcases h with ⟨-, all, -⟩ | ⟨empty, -⟩
    · exact all
    · simp [empty]
  have fraction_digits : ∀ f ∈ n.fraction, ∀ c ∈ f, isDigit c = true := by
    rcases h with ⟨-, -, all⟩ | ⟨-, f, hf, -, all⟩
    · exact all
    · intro g hg
      obtain rfl : f = g := by simpa [hf] using hg
      exact all
  have read : unsigned? (n.chars.map commonDigit) =
      some (numberOf (n.whole ++ n.fraction.getD []), -((n.fraction.getD []).length : Int)) := by
    rw [Number.chars, List.map_append, map_pointChars, unsigned?_digits (isAsciiDigit_map whole_digits)]
    · cases n.fraction with
      | none => simp [numberOf_map_commonDigit]
      | some f => simp [← List.map_append, numberOf_map_commonDigit]
    · intro f hf
      obtain ⟨g, hg, rfl⟩ := Option.mem_map.mp hf
      exact isAsciiDigit_map (fraction_digits g hg)
    · rcases h with ⟨some_whole, -⟩ | ⟨-, f, hf, some_fraction, -⟩
      · exact Or.inl (by simpa using some_whole)
      · exact Or.inr ⟨_, Option.mem_map_of_mem _ hf, by simpa using some_fraction⟩
  obtain ⟨c, s, split, first⟩ : ∃ c s, n.chars.map commonDigit = c :: s ∧
      (c = '.' ∨ ∃ v < 10, c = Nat.digitChar v) := by
    rcases h with ⟨some_whole, -⟩ | ⟨empty, f, hf, -⟩
    · obtain ⟨d, rest, hd⟩ := List.exists_cons_of_ne_nil some_whole
      obtain ⟨v, small, -, same⟩ := commonDigit_spec (whole_digits d (by simp [hd]))
      exact ⟨_, _, by rw [Number.chars, hd]; rfl, Or.inr ⟨v, small, same⟩⟩
    · exact ⟨'.', f.map commonDigit, by rw [Number.chars, empty, hf]; rfl, Or.inl rfl⟩
  rw [readDecimal, split, extended?_of_head first, ← split, read]
  rfl

example : (readDecimal "٣.٥".toList).toOption = some (.ofFloat 3.5) := by decide +kernel

end Reckoner.Arithmetic
