import Reckoner.Arithmetic.Evaluation
import Reckoner.Proofs.Arithmetic.LongestMatch
import Reckoner.Proofs.Text.Numerals
import Mathlib.Data.Rat.Floor

namespace Reckoner.Arithmetic

open Reckoner.Text

/-- Ten or more decimal digits stand next to each other. -/
def HasLongRun (s : List Char) : Prop :=
  ∃ x, x <:+: s ∧ 10 ≤ x.length ∧ ∀ c ∈ x, isDigit c = true

/-- A run that starts at a character is longer than what is missing by the rest of it. -/
theorem front_of_run {p : Char → Bool} {m : Nat} {c : Char} {s x : List Char} (first : x <+: c :: s)
    (long : m + 1 ≤ x.length) (all : ∀ d ∈ x, p d = true) :
    p c = true ∧ ∃ y, y <+: s ∧ y.length = m ∧ ∀ d ∈ y, p d = true := by
  cases x with
  | nil => simp at long
  | cons d x =>
    obtain ⟨rfl, rest⟩ := List.cons_prefix_cons.mp first
    refine ⟨all d (by simp), x.take m, (List.take_prefix m x).trans rest, ?_, ?_⟩
    · rw [List.length_take, Nat.min_eq_left (by simpa using long)]
    · exact fun d hd => all d (List.mem_cons_of_mem _ (List.mem_of_mem_take hd))

/-- Characters of a class in front, as many as are missing, or a whole run of them further on. -/
theorem hasRun_iff {p : Char → Bool} {n : Nat} (s : List Char) {missing : Nat} (few : missing ≤ n) :
    hasRun p n missing s = true ↔
      (∃ x, x <+: s ∧ x.length = missing ∧ ∀ c ∈ x, p c = true) ∨
        ∃ x, x <:+: s ∧ x.length = n ∧ ∀ c ∈ x, p c = true := by
  induction s generalizing missing with
  | nil =>
    simp only [hasRun, decide_eq_true_eq, List.prefix_nil, List.infix_nil]
    constructor
    · rintro rfl
      exact Or.inl ⟨[], rfl, rfl, by simp⟩
    · rintro (⟨x, rfl, rfl, -⟩ | ⟨x, rfl, rfl, -⟩)
      · rfl
      · exact Nat.le_zero.mp few
  | cons c s ih =>
    cases missing with
    | zero =>
      simp only [hasRun, decide_true, Bool.true_or, true_iff]
      exact Or.inl ⟨[], List.nil_prefix, rfl, by simp⟩
    | succ m =>
      have first : hasRun p n (m + 1) (c :: s) = hasRun p n (if p c then m else n) s := by
        simp [hasRun]
      rw [first]
      cases hc : p c with
      | true =>
        rw [if_pos rfl, ih (Nat.le_of_succ_le few)]
        constructor
        · rintro (⟨x, hx, hl, all⟩ | ⟨x, hx, hl, all⟩)
          · refine Or.inl ⟨c :: x, List.cons_prefix_cons.mpr ⟨rfl, hx⟩, by simp [hl], ?_⟩
            intro d hd
            rcases List.mem_cons.mp hd with rfl | hd
            · exact hc
            · exact all d hd
          · exact Or.inr ⟨x, hx.trans (List.suffix_cons c s).isInfix, hl, all⟩
        · rintro (⟨x, hx, hl, all⟩ | ⟨x, hx, hl, all⟩)
          · exact Or.inl (front_of_run hx (Nat.le_of_eq hl.symm) all).2
          · rcases List.infix_cons_iff.mp hx with hx | hx
            · exact Or.inl (front_of_run hx (hl ▸ few) all).2
            · exact Or.inr ⟨x, hx, hl, all⟩
      | false =>
        have other : p c ≠ true := by simp [hc]
        rw [if_neg (by simp), ih (Nat.le_refl n)]
        constructor
        · rintro (⟨x, hx, hl, all⟩ | ⟨x, hx, hl, all⟩)
          · exact Or.inr ⟨x, hx.isInfix.trans (List.suffix_cons c s).isInfix, hl, all⟩
          · exact Or.inr ⟨x, hx.trans (List.suffix_cons c s).isInfix, hl, all⟩
        · rintro (⟨x, hx, hl, all⟩ | ⟨x, hx, hl, all⟩)
          · exact absurd (front_of_run hx (Nat.le_of_eq hl.symm) all).1 other
          · rcases List.infix_cons_iff.mp hx with hx | hx
            · exact absurd (front_of_run hx (hl ▸ few) all).1 other
            · exact Or.inr ⟨x, hx, hl, all⟩

theorem hasLongRun_iff {s : List Char} : hasLongRun s = true ↔ HasLongRun s := by
  rw [hasLongRun, hasRun_iff s (Nat.le_refl longRun)]
  constructor
  · rintro (⟨x, hx, hl, all⟩ | ⟨x, hx, hl, all⟩)
    · exact ⟨x, hx.isInfix, Nat.le_of_eq hl.symm, all⟩
    · exact ⟨x, hx, Nat.le_of_eq hl.symm, all⟩
  · rintro ⟨x, hx, hl, all⟩
    refine Or.inr ⟨x.take 10, (List.take_prefix 10 x).isInfix.trans hx, ?_, ?_⟩
    · rw [List.length_take, Nat.min_eq_left hl]
      rfl
    · exact fun c hc => all c (List.mem_of_mem_take hc)

theorem Operator.ofSymbol?_symbol (o : Operator) : ofSymbol? o.symbol = some o := by
  cases o <;> rfl

theorem Operator.isDigit_symbol (o : Operator) : isDigit o.symbol = false := by
  cases o <;> decide

/-- An operation is taken from a text exactly if the text spells it. -/
theorem ofChars?_iff {s : List Char} {op : Operation} : Operation.ofChars? s = some op ↔
    (op.left ≠ [] ∧ ∀ c ∈ op.left, isDigit c = true) ∧
      (op.right ≠ [] ∧ ∀ c ∈ op.right, isDigit c = true) ∧
      s = op.left ++ op.operator.symbol :: op.right := by
  constructor
  · intro h
    have whole := List.takeWhile_append_dropWhile (p := isDigit) (l := s)
    unfold Operation.ofChars? at h
    split at h
    · simp at h
    · rename_i c right hright
      simp only at h
      split at h
      · simp at h
      · rename_i o ho
        split at h
        · simp at h
        · rename_i formed
          obtain rfl := Option.some.inj h
          simp only [Bool.or_eq_true, List.isEmpty_iff, Bool.not_eq_true', not_or,
            Bool.not_eq_false, List.all_eq_true] at formed
          obtain ⟨⟨left, right_some⟩, right_digits⟩ := formed
          refine ⟨⟨left, fun d hd => List.mem_takeWhile_imp hd⟩, ⟨right_some, right_digits⟩, ?_⟩
          rw [Operator.symbol_ofSymbol? ho, ← hright, whole]
  · rintro ⟨⟨left_some, left⟩, ⟨right_some, right⟩, rfl⟩
    obtain ⟨l, o, r⟩ := op
    have stop : ∀ c ∈ (o.symbol :: r).head?, isDigit c = false := by
      intro c hc
      obtain rfl : o.symbol = c := by simpa using hc
      exact o.isDigit_symbol
    have all : r.all isDigit = true := List.all_eq_true.mpr right
    simp only [Operation.ofChars?, takeWhile_of_stop left stop, dropWhile_of_stop left stop,
      Operator.ofSymbol?_symbol, all]
    simp [left_some, right_some]

/-- The operation on numbers without any rounding. -/
def Operator.apply : Operator → ℚ → ℚ → ℚ
  | .add, a, b => a + b
  | .sub, a, b => a - b
  | .mul, a, b => a * b
  | .div, a, b => a / b

/-- A number without its fraction. -/
def cut (q : ℚ) : ℤ :=
  if 0 ≤ q then ⌊q⌋ else ⌈q⌉

/-- No result has more digits than the operands together. -/
theorem natAbs_applyExact_lt (o : Operator) (a b : Nat) :
    (applyExact o a b).natAbs < (a + 1) * (b + 1) := by
  have wide : (a + 1) * (b + 1) = a * b + a + b + 1 := by ring
  cases o with
  | add =>
    simp only [applyExact]
    omega
  | sub =>
    simp only [applyExact]
    omega
  | mul =>
    have product : (applyExact .mul a b).natAbs = a * b := by
      rw [applyExact, ← Int.natCast_mul, Int.natAbs_natCast]
    rw [product]
    omega
  | div =>
    have quotient : (applyExact .div a b).natAbs = a / b := by
      rw [applyExact, Int.natAbs_tdiv, Int.natAbs_natCast, Int.natAbs_natCast]
      rfl
    have small := Nat.div_le_self a b
    rw [quotient]
    omega

/-- The digits of an operation and of its result are few enough to be converted. -/
theorem Operation.oversize?_eq_none {op : Operation}
    (few : op.left.length + op.right.length ≤ conversionLimit) : op.oversize? = none := by
  have left : ¬ conversionLimit < op.left.length := by omega
  have right : ¬ conversionLimit < op.right.length := by omega
  rw [Operation.oversize?, if_neg left, if_neg right]
  unfold Operation.result?
  split
  · rename_i n hn
    split at hn
    · simp at hn
    · obtain rfl := Option.some.inj hn
      have below : (applyExact op.operator (numberOf op.left) (numberOf op.right)).natAbs <
          10 ^ conversionLimit := by
        calc (applyExact op.operator (numberOf op.left) (numberOf op.right)).natAbs
            < (numberOf op.left + 1) * (numberOf op.right + 1) := natAbs_applyExact_lt ..
          _ ≤ 10 ^ op.left.length * 10 ^ op.right.length :=
            Nat.mul_le_mul (numberOf_lt op.left) (numberOf_lt op.right)
          _ = 10 ^ (op.left.length + op.right.length) := (Nat.pow_add ..).symm
          _ ≤ 10 ^ conversionLimit := Nat.pow_le_pow_right (by decide) few
      rw [Nat.pow_eq, if_neg (Nat.not_le.mpr below)]
  · rfl

theorem oversize?_eq_none (e : String) : oversize? lengthLimit e = none := by
  simp only [oversize?]
  by_cases short : (withoutBlanks e).length ≤ 200
  · split
    · rfl
    cases h : Operation.ofChars? (withoutBlanks e) with
    | none => rfl
    | some op =>
      have whole := congrArg List.length (ofChars?_iff.mp h).2.2
      simp only [List.length_append, List.length_cons] at whole
      have few : op.left.length + op.right.length ≤ conversionLimit := by
        have limit : conversionLimit = 4300 := rfl
        omega
      exact Operation.oversize?_eq_none few
  · have long : lengthLimit < (withoutBlanks e).length := by
      have limit : lengthLimit = 200 := rfl
      omega
    simp [long]

variable {e : String} {a b : Nat} {o : Operator}

theorem HasLongRun.ne_nil {s : List Char} (h : HasLongRun s) : s ≠ [] := by
  rintro rfl
  obtain ⟨x, hx, long, -⟩ := h
  obtain rfl := List.infix_nil.mp hx
  simp at long

section Long

variable (short : (withoutBlanks e).length ≤ 200) (long : HasLongRun (withoutBlanks e))

include short long

end Long

end Reckoner.Arithmetic
