import Reckoner.Text.Digit
import Mathlib.Data.Nat.Digits.Lemmas

namespace Reckoner.Text

/-- One or more decimal digits of any script, each with its value, the last of which counts ones. -/
def Denotes (x : List Char) (n : Nat) : Prop :=
  x ≠ [] ∧ ∃ values, List.Forall₂ (fun c v => digitValue? c = some v) x.reverse values ∧
    n = Nat.ofDigits 10 values

theorem isDigit_iff {c : Char} : isDigit c = true ↔ ∃ v, digitValue? c = some v := by
  rw [isDigit, Option.isSome_iff_exists]

theorem numberOf_append (l : List Char) (c : Char) :
    numberOf (l ++ [c]) = 10 * numberOf l + (digitValue? c).getD 0 := by
  rw [numberOf, List.foldl_append]
  rfl

theorem numberOf_of_values {x : List Char} {values : List Nat}
    (h : List.Forall₂ (fun c v => digitValue? c = some v) x values) :
    numberOf x.reverse = Nat.ofDigits 10 values := by
  induction h with
  | nil => rfl
  | @cons c v x values hv _ ih =>
    rw [List.reverse_cons, numberOf_append, ih, hv, Nat.ofDigits_cons, Option.getD_some]
    omega

theorem exists_values {x : List Char} (h : ∀ c ∈ x, isDigit c = true) :
    ∃ values, List.Forall₂ (fun c v => digitValue? c = some v) x values := by
  induction x with
  | nil => exact ⟨[], .nil⟩
  | cons c x ih =>
    obtain ⟨values, rest⟩ := ih fun d hd => h d (List.mem_cons_of_mem c hd)
    obtain ⟨v, hv⟩ := isDigit_iff.mp (h c (List.mem_cons_self ..))
    exact ⟨v :: values, .cons hv rest⟩

theorem isDigit_of_values {x : List Char} {values : List Nat}
    (h : List.Forall₂ (fun c v => digitValue? c = some v) x values) : ∀ c ∈ x, isDigit c = true := by
  induction h with
  | nil => simp
  | cons hv _ ih =>
    intro c hc
    rcases List.mem_cons.mp hc with rfl | hc
    · exact isDigit_iff.mpr ⟨_, hv⟩
    · exact ih c hc

/-- A run of digits denotes one number, the one that is read from it. -/
theorem denotes_iff {x : List Char} {n : Nat} :
    Denotes x n ↔ x ≠ [] ∧ (∀ c ∈ x, isDigit c = true) ∧ numberOf x = n := by
  constructor
  · rintro ⟨some_digit, values, hv, rfl⟩
    have digits := isDigit_of_values hv
    have value := numberOf_of_values hv
    rw [List.reverse_reverse] at value
    exact ⟨some_digit, fun c hc => digits c (List.mem_reverse.mpr hc), value⟩
  · rintro ⟨some_digit, digits, rfl⟩
    have each : ∀ c ∈ x.reverse, isDigit c = true := fun c hc => digits c (List.mem_reverse.mp hc)
    obtain ⟨values, hv⟩ := exists_values each
    have value := numberOf_of_values hv
    rw [List.reverse_reverse] at value
    exact ⟨some_digit, values, hv, value⟩

theorem numberOf_lt (x : List Char) : numberOf x < 10 ^ x.length := by
  induction x using List.reverseRecOn with
  | nil => exact Nat.one_pos
  | append_singleton x c ih =>
    have digit : (digitValue? c).getD 0 < 10 := by
      cases hv : digitValue? c with
      | none => exact Nat.succ_pos 9
      | some v => exact digitValue?_lt hv
    rw [numberOf_append, List.length_append, List.length_singleton, Nat.pow_succ]
    omega

theorem numberOf_toDigits (n : Nat) : numberOf (Nat.toDigits 10 n) = n := by
  have each : ∀ k < 10, (digitValue? (Nat.digitChar k)).getD 0 = k := by decide
  induction n using Nat.strongRecOn with
  | ind n ih =>
    rcases Nat.lt_or_ge n 10 with small | large
    · rw [Nat.toDigits_of_lt_base small]
      show 10 * 0 + _ = n
      rw [each n small, Nat.mul_zero, Nat.zero_add]
    · rw [Nat.toDigits_of_base_le (by decide) large, numberOf_append, ih (n / 10) (by omega),
        each _ (Nat.mod_lt _ (by decide)), Nat.div_add_mod]

theorem isAsciiDigit_of_mem {n : Nat} {c : Char} (h : c ∈ Nat.toDigits 10 n) : isAsciiDigit c = true := by
  have digit := Nat.isDigit_of_mem_toDigits (by decide) (by decide) h
  simpa [isAsciiDigit, Char.isDigit, UInt32.le_iff_toNat_le] using digit

/-- Digits, the first of which is zero only if it stands alone. -/
theorem toDigits_head (n : Nat) : Nat.toDigits 10 n = ['0'] ∨
    ∃ c rest, Nat.toDigits 10 n = c :: rest ∧ c ≠ '0' := by
  have each : ∀ k < 10, k = 0 ∨ Nat.digitChar k ≠ '0' := by decide
  induction n using Nat.strongRecOn with
  | ind n ih =>
    rcases Nat.lt_or_ge n 10 with small | large
    · rw [Nat.toDigits_of_lt_base small]
      rcases each n small with rfl | other
      · exact Or.inl rfl
      · exact Or.inr ⟨_, [], rfl, other⟩
    · rw [Nat.toDigits_of_base_le (by decide) large]
      rcases ih (n / 10) (by omega) with zero | ⟨c, rest, split, other⟩
      · have value := numberOf_toDigits (n / 10)
        rw [zero] at value
        have none_left : n / 10 = 0 := value.symm
        omega
      · exact Or.inr ⟨c, rest ++ [_], by rw [split]; rfl, other⟩

/-- The digits of a number in their one written form: common digits, with no zero in front of others. -/
structure Canonical (x : List Char) (n : Nat) : Prop where
  denotes : Denotes x n
  common : ∀ c ∈ x, isAsciiDigit c = true
  unpadded : x.head? = some '0' → x = ['0']

theorem canonical_toDigits (n : Nat) : Canonical (Nat.toDigits 10 n) n := by
  have common : ∀ c ∈ Nat.toDigits 10 n, isAsciiDigit c = true := fun c => isAsciiDigit_of_mem
  have digits : ∀ c ∈ Nat.toDigits 10 n, isDigit c = true :=
    fun c hc => isDigit_of_isAsciiDigit (common c hc)
  rcases toDigits_head n with zero | ⟨c, rest, split, other⟩
  · refine ⟨denotes_iff.mpr ⟨by simp [zero], digits, numberOf_toDigits n⟩, common, ?_⟩
    intro _
    exact zero
  · refine ⟨denotes_iff.mpr ⟨by simp [split], digits, numberOf_toDigits n⟩, common, ?_⟩
    intro first
    rw [split] at first
    exact absurd (Option.some.inj first) other

/-- A whole number as it is written: a minus sign in front of the digits only if it is negative. -/
def Writes (text : List Char) (n : Int) : Prop :=
  ∃ digits, Canonical digits n.natAbs ∧ text = if n < 0 then '-' :: digits else digits

theorem toList_toString (n : Int) :
    (toString n).toList = if n < 0 then '-' :: Nat.toDigits 10 n.natAbs else Nat.toDigits 10 n.natAbs := by
  cases n with
  | ofNat n =>
    have nonneg : ¬ Int.ofNat n < 0 := Int.not_lt.mpr (Int.natCast_nonneg n)
    rw [if_neg nonneg]
    exact Nat.toList_repr
  | negSucc n =>
    rw [if_pos (Int.negSucc_lt_zero n)]
    show ("-" ++ (n + 1).repr).toList = _
    rw [String.toList_append, Nat.toList_repr]
    rfl

theorem writes_toString (n : Int) : Writes (toString n).toList n :=
  ⟨Nat.toDigits 10 n.natAbs, canonical_toDigits n.natAbs, toList_toString n⟩

theorem Writes.ne_nil {text : List Char} {n : Int} (h : Writes text n) : text ≠ [] := by
  obtain ⟨digits, canonical, rfl⟩ := h
  split
  · exact List.cons_ne_nil _ _
  · exact canonical.denotes.1

end Reckoner.Text
