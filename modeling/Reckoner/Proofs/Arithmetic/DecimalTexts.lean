import Reckoner.Proofs.Arithmetic.Display
import Reckoner.Proofs.Arithmetic.LongestMatch
import Reckoner.Proofs.Decimal.FewestDigits

namespace Reckoner.Arithmetic

open Reckoner.Decimal Reckoner.Text

/-- A number with the sign that it is written with. -/
def signed (negative : Bool) (r : ℚ) : ℚ :=
  if negative then -r else r

theorem abs_signed {negative : Bool} {r : ℚ} (h : 0 ≤ r) : |signed negative r| = r := by
  unfold signed
  split
  · rw [abs_neg, abs_of_nonneg h]
  · exact abs_of_nonneg h

def signChars (negative : Bool) : List Char :=
  if negative then ['-'] else []

theorem mem_signChars {negative : Bool} {c : Char} (h : c ∈ signChars negative) : c = '-' := by
  cases negative
  · cases h
  · exact List.mem_singleton.mp h

/-- Whole digits, and decimals behind a point if there are any. -/
structure Plain where
  negative : Bool
  whole : List Char
  fraction : List Char

namespace Plain

def pointed : List Char → List Char
  | [] => []
  | c :: fraction => '.' :: c :: fraction

def chars (p : Plain) : List Char :=
  signChars p.negative ++ (p.whole ++ pointed p.fraction)

def magnitude (p : Plain) : ℚ :=
  numberOf (p.whole ++ p.fraction) / 10 ^ p.fraction.length

def value (p : Plain) : ℚ :=
  signed p.negative p.magnitude

/-- The one way to write a number: no zero before another whole digit or behind the decimals, and no sign on zero. -/
structure Canonical (p : Plain) : Prop where
  whole : Text.Canonical p.whole (numberOf p.whole)
  digits : ∀ c ∈ p.fraction, isAsciiDigit c = true
  trimmed : p.fraction.getLast? ≠ some '0'
  signed : p.negative = true → p.magnitude ≠ 0

variable {p q : Plain}

theorem pointed_stops (fraction : List Char) : ∀ c ∈ (pointed fraction).head?, isAsciiDigit c = false := by
  intro c hc
  cases fraction with
  | nil => cases hc
  | cons d fraction =>
    obtain rfl := Option.some.inj hc
    decide

theorem pointed_injective : Function.Injective pointed := by
  intro x y same
  cases x <;> cases y <;> simp_all [pointed]

/-- The whole digits begin with a digit, so a sign is told from them. -/
theorem Canonical.exists_head (h : p.Canonical) : ∃ c rest, p.whole = c :: rest ∧ isAsciiDigit c = true := by
  obtain ⟨c, rest, split⟩ := List.exists_cons_of_ne_nil h.whole.denotes.1
  exact ⟨c, rest, split, h.whole.common c (split ▸ List.mem_cons_self ..)⟩

/-- A text is written of one number only. -/
theorem eq_of_chars (hp : p.Canonical) (hq : q.Canonical) (same : p.chars = q.chars) : p = q := by
  have sign {a b : Plain} (ha : a.negative = true) (hb : b.negative = false) (canonical : b.Canonical) :
      a.chars ≠ b.chars := by
    obtain ⟨c, rest, split, digit⟩ := canonical.exists_head
    intro same
    simp only [chars, signChars, ha, hb, split, if_true, Bool.false_eq_true, if_false, List.cons_append,
      List.nil_append, List.cons.injEq] at same
    obtain rfl := same.1
    revert digit
    decide
  have signs : p.negative = q.negative := by
    cases hn : p.negative <;> cases hm : q.negative
    case false.true => exact absurd same.symm (sign hm hn hp)
    case true.false => exact absurd same (sign hn hm hq)
    case false.false | true.true => rfl
  have body : p.whole ++ pointed p.fraction = q.whole ++ pointed q.fraction := by
    rw [chars, chars, signs] at same
    exact List.append_cancel_left same
  have whole : p.whole = q.whole := by
    rw [← takeWhile_of_stop hp.whole.common (pointed_stops p.fraction), body,
      takeWhile_of_stop hq.whole.common (pointed_stops q.fraction)]
  rw [whole] at body
  have fraction := pointed_injective (List.append_cancel_left body)
  cases p
  cases q
  congr

/-- A plain decimal has no other characters than these. -/
theorem Canonical.mem_chars (h : p.Canonical) {c : Char} (hc : c ∈ p.chars) :
    isAsciiDigit c = true ∨ c = '-' ∨ c = '.' := by
  rcases List.mem_append.mp hc with sign | body
  · exact Or.inr (Or.inl (mem_signChars sign))
  · rcases List.mem_append.mp body with whole | fraction
    · exact Or.inl (h.whole.common c whole)
    · cases decimals : p.fraction with
      | nil => simp [decimals, pointed] at fraction
      | cons d rest =>
        rw [decimals, pointed] at fraction
        rcases List.mem_cons.mp fraction with rfl | digit
        · exact Or.inr (Or.inr rfl)
        · exact Or.inl (h.digits c (decimals ▸ digit))

/-- No zero is written with a sign. -/
theorem Canonical.unsigned (h : p.Canonical) : p.chars ≠ ['-', '0'] := by
  intro same
  cases sign : p.negative with
  | false =>
    obtain ⟨c, rest, split, digit⟩ := h.exists_head
    simp only [chars, signChars, sign, split, Bool.false_eq_true, if_false, List.nil_append, List.cons_append,
      List.cons.injEq] at same
    obtain rfl := same.1
    revert digit
    decide
  | true =>
    have body : p.whole ++ pointed p.fraction = ['0'] := by
      rw [chars, sign] at same
      exact (List.cons.inj same).2
    have whole : p.whole = ['0'] := by
      rw [← takeWhile_of_stop h.whole.common (pointed_stops p.fraction), body]
      decide
    have fraction : pointed p.fraction = pointed [] := by
      rw [whole] at body
      exact (List.cons.inj body).2
    refine h.signed sign ?_
    rw [magnitude, whole, pointed_injective fraction]
    exact div_eq_zero_iff.mpr (Or.inl (Nat.cast_eq_zero.mpr rfl))

/-- A whole number is written without a point. -/
theorem exists_whole (negative : Bool) {n : Nat} (some_value : negative = true → n ≠ 0) :
    ∃ p : Plain, p.Canonical ∧ p.negative = negative ∧ p.fraction = [] ∧ p.magnitude = n ∧
      p.chars = signChars negative ++ Nat.toDigits 10 n := by
  have value : (⟨negative, Nat.toDigits 10 n, []⟩ : Plain).magnitude = n := by
    simp [magnitude, numberOf_toDigits]
  refine ⟨⟨negative, Nat.toDigits 10 n, []⟩, ⟨?_, by simp, by simp, fun sign => ?_⟩, rfl, rfl, value, ?_⟩
  · rw [numberOf_toDigits]
    exact canonical_toDigits n
  · rw [value]
    exact Nat.cast_ne_zero.mpr (some_value sign)
  · simp [chars, pointed]

theorem getLast?_toDigits (n : Nat) : (Nat.toDigits 10 n).getLast? = some (Nat.digitChar (n % 10)) := by
  rcases Nat.lt_or_ge n 10 with small | large
  · rw [Nat.toDigits_of_lt_base small, Nat.mod_eq_of_lt small]
    rfl
  · rw [Nat.toDigits_of_base_le (by decide) large, List.getLast?_append]
    rfl

theorem getLast?_toDigits_ne {n : Nat} (last : n % 10 ≠ 0) : (Nat.toDigits 10 n).getLast? ≠ some '0' := by
  have each : ∀ k < 10, k ≠ 0 → Nat.digitChar k ≠ '0' := by decide
  rw [getLast?_toDigits]
  intro zero
  exact each (n % 10) (Nat.mod_lt n (by decide)) last (Option.some.inj zero)

/-- The digits of a decimal with a place behind the point, before and behind that point. -/
def split (digits : List Char) (decimals : Nat) : List Char × List Char :=
  if decimals < digits.length then
    (digits.take (digits.length - decimals), digits.drop (digits.length - decimals))
  else (['0'], List.replicate (decimals - digits.length) '0' ++ digits)

theorem toList_positional (digits : String) (k : Nat) :
    (positional digits (.negSucc k)).toList =
      (split digits.toList (k + 1)).1 ++ '.' :: (split digits.toList (k + 1)).2 := by
  unfold positional split
  dsimp only
  rw [String.length_toList]
  split
  · rw [String.toList_ofList]
  · simp [zeros]

section Split

variable {n decimals : Nat}

theorem numberOf_split : numberOf ((split (Nat.toDigits 10 n) decimals).1 ++ (split (Nat.toDigits 10 n) decimals).2) =
    n := by
  unfold split
  split
  · rw [List.take_append_drop, numberOf_toDigits]
  · show numberOf (List.replicate 1 '0' ++ _) = n
    rw [numberOf_zeros, numberOf_zeros, numberOf_toDigits]

theorem length_split (digits : List Char) : (split digits decimals).2.length = decimals := by
  unfold split
  split
  · rw [List.length_drop]
    omega
  · rw [List.length_append, List.length_replicate]
    omega

/-- No zero stands before another whole digit, for none stands before the digits that are cut. -/
theorem canonical_split (some_decimal : 0 < decimals) :
    Text.Canonical (split (Nat.toDigits 10 n) decimals).1 (numberOf (split (Nat.toDigits 10 n) decimals).1) := by
  have zero : Text.Canonical ['0'] (numberOf ['0']) := canonical_toDigits 0
  unfold split
  split
  · rename_i few
    rcases toDigits_head n with single | ⟨c, rest, digits, other⟩
    · rw [single, List.length_singleton] at few
      omega
    · have common : ∀ d ∈ c :: rest, isAsciiDigit d = true := fun d hd => isAsciiDigit_of_mem (digits ▸ hd)
      rw [digits] at few ⊢
      obtain ⟨j, length⟩ : ∃ j, (c :: rest).length - decimals = j + 1 :=
        ⟨(c :: rest).length - decimals - 1, by omega⟩
      rw [length, List.take_succ_cons]
      have taken : ∀ d ∈ c :: rest.take j, isAsciiDigit d = true := by
        intro d hd
        rcases List.mem_cons.mp hd with rfl | later
        · exact common d (List.mem_cons_self ..)
        · exact common d (List.mem_cons_of_mem c (List.mem_of_mem_take later))
      refine ⟨denotes_iff.mpr ⟨List.cons_ne_nil _ _, fun d hd => isDigit_of_isAsciiDigit (taken d hd), rfl⟩, taken, ?_⟩
      intro first
      exact absurd (Option.some.inj first) other
  · exact zero

theorem isAsciiDigit_split : ∀ c ∈ (split (Nat.toDigits 10 n) decimals).2, isAsciiDigit c = true := by
  intro c hc
  unfold split at hc
  split at hc
  · exact isAsciiDigit_of_mem (List.mem_of_mem_drop hc)
  · rcases List.mem_append.mp hc with zero | digit
    · obtain rfl := List.eq_of_mem_replicate zero
      decide
    · exact isAsciiDigit_of_mem digit

theorem getLast?_split (some_decimal : 0 < decimals) :
    (split (Nat.toDigits 10 n) decimals).2.getLast? = (Nat.toDigits 10 n).getLast? := by
  unfold split
  split
  · rename_i few
    rw [List.getLast?_drop, if_neg (by omega)]
  · rw [List.getLast?_append, getLast?_toDigits]
    rfl

end Split

/-- A decimal with a place behind the point is written with that many decimals. -/
theorem exists_positional (negative : Bool) {d : Numeral} (broken : d.place < 0) (last : d.digits % 10 ≠ 0) :
    ∃ p : Plain, p.Canonical ∧ p.negative = negative ∧ (p.fraction.length : Int) = -d.place ∧
      p.magnitude = d.value ∧ p.chars = signChars negative ++ (positional (toString d.digits) d.place).toList := by
  obtain ⟨digits, place⟩ := d
  obtain ⟨k, rfl⟩ : ∃ k : Nat, place = .negSucc k := Int.eq_negSucc_of_lt_zero broken
  let parts := split (Nat.toDigits 10 digits) (k + 1)
  let p : Plain := ⟨negative, parts.1, parts.2⟩
  have length : p.fraction.length = k + 1 := length_split _
  have some_decimal : p.fraction ≠ [] := List.ne_nil_of_length_eq_add_one length
  have value : p.magnitude = digits * 10 ^ Int.negSucc k := by
    have whole : numberOf (p.whole ++ p.fraction) = digits := numberOf_split
    rw [magnitude, whole, length, zpow_negSucc, div_eq_mul_inv]
  refine ⟨p, ⟨canonical_split (Nat.succ_pos k), isAsciiDigit_split, ?_, fun _ => ?_⟩, rfl, ?_, value, ?_⟩
  · rw [show p.fraction.getLast? = _ from getLast?_split (Nat.succ_pos k)]
    exact getLast?_toDigits_ne last
  · have some_digit : digits ≠ 0 := by
      rintro rfl
      exact last rfl
    rw [value]
    exact mul_ne_zero (Nat.cast_ne_zero.mpr some_digit) (ten_zpow_pos _).ne'
  · rw [length]
    rfl
  · obtain ⟨c, rest, tail⟩ := List.exists_cons_of_ne_nil some_decimal
    have texts := toList_positional (toString digits) k
    rw [Nat.toString_eq_repr, Nat.toList_repr] at texts
    rw [Nat.toString_eq_repr, texts, chars, tail]
    show _ = signChars negative ++ (p.whole ++ '.' :: p.fraction)
    rw [tail]
    rfl

end Plain

/-- One digit before the point, decimals behind it, and an exponent with its sign. -/
structure Scientific where
  negative : Bool
  lead : Char
  fraction : List Char
  exponent : Int
  places : List Char

namespace Scientific

def chars (s : Scientific) : List Char :=
  signChars s.negative ++
    s.lead :: '.' :: (s.fraction ++ 'e' :: (if s.exponent < 0 then '-' else '+') :: s.places)

def magnitude (s : Scientific) : ℚ :=
  numberOf (s.lead :: s.fraction) * 10 ^ (s.exponent - s.fraction.length)

def value (s : Scientific) : ℚ :=
  signed s.negative s.magnitude

/-- The one way to write a number with so many decimals: neither the digits nor the exponent begin with a zero. -/
structure Canonical (s : Scientific) (decimals : Nat) : Prop where
  digits : ∀ c ∈ s.lead :: s.fraction, isAsciiDigit c = true
  lead : s.lead ≠ '0'
  length : s.fraction.length = decimals
  exponent : Text.Canonical s.places s.exponent.natAbs

/-- A scientific decimal has no other characters than these, and always an exponent. -/
theorem Canonical.mem_chars {s : Scientific} {decimals : Nat} (h : s.Canonical decimals) {c : Char}
    (hc : c ∈ s.chars) : isAsciiDigit c = true ∨ c = '-' ∨ c = '.' ∨ c = 'e' ∨ c = '+' := by
  simp only [chars, List.mem_append, List.mem_cons] at hc
  rcases hc with sign | rfl | rfl | digit | rfl | sign | place
  · exact Or.inr (Or.inl (mem_signChars sign))
  · exact Or.inl (h.digits _ (List.mem_cons_self ..))
  · exact Or.inr (Or.inr (Or.inl rfl))
  · exact Or.inl (h.digits c (List.mem_cons_of_mem _ digit))
  · exact Or.inr (Or.inr (Or.inr (Or.inl rfl)))
  · split at sign
    · exact Or.inr (Or.inl sign)
    · exact Or.inr (Or.inr (Or.inr (Or.inr sign)))
  · exact Or.inl (h.exponent.common c place)

theorem exponent_mem (s : Scientific) : 'e' ∈ s.chars := by
  simp [chars]

/-- Digits that are rounded to a number of them are written with a point behind the first. -/
theorem exists_scientific (negative : Bool) {num den : Nat} (hn : 0 < num) (hd : 0 < den) (decimals : Nat)
    (some_decimal : 0 < decimals) :
    ∃ s : Scientific, s.Canonical decimals ∧ s.negative = negative ∧
      s.magnitude = (significant (decimals + 1) num den).1 *
        10 ^ ((significant (decimals + 1) num den).2 - decimals) ∧
      s.chars = (scientific (decimals + 1) negative num den).toList := by
  obtain ⟨count, -, -⟩ := significant_spec hn hd decimals
  have written : scientific (decimals + 1) negative num den =
      (if negative then "-" else "") ++ pointed (toString (significant (decimals + 1) num den).1) ++
        exponentText 1 (significant (decimals + 1) num den).2 := rfl
  generalize (significant (decimals + 1) num den).1 = n at *
  generalize (significant (decimals + 1) num den).2 = leading at *
  rcases toDigits_head n with single | ⟨c, rest, digits, other⟩
  · rw [digitCount, single, List.length_singleton] at count
    omega
  · have common : ∀ d ∈ c :: rest, isAsciiDigit d = true := fun d hd => isAsciiDigit_of_mem (digits ▸ hd)
    have length : rest.length = decimals := by
      rw [digitCount, digits, List.length_cons] at count
      omega
    refine ⟨⟨negative, c, rest, leading, Nat.toDigits 10 leading.natAbs⟩,
      ⟨common, other, length, canonical_toDigits _⟩, rfl, ?_, ?_⟩
    · show (numberOf (c :: rest) : ℚ) * 10 ^ (leading - (rest.length : Int)) = _
      rw [← digits, numberOf_toDigits, length]
    · obtain ⟨d, later, rfl⟩ := List.exists_cons_of_length_pos (length ▸ some_decimal)
      have one_place : 1 - digitCount leading.natAbs = 0 := by
        have some_place := digitCount_pos leading.natAbs
        omega
      have body : (pointed (toString n)).toList = c :: '.' :: d :: later := by
        rw [pointed, Nat.toString_eq_repr, Nat.toList_repr, digits, String.toList_ofList]
      have sign : (if negative then "-" else "" : String).toList = signChars negative := by
        cases negative <;> rfl
      rw [written, String.toList_append, String.toList_append, toList_exponentText, exponentDigits, one_place, body,
        sign]
      simp [chars]

end Scientific

end Reckoner.Arithmetic
