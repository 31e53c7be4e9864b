import Reckoner.Proofs.Arithmetic.DecimalTexts
import Reckoner.Proofs.Decimal.SixDecimals

namespace Reckoner.Arithmetic

open Reckoner.Decimal Reckoner.Text

/-- The rational that a finite double denotes. -/
def denoted (negative : Bool) (m : Nat) (e : Int) : ℚ :=
  signed negative (Double.magnitude m e)

/-- The numbers that are shown with an exponent: the very small ones, but for zero, and the very large ones. -/
def Extreme (x : ℚ) : Prop :=
  x ≠ 0 ∧ (|x| < 1 / 10 ^ 4 ∨ 10 ^ 10 < |x|)

/-- A number rounded to five significant digits, a tie going to the even one. -/
def RoundsToFive (x v : ℚ) : Prop :=
  ∃ leading n : ℤ, 10 ^ leading ≤ |x| ∧ |x| < 10 ^ (leading + 1) ∧ NearestEven (x / 10 ^ (leading - 4)) n ∧
    v = n * 10 ^ (leading - 4)

/-- A number rounded to six decimals, a tie going to the even one. -/
def RoundsToSix (x v : ℚ) : Prop :=
  ∃ n : ℤ, NearestEven (x * 10 ^ 6) n ∧ v = n / 10 ^ 6

theorem RoundsToFive.neg {x v : ℚ} (h : RoundsToFive x v) : RoundsToFive (-x) (-v) := by
  obtain ⟨leading, n, low, high, nearest, rfl⟩ := h
  refine ⟨leading, -n, by rwa [abs_neg], by rwa [abs_neg], ?_, ?_⟩
  · rw [neg_div]
    exact nearest.neg
  · push_cast
    ring

theorem RoundsToSix.neg {x v : ℚ} (h : RoundsToSix x v) : RoundsToSix (-x) (-v) := by
  obtain ⟨n, nearest, rfl⟩ := h
  refine ⟨-n, ?_, ?_⟩
  · rw [neg_mul]
    exact nearest.neg
  · push_cast
    ring

theorem RoundsToSix.near {x v : ℚ} (h : RoundsToSix x v) : |v - x| ≤ 5 / 10 ^ 7 := by
  obtain ⟨n, nearest, rfl⟩ := h
  have half := nearest.near
  rw [abs_le] at half ⊢
  norm_num at half ⊢
  constructor <;> linarith

section Thresholds

variable {negative : Bool} {m : Nat} {e : Int}

theorem abs_denoted (negative : Bool) (m : Nat) (e : Int) : |denoted negative m e| = Double.magnitude m e :=
  abs_signed (Double.magnitude_nonneg m e)

theorem lessThan_iff {x y : Nat × Nat} (hx : 0 < x.2) (hy : 0 < y.2) :
    lessThan x y = true ↔ (x.1 : ℚ) / x.2 < y.1 / y.2 := by
  rw [lessThan, decide_eq_true_iff, div_lt_div_iff₀ (Nat.cast_pos.mpr hx) (Nat.cast_pos.mpr hy)]
  exact_mod_cast Iff.rfl

theorem smallest_eq : smallest = Double.quotient 7378697629483821 (-66) := by
  decide +kernel

/-- No double lies between a ten-thousandth and the double nearest to it. -/
theorem below_smallest_iff (bits : m < 2 ^ 53) :
    Double.magnitude m e < Double.magnitude 7378697629483821 (-66) ↔ Double.magnitude m e < 1 / 10 ^ 4 := by
  have nearest : 1 / 10 ^ 4 < Double.magnitude 7378697629483821 (-66) := by
    norm_num [Double.magnitude]
  refine ⟨fun below => ?_, fun below => below.trans nearest⟩
  by_contra above
  rw [not_lt] at above
  rcases lt_or_ge e (-66) with small | large
  · have few_bits : (m : ℚ) ≤ 2 ^ 53 := by exact_mod_cast bits.le
    have unit : (2 : ℚ) ^ e ≤ 2 ^ (-67 : Int) := zpow_le_zpow_right₀ (by norm_num) (by omega)
    have product : Double.magnitude m e ≤ 2 ^ 53 * 2 ^ (-67 : Int) :=
      mul_le_mul few_bits unit (two_zpow_pos e).le (by norm_num)
    norm_num at product above
    linarith
  · obtain ⟨j, rfl⟩ := Int.le.dest large
    have scaled : Double.magnitude m (-66 + j) = (m * 2 ^ j : Nat) * 2 ^ (-66 : Int) := by
      rw [Double.magnitude, zpow_add₀ two_ne_zero, zpow_natCast]
      push_cast
      ring
    rw [scaled] at below above
    have less : m * 2 ^ j < 7378697629483821 := by
      have cast := lt_of_mul_lt_mul_right below (two_zpow_pos (-66)).le
      exact_mod_cast cast
    have most : (m : ℚ) * 2 ^ j ≤ 7378697629483820 := by exact_mod_cast Nat.le_of_lt_succ less
    push_cast at above
    norm_num at above
    linarith

/-- The form with an exponent is taken of what is extreme. -/
theorem extreme_iff (h : (Double.finite negative m e).WellFormed) :
    (m ≠ 0 && (lessThan (Double.quotient m e) smallest || lessThan greatest (Double.quotient m e))) = true ↔
      Extreme (denoted negative m e) := by
  have den_pos : 0 < (Double.quotient m e).2 := (Double.quotient_lt h).2.1
  have small_pos : 0 < smallest.2 := by rw [smallest_eq]; decide
  have large_pos : 0 < greatest.2 := by decide
  have ten_billions : (greatest.1 : ℚ) / greatest.2 = 10 ^ 10 := by norm_num [greatest]
  have zero : denoted negative m e ≠ 0 ↔ m ≠ 0 := by
    rw [← abs_ne_zero, abs_denoted, Ne, Double.magnitude_eq_zero_iff]
  rw [Bool.and_eq_true, Bool.or_eq_true, decide_eq_true_iff, lessThan_iff den_pos small_pos,
    lessThan_iff large_pos den_pos, ten_billions, Double.quotient_div, smallest_eq, Double.quotient_div,
    below_smallest_iff h.1, Extreme, zero, abs_denoted]

end Thresholds

/-- Digits that are carried into a new one denote the same number. -/
theorem significant_rounds (num : Nat) {den : Nat} (hd : 0 < den) (count : Nat) :
    ∃ n : Nat, NearestEven ((num : ℚ) / den / 10 ^ (leadingPlace num den - count)) n ∧
      (significant (count + 1) num den).1 * (10 : ℚ) ^ ((significant (count + 1) num den).2 - count) =
        n * 10 ^ (leadingPlace num den - count) := by
  let place : Int := leadingPlace num den - ((count + 1 : Nat) : Int) + 1
  let n : Nat := roundDiv (inUnits 10 num den place).1 (inUnits 10 num den place).2
  have place_eq : place = leadingPlace num den - count := by
    show leadingPlace num den - ((count + 1 : Nat) : Int) + 1 = _
    omega
  have unit_pos : 0 < (inUnits 10 num den place).2 := inUnits_pos (by decide) hd num place
  have rounding : NearestEven _ n := nearestEven_roundDiv (inUnits 10 num den place).1 unit_pos
  have rounded : significant (count + 1) num den =
      if n = Nat.pow 10 (count + 1) then (Nat.pow 10 count, leadingPlace num den + 1)
      else (n, leadingPlace num den) := rfl
  rw [inUnits_div, Nat.cast_ofNat, place_eq] at rounding
  refine ⟨n, rounding, ?_⟩
  rw [rounded]
  split
  · rename_i carried
    have ten : (Nat.pow 10 count : ℚ) * 10 = n := by
      rw [carried]
      exact_mod_cast (pow_succ 10 count).symm
    have next : leadingPlace num den + 1 - (count : Int) = leadingPlace num den - count + 1 := by ring
    show (Nat.pow 10 count : ℚ) * 10 ^ (leadingPlace num den + 1 - (count : Int)) = _
    rw [next, zpow_add_one₀ (by norm_num), ← ten]
    ring
  · rfl

theorem display_scientific {negative : Bool} {m : Nat} {e : Int} (h : (Double.finite negative m e).WellFormed)
    (extreme : Extreme (denoted negative m e)) :
    ∃ s : Scientific, s.Canonical 4 ∧ s.chars = (displayFinite negative m e).toList ∧
      RoundsToFive (denoted negative m e) s.value := by
  have some_bits : 0 < m := by
    have apart := extreme.1
    rw [← abs_ne_zero, abs_denoted, Ne, Double.magnitude_eq_zero_iff] at apart
    exact Nat.pos_of_ne_zero apart
  have num_pos : 0 < (Double.quotient m e).1 := Nat.mul_pos some_bits (power_pos (by decide) e).1
  have den_pos : 0 < (Double.quotient m e).2 := (power_pos (by decide) e).2
  have shown : displayFinite negative m e =
      scientific significantDigits negative (Double.quotient m e).1 (Double.quotient m e).2 :=
    if_pos ((extreme_iff h).mpr extreme)
  obtain ⟨s, canonical, sign, value, chars⟩ := Scientific.exists_scientific negative num_pos den_pos 4
    (by decide)
  obtain ⟨n, nearest, digits⟩ := significant_rounds (Double.quotient m e).1 den_pos 4
  obtain ⟨low, high⟩ := leadingPlace_spec num_pos den_pos
  rw [Double.quotient_div] at nearest low high
  have five : RoundsToFive (Double.magnitude m e) s.magnitude := by
    refine ⟨_, n, ?_, ?_, nearest, value.trans digits⟩ <;> rw [abs_of_nonneg (Double.magnitude_nonneg m e)]
    · exact low
    · exact high
  refine ⟨s, canonical, by rw [shown, chars]; rfl, ?_⟩
  rw [denoted, Scientific.value, sign]
  cases negative
  · exact five
  · exact five.neg

section Plainly

variable {negative : Bool} {m : Nat} {e : Int}

/-- From 2 ^ 33 on a double is a whole number of units of 2 ^ (-19). -/
theorem exists_units (bits : m < 2 ^ 53) (beyond : 2 ^ 33 ≤ Double.magnitude m e) :
    ∃ n : Nat, Double.magnitude m e = n * 2 ^ (-19 : Int) := by
  have large : -19 ≤ e := by
    by_contra small
    have few_bits : (m + 1 : ℚ) ≤ 2 ^ 53 := by exact_mod_cast bits
    have unit : (2 : ℚ) ^ e ≤ 2 ^ (-20 : Int) := zpow_le_zpow_right₀ (by norm_num) (by omega)
    have product : (m : ℚ) * 2 ^ e ≤ (2 ^ 53 - 1) * 2 ^ (-20 : Int) :=
      mul_le_mul (by linarith) unit (two_zpow_pos e).le (by norm_num)
    rw [Double.magnitude] at beyond
    norm_num at product
    linarith
  obtain ⟨j, rfl⟩ := Int.le.dest large
  refine ⟨m * 2 ^ j, ?_⟩
  rw [Double.magnitude, zpow_add₀ two_ne_zero, zpow_natCast]
  push_cast
  ring

/-- What is shown without an exponent is rounded twice. -/
theorem exists_twiceRounded (negative : Bool) (bits : m < 2 ^ 53) (low : 1 / 10 ^ 4 ≤ Double.magnitude m e)
    (high : Double.magnitude m e ≤ 10 ^ 10) : ∃ k m' e', TwiceRounded (Double.magnitude m e) k m' e' ∧
      roundedDecimals negative (Double.quotient m e) = .finite negative m' e' := by
  have den_pos : 0 < (Double.quotient m e).2 := (power_pos (by decide) e).2
  let k : Nat := roundDiv ((Double.quotient m e).1 * 10 ^ 6) (Double.quotient m e).2
  have scaled : (((Double.quotient m e).1 * 10 ^ 6 : Nat) : ℚ) / (Double.quotient m e).2 =
      Double.magnitude m e * 10 ^ 6 := by
    rw [← Double.quotient_div]
    push_cast
    ring
  have rounding : NearestEven _ k := nearestEven_roundDiv ((Double.quotient m e).1 * 10 ^ 6) den_pos
  rw [scaled] at rounding
  have den_some : (0 : ℚ) < (Double.quotient m e).2 := Nat.cast_pos.mpr den_pos
  rw [← Double.quotient_div] at low high
  have large : 100 ≤ k := by
    refine le_roundDiv den_pos ?_
    rw [le_div_iff₀ den_some] at low
    have millionths : (100 * (Double.quotient m e).2 : ℚ) ≤ (Double.quotient m e).1 * 10 ^ 6 := by linarith
    exact_mod_cast millionths
  have few : k ≤ 10 ^ 16 := by
    refine roundDiv_le den_pos ?_
    rw [div_le_iff₀ den_some] at high
    have millionths : ((Double.quotient m e).1 * 10 ^ 6 : ℚ) ≤ 10 ^ 16 * (Double.quotient m e).2 := by linarith
    exact_mod_cast millionths
  obtain ⟨m', bits', e', least, normal, reads, nothing, rounded⟩ :=
    Double.nearest_spec negative (show k ≠ 0 by omega) (show 0 < 10 ^ 6 by decide)
  have six : ((10 ^ 6 : Nat) : ℚ) = 10 ^ 6 := by norm_num
  rw [six] at reads nothing
  have some_bits : 0 < m' := by
    by_contra none_left
    have lowest : Double.leastExponent = -1074 := rfl
    have tiny : (2 : ℚ) ^ (e' - 1) ≤ 2 ^ (-20 : Int) := zpow_le_zpow_right₀ (by norm_num) (by omega)
    have zero := nothing (by omega)
    have large' : (100 : ℚ) ≤ k := by exact_mod_cast large
    rw [div_le_iff₀ (by norm_num)] at zero
    norm_num at tiny
    linarith
  have twice : TwiceRounded (Double.magnitude m e) k m' e' :=
    ⟨rounding, large, few, some_bits, bits', normal, reads some_bits, exists_units bits⟩
  refine ⟨k, m', e', twice, ?_⟩
  have fine := twice.fine
  rw [if_neg (by omega)] at rounded
  exact rounded

/-- A double is taken for a whole number if it denotes one. -/
theorem toInt?_cases (negative : Bool) (m : Nat) (e : Int) :
    (∃ j : Nat, Double.magnitude m e = j ∧
      (Double.finite negative m e).toInt? = some (if negative then -(j : Int) else j)) ∨
    (∀ j : Nat, Double.magnitude m e ≠ j) ∧ (Double.finite negative m e).toInt? = none := by
  have den_pos : 0 < (Double.quotient m e).2 := (power_pos (by decide) e).2
  have den_some : (0 : ℚ) < (Double.quotient m e).2 := Nat.cast_pos.mpr den_pos
  have unfolded : (Double.finite negative m e).toInt? =
      if (Double.quotient m e).1 % (Double.quotient m e).2 = 0 then
        some (if negative then -(((Double.quotient m e).1 / (Double.quotient m e).2 : Nat) : Int)
          else (((Double.quotient m e).1 / (Double.quotient m e).2 : Nat) : Int))
      else none := rfl
  rw [unfolded]
  by_cases whole : (Double.quotient m e).1 % (Double.quotient m e).2 = 0
  · refine Or.inl ⟨(Double.quotient m e).1 / (Double.quotient m e).2, ?_, if_pos whole⟩
    rw [← Double.quotient_div, div_eq_iff den_some.ne']
    exact_mod_cast (Nat.div_mul_cancel (Nat.dvd_of_mod_eq_zero whole)).symm
  · refine Or.inr ⟨fun j same => whole ?_, if_neg whole⟩
    rw [← Double.quotient_div, div_eq_iff den_some.ne'] at same
    have product : (Double.quotient m e).1 = j * (Double.quotient m e).2 := by exact_mod_cast same
    rw [product, Nat.mul_mod_left]

/-- A decimal between the thresholds is written positionally. -/
theorem write_positional {d : Numeral} (some_digit : d.digits ≠ 0) (low : 1 / 10 ^ 4 ≤ d.value)
    (high : d.value < 10 ^ 11) : Layout.plain.write d = positional (toString d.digits) d.place := by
  have length : ((toString d.digits).length : Int) = digitCount d.digits := by
    rw [← String.length_toList, Nat.toString_eq_repr, Nat.toList_repr, digitCount]
  have below : (d.digits : ℚ) < 10 ^ (digitCount d.digits : Int) := by
    rw [zpow_natCast]
    exact_mod_cast lt_pow_digitCount d.digits
  have above : (10 : ℚ) ^ ((digitCount d.digits : Int) - 1) ≤ d.digits := by
    have some_count := digitCount_pos d.digits
    have cast : (digitCount d.digits : Int) - 1 = ((digitCount d.digits - 1 : Nat) : Int) := by omega
    rw [cast, zpow_natCast]
    exact_mod_cast pow_digitCount_le (Nat.pos_of_ne_zero some_digit)
  have unit := ten_zpow_pos d.place
  have least : (10 : ℚ) ^ (-4 : Int) < 10 ^ (digitCount d.digits + d.place) := by
    rw [zpow_add₀ (by norm_num)]
    refine lt_of_le_of_lt ?_ (mul_lt_mul_of_pos_right below unit)
    norm_num at low ⊢
    exact low
  have most : (10 : ℚ) ^ ((digitCount d.digits : Int) - 1 + d.place) < 10 ^ (11 : Int) := by
    rw [zpow_add₀ (by norm_num)]
    refine lt_of_le_of_lt (mul_le_mul_of_nonneg_right above unit.le) ?_
    norm_num at high ⊢
    exact high
  have lower := (zpow_lt_zpow_iff_right₀ (by norm_num)).mp least
  have upper := (zpow_lt_zpow_iff_right₀ (by norm_num)).mp most
  have range : Layout.plain.leastPositional ≤ d.place + (toString d.digits).length - 1 ∧
      d.place + (toString d.digits).length - 1 < Layout.plain.firstScientific := by
    rw [length]
    show (-4 : Int) ≤ _ ∧ _ < (16 : Int)
    omega
  rw [Layout.write]
  exact if_pos (by simpa using range)

variable (ordinary : ¬ Extreme (denoted negative m e))

include ordinary

theorem display_eq (h : (Double.finite negative m e).WellFormed) : displayFinite negative m e =
    match (roundedDecimals negative (Double.quotient m e)).toInt? with
    | some n => toString n
    | none => (roundedDecimals negative (Double.quotient m e)).text :=
  if_neg (mt (extreme_iff h).mp ordinary)

theorem display_some (h : (Double.finite negative m e).WellFormed) (some_bits : m ≠ 0) :
    ∃ p : Plain, p.Canonical ∧ p.fraction.length ≤ 6 ∧ p.chars = (displayFinite negative m e).toList ∧
      p.negative = negative ∧ SixDecimals (Double.magnitude m e) p.magnitude := by
  have apart : denoted negative m e ≠ 0 := by
    rw [← abs_ne_zero, abs_denoted]
    exact mt Double.magnitude_eq_zero_iff.mp some_bits
  obtain ⟨low, high⟩ : 1 / 10 ^ 4 ≤ Double.magnitude m e ∧ Double.magnitude m e ≤ 10 ^ 10 := by
    rw [Extreme, not_and_or, not_or, abs_denoted, not_lt, not_lt] at ordinary
    exact ordinary.resolve_left (not_not.mpr apart)
  obtain ⟨k, m', e', twice, rounded⟩ := exists_twiceRounded negative h.1 low high
  have shown := display_eq ordinary h
  rw [rounded] at shown
  rcases toInt?_cases negative m' e' with ⟨j, same, whole⟩ | ⟨broken, none_whole⟩
  · have six := twice.sixDecimals_whole same
    have some_value : j ≠ 0 := by
      rintro rfl
      have least := (six.bounds low high).1
      norm_num at least
    obtain ⟨p, canonical, sign, no_decimals, value, chars⟩ := Plain.exists_whole negative fun _ => some_value
    refine ⟨p, canonical, by rw [no_decimals]; decide, ?_, sign, value ▸ six⟩
    rw [whole] at shown
    dsimp only at shown
    rw [chars, shown, toList_toString]
    cases negative
    · simp [signChars]
    · simp [signChars, Nat.pos_of_ne_zero some_value]
  · have six := twice.sixDecimals_broken broken
    have written := twice.written
    obtain ⟨least, most⟩ := six.bounds low high
    have places := written.place_neg twice.some_bits twice.fine broken
    have some_digit : (shortest m' e').digits ≠ 0 := by
      intro zero
      exact written.last (by rw [zero])
    obtain ⟨p, canonical, sign, length, value, chars⟩ := Plain.exists_positional negative places written.last
    obtain ⟨n, place, range, later, -⟩ := written.found
    refine ⟨p, canonical, by omega, ?_, sign, value ▸ six⟩
    rw [none_whole] at shown
    dsimp only at shown
    rw [chars, shown, Double.text, Double.textWith, write_positional some_digit least most, String.toList_append]
    cases negative <;> rfl

end Plainly

/-- A text is the decimal expansion of a number rounded to six decimals. -/
def ShowsRounding (x : ℚ) (text : String) : Prop :=
  ∃ p : Plain, p.Canonical ∧ p.chars = text.toList ∧ RoundsToSix x p.value ∧ |p.value - x| ≤ 5 / 10 ^ 7

theorem roundsToSix_signed_iff (negative : Bool) {x v : ℚ} :
    RoundsToSix (signed negative x) (signed negative v) ↔ RoundsToSix x v := by
  cases negative
  · exact Iff.rfl
  · refine ⟨fun h => ?_, RoundsToSix.neg⟩
    have back := h.neg
    simpa only [signed, if_true, neg_neg] using back

/-- Five decimals lie as near to a number as they do, with the other sign, to its negative. -/
theorem abs_signed_sub (negative : Bool) (x : ℚ) (t : ℤ) :
    |signed negative x - ((if negative then -t else t : ℤ) : ℚ) / 10 ^ 5| = |x - t / 10 ^ 5| := by
  cases negative
  · rfl
  · rw [← abs_neg]
    congr 1
    simp only [signed, if_true]
    push_cast
    ring

theorem forall_signed (negative : Bool) {P : ℚ → Prop} (x : ℚ) :
    (∀ t : ℤ, P |signed negative x - t / 10 ^ 5|) ↔ ∀ t : ℤ, P |x - t / 10 ^ 5| := by
  constructor
  · intro h t
    rw [← abs_signed_sub negative]
    exact h _
  · intro h t
    have twice : (if negative then -(if negative then -t else t) else (if negative then -t else t)) = t := by
      cases negative <;> simp
    rw [← twice, abs_signed_sub]
    exact h _

section Display

variable {negative : Bool} {m : Nat} {e : Int}

theorem denoted_zero (negative : Bool) (e : Int) : denoted negative 0 e = 0 := by
  rw [← abs_eq_zero, abs_denoted, Double.magnitude_eq_zero_iff]

/-- What is shown plainly is the number rounded to six decimals exactly if it is less than 2 ^ 33, or no five decimals
lie so near that they name its double, and further away than half a millionth. -/
theorem shows_rounding_iff (h : (Double.finite negative m e).WellFormed) (ordinary : ¬ Extreme (denoted negative m e)) :
    ShowsRounding (denoted negative m e) (displayFinite negative m e) ↔ |denoted negative m e| < 2 ^ 33 ∨
      ∀ t : ℤ, ¬ (5 / 10 ^ 7 < |denoted negative m e - t / 10 ^ 5| ∧
        |denoted negative m e - t / 10 ^ 5| < 1 / 2 ^ 20) := by
  by_cases zero : m = 0
  · subst zero
    obtain ⟨p, canonical, sign, -, value, chars⟩ := Plain.exists_whole false (n := 0) (by decide)
    have nothing : p.value = 0 := by
      rw [Plain.value, value, sign]
      exact Nat.cast_zero
    refine iff_of_true ⟨p, canonical, ?_, ⟨0, NearestEven.of_lt ?_, ?_⟩, ?_⟩ (Or.inl ?_)
    · rw [chars, displayFinite_zero]
      rfl
    all_goals norm_num [denoted_zero, nothing]
  · obtain ⟨p, canonical, -, chars, sign, six⟩ := display_some ordinary h zero
    have value : p.value = signed negative p.magnitude := by rw [Plain.value, sign]
    have read : ShowsRounding (denoted negative m e) (displayFinite negative m e) ↔
        RoundsToSix (denoted negative m e) p.value := by
      constructor
      · rintro ⟨q, other, same, rounds, -⟩
        obtain rfl := Plain.eq_of_chars canonical other (chars.trans same.symm)
        exact rounds
      · intro rounds
        exact ⟨p, canonical, chars, rounds, rounds.near⟩
    rw [read, value, denoted, roundsToSix_signed_iff, abs_signed (Double.magnitude_nonneg m e),
      forall_signed negative (P := fun d => ¬ (5 / 10 ^ 7 < d ∧ d < 1 / 2 ^ 20))]
    exact six.rounds_iff

/-- The display of 2 ^ 33 and a half: five decimals name it, and all of them are zero but the first. -/
theorem shows_rounding_half : (Double.finite false (2 ^ 52 + 2 ^ 18) (-19)).WellFormed ∧
    ¬ Extreme (denoted false (2 ^ 52 + 2 ^ 18) (-19)) ∧
    (ShowsRounding (denoted false (2 ^ 52 + 2 ^ 18) (-19)) (displayFinite false (2 ^ 52 + 2 ^ 18) (-19)) ↔
      |denoted false (2 ^ 52 + 2 ^ 18) (-19)| < 2 ^ 33 ∨
      ∀ t : ℤ, ¬ (5 / 10 ^ 7 < |denoted false (2 ^ 52 + 2 ^ 18) (-19) - t / 10 ^ 5| ∧
        |denoted false (2 ^ 52 + 2 ^ 18) (-19) - t / 10 ^ 5| < 1 / 2 ^ 20)) := by
  have well_formed : (Double.finite false (2 ^ 52 + 2 ^ 18) (-19)).WellFormed := ⟨by decide, by decide, by decide⟩
  have ordinary : ¬ Extreme (denoted false (2 ^ 52 + 2 ^ 18) (-19)) := by
    norm_num [Extreme, denoted, signed, Double.magnitude, abs_of_pos]
  exact ⟨well_formed, ordinary, shows_rounding_iff well_formed ordinary⟩

/-- Sixteen units of the last place above 2 ^ 33 the fewest digits leave out the sixth decimal, which is a one. -/
theorem sixth_decimal_left_out : (Double.finite false (2 ^ 52 + 16) (-19)).WellFormed ∧
    ¬ Extreme (denoted false (2 ^ 52 + 16) (-19)) ∧
    displayFinite false (2 ^ 52 + 16) (-19) = "8589934592.00003" ∧
    NearestEven (denoted false (2 ^ 52 + 16) (-19) * 10 ^ 6) 8589934592000031 ∧
    ¬ ShowsRounding (denoted false (2 ^ 52 + 16) (-19)) "8589934592.00003" := by
  have number : denoted false (2 ^ 52 + 16) (-19) = 8589934592 + 16 / 2 ^ 19 := by
    norm_num [denoted, signed, Double.magnitude]
  refine ⟨⟨by decide, by decide, by decide⟩, ?_, by decide +kernel, NearestEven.of_lt ?_, ?_⟩
  · rw [number]
    norm_num [Extreme, abs_of_pos]
  · rw [number, abs_lt]
    norm_num
  · rintro ⟨p, canonical, chars, -, near⟩
    obtain ⟨q, other, sign, -, magnitude, same⟩ := Plain.exists_positional false (d := ⟨858993459200003, -5⟩)
      (by decide) (by decide)
    have text : (positional (toString 858993459200003) (-5)).toList = "8589934592.00003".toList := by
      decide +kernel
    obtain rfl := Plain.eq_of_chars canonical other (chars.trans (text.symm.trans same.symm))
    have value : p.value = 858993459200003 / 10 ^ 5 := by
      rw [Plain.value, sign, magnitude]
      norm_num [signed, Numeral.value]
    rw [value, number, abs_le] at near
    norm_num at near

end Display

/-- A shown number: with an exponent if the number is extreme, and plainly otherwise. -/
structure Shape (x : ℚ) (text : List Char) : Prop where
  scientific : (∃ s : Scientific, s.Canonical 4 ∧ s.chars = text ∧ RoundsToFive x s.value) ↔ Extreme x
  plain : (∃ p : Plain, p.Canonical ∧ p.fraction.length ≤ 6 ∧ p.chars = text) ↔ ¬ Extreme x
  exponent : 'e' ∈ text ↔ Extreme x
  unsigned : text ≠ ['-', '0']
  no_name : ¬ ['n', 'a', 'n'] <:+: text ∧ ¬ ['i', 'n', 'f'] <:+: text
  zero : x = 0 → text = ['0']

theorem no_name_of_not_mem {text : List Char} (h : 'n' ∉ text) :
    ¬ ['n', 'a', 'n'] <:+: text ∧ ¬ ['i', 'n', 'f'] <:+: text :=
  ⟨fun name => h (name.subset (by decide)), fun name => h (name.subset (by decide))⟩

section Display

variable {negative : Bool} {m : Nat} {e : Int} (h : (Double.finite negative m e).WellFormed)

include h

/-- What is shown plainly has six decimals at most, and is never as far as a millionth from the number. -/
theorem display_ordinary (ordinary : ¬ Extreme (denoted negative m e)) :
    ∃ p : Plain, p.Canonical ∧ p.fraction.length ≤ 6 ∧ p.chars = (displayFinite negative m e).toList ∧
      |p.value - denoted negative m e| < 1 / 2 ^ 20 := by
  by_cases zero : m = 0
  · subst zero
    obtain ⟨p, canonical, sign, no_decimals, value, chars⟩ := Plain.exists_whole false (n := 0) (by decide)
    refine ⟨p, canonical, by rw [no_decimals]; decide, ?_, ?_⟩
    · rw [chars, displayFinite_zero]
      rfl
    · norm_num [Plain.value, value, signed, denoted_zero]
  · obtain ⟨p, canonical, few, chars, sign, six⟩ := display_some ordinary h zero
    refine ⟨p, canonical, few, chars, ?_⟩
    have near := six.near
    rw [Plain.value, sign, denoted]
    cases negative
    · exact near
    · rw [signed, signed, if_pos rfl, if_pos rfl, neg_sub_neg, abs_sub_comm]
      exact near

theorem display_shape : Shape (denoted negative m e) (displayFinite negative m e).toList := by
  have plain_of {p : Plain} (canonical : p.Canonical) {c : Char} (other : isAsciiDigit c = false)
      (sign : c ≠ '-') (point : c ≠ '.') : c ∉ p.chars := by
    intro hc
    rcases canonical.mem_chars hc with digit | minus | stop
    · exact absurd digit (Bool.eq_false_iff.mp other)
    · exact sign minus
    · exact point stop
  by_cases extreme : Extreme (denoted negative m e)
  · obtain ⟨s, canonical, chars, rounds⟩ := display_scientific h extreme
    have exponent : 'e' ∈ (displayFinite negative m e).toList := chars ▸ s.exponent_mem
    refine ⟨iff_of_true ⟨s, canonical, chars, rounds⟩ extreme, iff_of_false ?_ (not_not.mpr extreme),
      iff_of_true exponent extreme, ?_, no_name_of_not_mem ?_, fun zero => absurd zero extreme.1⟩
    · rintro ⟨p, plain, -, same⟩
      exact plain_of plain (by decide) (by decide) (by decide) (same ▸ exponent)
    · intro same
      rw [same] at exponent
      revert exponent
      decide
    · intro letter
      have only := canonical.mem_chars (chars ▸ letter)
      revert only
      decide
  · obtain ⟨p, canonical, few, chars, -⟩ := display_ordinary h extreme
    have exponent : 'e' ∉ (displayFinite negative m e).toList :=
      chars ▸ plain_of canonical (by decide) (by decide) (by decide)
    refine ⟨iff_of_false ?_ extreme, iff_of_true ⟨p, canonical, few, chars⟩ extreme, iff_of_false exponent extreme,
      chars ▸ canonical.unsigned, no_name_of_not_mem (chars ▸ plain_of canonical (by decide) (by decide) (by decide)),
      fun zero => ?_⟩
    · rintro ⟨s, -, same, -⟩
      exact exponent (same ▸ s.exponent_mem)
    · have nothing : m = 0 := by
        rwa [← abs_eq_zero, abs_denoted, Double.magnitude_eq_zero_iff] at zero
      rw [nothing, displayFinite_zero]
      rfl

omit h in
/-- The shape of the least double, which is very small. -/
theorem display_shape_least : (Double.finite true 1 (-1074)).WellFormed ∧
    Shape (denoted true 1 (-1074)) (displayFinite true 1 (-1074)).toList := by
  have well_formed : (Double.finite true 1 (-1074)).WellFormed := ⟨by decide, by decide, by decide⟩
  exact ⟨well_formed, display_shape well_formed⟩

end Display

end Reckoner.Arithmetic
