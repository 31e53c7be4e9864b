import Reckoner.Decimal.Layout
import Reckoner.Decimal.Nearest
import Mathlib.Algebra.Order.Field.Power
import Mathlib.Data.Nat.Digits.Lemmas
import Mathlib.Tactic.FieldSimp
import Mathlib.Tactic.Linarith

namespace Reckoner.Decimal

theorem power_div (base : Nat) (place : Int) :
    ((power base place).1 : ℚ) / (power base place).2 = (base : ℚ) ^ place := by
  cases place with
  | ofNat k => simp [power]
  | negSucc k => simp [power, zpow_negSucc]

theorem inUnits_div (base num den : Nat) (place : Int) :
    ((inUnits base num den place).1 : ℚ) / (inUnits base num den place).2 =
      num / den / (base : ℚ) ^ place := by
  have units : inUnits base num den place = (num * (power base place).2, den * (power base place).1) := rfl
  rw [← power_div, units, Nat.cast_mul, Nat.cast_mul, mul_div_mul_comm, div_div_eq_mul_div, mul_div_assoc]

section Units

variable {base : Nat} (positive : 0 < base)

include positive

theorem power_pos (place : Int) : 0 < (power base place).1 ∧ 0 < (power base place).2 := by
  cases place with
  | ofNat k => exact ⟨Nat.pow_pos positive, Nat.one_pos⟩
  | negSucc k => exact ⟨Nat.one_pos, Nat.pow_pos positive⟩

theorem inUnits_pos {den : Nat} (hd : 0 < den) (num : Nat) (place : Int) :
    0 < (inUnits base num den place).2 :=
  Nat.mul_pos hd (power_pos positive place).1

/-- A bound on a quotient in units of one place is a bound on the quotient. -/
theorem le_inUnits_iff {num den : Nat} (hd : 0 < den) (k : Nat) (place : Int) :
    k * (inUnits base num den place).2 ≤ (inUnits base num den place).1 ↔
      k * (base : ℚ) ^ place ≤ num / den := by
  have unit : (0 : ℚ) < (base : ℚ) ^ place := zpow_pos (Nat.cast_pos.mpr positive) place
  have below : (0 : ℚ) < (inUnits base num den place).2 :=
    Nat.cast_pos.mpr (inUnits_pos positive hd num place)
  rw [← le_div_iff₀ unit, ← inUnits_div, le_div_iff₀ below]
  exact_mod_cast Iff.rfl

end Units

theorem roundDiv_le {num den k : Nat} (hd : 0 < den) (h : num ≤ k * den) : roundDiv num den ≤ k := by
  have half : 2 * roundDiv num den * den ≤ 2 * num + den := (roundDiv_bounds hd).2
  by_contra more
  have step : (2 * k + 2) * den ≤ 2 * roundDiv num den * den := Nat.mul_le_mul_right den (by omega)
  have split : (2 * k + 2) * den = 2 * (k * den) + 2 * den := by ring
  omega

theorem le_roundDiv {num den k : Nat} (hd : 0 < den) (h : k * den ≤ num) : k ≤ roundDiv num den := by
  have half : 2 * num ≤ 2 * roundDiv num den * den + den := (roundDiv_bounds hd).1
  by_contra fewer
  have step : (2 * roundDiv num den + 2) * den ≤ 2 * k * den := Nat.mul_le_mul_right den (by omega)
  have left : (2 * roundDiv num den + 2) * den = 2 * roundDiv num den * den + 2 * den := by ring
  have right : 2 * k * den = 2 * (k * den) := by ring
  omega

theorem digitCount_le_iff {n k : Nat} (hk : 0 < k) : digitCount n ≤ k ↔ n < 10 ^ k :=
  Nat.length_toDigits_le_iff (by decide) hk

theorem digitCount_pos (n : Nat) : 0 < digitCount n :=
  List.length_pos_iff.mpr (by simp [Nat.toDigits_ne_nil])

theorem lt_pow_digitCount (n : Nat) : n < 10 ^ digitCount n :=
  (digitCount_le_iff (digitCount_pos n)).mp (Nat.le_refl _)

theorem pow_digitCount_le {n : Nat} (hn : 0 < n) : 10 ^ (digitCount n - 1) ≤ n := by
  have first := digitCount_pos n
  rcases Nat.eq_or_lt_of_le first with one | more
  · rw [← one]
    exact hn
  · by_contra small
    have short := (digitCount_le_iff (k := digitCount n - 1) (by omega)).mpr (Nat.not_le.mp small)
    omega

theorem digitCount_eq {n k : Nat} (low : 10 ^ k ≤ n) (high : n < 10 ^ (k + 1)) :
    digitCount n = k + 1 := by
  have most := (digitCount_le_iff (Nat.succ_pos k)).mpr high
  have few : ¬ digitCount n ≤ k := by
    intro short
    have less : n < 10 ^ k := (lt_pow_digitCount n).trans_le (Nat.pow_le_pow_right (by decide) short)
    omega
  omega

/-- The leading place is no further from that of the ones than there are digits. -/
theorem leadingPlace_bounds {num den k : Nat} (hk : 0 < k) (num_small : num < 10 ^ k)
    (den_small : den < 10 ^ k) : -(k : Int) ≤ leadingPlace num den ∧ leadingPlace num den < k := by
  have num_digits := (digitCount_le_iff hk).mpr num_small
  have den_digits := (digitCount_le_iff hk).mpr den_small
  have num_some := digitCount_pos num
  have den_some := digitCount_pos den
  unfold leadingPlace
  dsimp only
  split <;> omega

section Leading

variable {num den : Nat} (hn : 0 < num) (hd : 0 < den)

include hn hd

/-- A quotient lies within a factor of ten of what the counts of digits say. -/
theorem div_between_powers :
    (10 : ℚ) ^ ((digitCount num : Int) - digitCount den - 1) ≤ num / den ∧
      (num : ℚ) / den < 10 ^ ((digitCount num : Int) - digitCount den + 1) := by
  have ten : (10 : ℚ) ≠ 0 := by norm_num
  have below : (0 : ℚ) < den := Nat.cast_pos.mpr hd
  have num_low : (10 : ℚ) ^ ((digitCount num : Int) - 1) ≤ num := by
    have some_digit := digitCount_pos num
    have cast : (digitCount num : Int) - 1 = ((digitCount num - 1 : Nat) : Int) := by omega
    rw [cast, zpow_natCast]
    exact_mod_cast pow_digitCount_le hn
  have den_low : (10 : ℚ) ^ ((digitCount den : Int) - 1) ≤ den := by
    have some_digit := digitCount_pos den
    have cast : (digitCount den : Int) - 1 = ((digitCount den - 1 : Nat) : Int) := by omega
    rw [cast, zpow_natCast]
    exact_mod_cast pow_digitCount_le hd
  have num_high : (num : ℚ) < 10 ^ (digitCount num : Int) := by
    rw [zpow_natCast]
    exact_mod_cast lt_pow_digitCount num
  have den_high : (den : ℚ) < 10 ^ (digitCount den : Int) := by
    rw [zpow_natCast]
    exact_mod_cast lt_pow_digitCount den
  constructor
  · rw [le_div_iff₀ below]
    calc (10 : ℚ) ^ ((digitCount num : Int) - digitCount den - 1) * den
        ≤ 10 ^ ((digitCount num : Int) - digitCount den - 1) * 10 ^ (digitCount den : Int) :=
          mul_le_mul_of_nonneg_left den_high.le (zpow_pos (by norm_num) _).le
      _ = 10 ^ ((digitCount num : Int) - 1) := by
          rw [← zpow_add₀ ten]
          congr 1
          omega
      _ ≤ num := num_low
  · rw [div_lt_iff₀ below]
    calc (num : ℚ) < 10 ^ (digitCount num : Int) := num_high
      _ = 10 ^ ((digitCount num : Int) - digitCount den + 1) * 10 ^ ((digitCount den : Int) - 1) := by
          rw [← zpow_add₀ ten]
          congr 1
          omega
      _ ≤ 10 ^ ((digitCount num : Int) - digitCount den + 1) * den :=
          mul_le_mul_of_nonneg_left den_low (zpow_pos (by norm_num) _).le

/-- The leading place is that of the greatest power of ten within the quotient. -/
theorem leadingPlace_spec :
    (10 : ℚ) ^ leadingPlace num den ≤ num / den ∧ (num : ℚ) / den < 10 ^ (leadingPlace num den + 1) := by
  obtain ⟨low, high⟩ := div_between_powers hn hd
  let guess : Int := (digitCount num : Int) - digitCount den
  have within : 1 * (inUnits 10 num den guess).2 ≤ (inUnits 10 num den guess).1 ↔
      ((1 : Nat) : ℚ) * ((10 : Nat) : ℚ) ^ guess ≤ num / den := le_inUnits_iff (by decide) hd 1 guess
  rw [Nat.one_mul, Nat.cast_one, one_mul, Nat.cast_ofNat] at within
  unfold leadingPlace
  dsimp only
  split
  · rename_i reached
    exact ⟨within.mp reached, high⟩
  · rename_i missed
    rw [Int.sub_add_cancel]
    exact ⟨low, not_le.mp fun reached => missed (within.mpr reached)⟩

/-- A quotient that is rounded to so many digits has that many. -/
theorem significant_spec (count : Nat) :
    digitCount (significant (count + 1) num den).1 = count + 1 ∧
      leadingPlace num den ≤ (significant (count + 1) num den).2 ∧
        (significant (count + 1) num den).2 ≤ leadingPlace num den + 1 := by
  have ten : (10 : ℚ) ≠ 0 := by norm_num
  obtain ⟨low, high⟩ := leadingPlace_spec hn hd
  let place : Int := leadingPlace num den - ((count + 1 : Nat) : Int) + 1
  let digits : Nat := roundDiv (inUnits 10 num den place).1 (inUnits 10 num den place).2
  have unit_pos : 0 < (inUnits 10 num den place).2 := inUnits_pos (by decide) hd num place
  -- In units of the last place the quotient lies between two powers of ten.
  have scale (k : Nat) : ((10 ^ k : Nat) : ℚ) * ((10 : Nat) : ℚ) ^ place = 10 ^ ((k : Int) + place) := by
    rw [zpow_add₀ ten, zpow_natCast]
    push_cast
    rfl
  have at_least : 10 ^ count ≤ digits := by
    refine le_roundDiv unit_pos ((le_inUnits_iff (by decide) hd _ _).mpr ?_)
    have same : (count : Int) + place = leadingPlace num den := by
      show (count : Int) + (leadingPlace num den - ((count + 1 : Nat) : Int) + 1) = _
      omega
    rw [scale, same]
    exact low
  have at_most : digits ≤ 10 ^ (count + 1) := by
    refine roundDiv_le unit_pos (Nat.le_of_lt (Nat.not_le.mp ?_))
    have same : ((count + 1 : Nat) : Int) + place = leadingPlace num den + 1 := by
      show ((count + 1 : Nat) : Int) + (leadingPlace num den - ((count + 1 : Nat) : Int) + 1) = _
      omega
    rw [le_inUnits_iff (by decide) hd, scale, same]
    exact not_le.mpr high
  have rounded : significant (count + 1) num den =
      if digits = Nat.pow 10 (count + 1) then (Nat.pow 10 count, leadingPlace num den + 1)
      else (digits, leadingPlace num den) := rfl
  rw [rounded]
  split
  · have next : Nat.pow 10 count < 10 ^ (count + 1) := Nat.pow_lt_pow_right (by decide) (Nat.lt_succ_self _)
    exact ⟨digitCount_eq (Nat.le_refl _) next, by omega, Int.le_refl _⟩
  · rename_i below
    exact ⟨digitCount_eq at_least (Nat.lt_of_le_of_ne at_most below), Int.le_refl _, by omega⟩

end Leading

namespace Double

theorem div_lt_two_pow (num : Nat) {den : Nat} (hd : 0 < den) :
    (num : ℚ) / den < 2 ^ ((num.log2 : Int) - den.log2 + 1) := by
  have two : (2 : ℚ) ≠ 0 := by norm_num
  have num_high : (num : ℚ) < 2 ^ ((num.log2 : Int) + 1) := by
    have bits : num < 2 ^ (num.log2 + 1) := Nat.lt_log2_self
    exact_mod_cast bits
  have den_low : (2 : ℚ) ^ (den.log2 : Int) ≤ den := by
    rw [zpow_natCast]
    exact_mod_cast Nat.log2_self_le hd.ne'
  rw [div_lt_iff₀ (Nat.cast_pos.mpr hd)]
  calc (num : ℚ) < 2 ^ ((num.log2 : Int) + 1) := num_high
    _ = 2 ^ ((num.log2 : Int) - den.log2 + 1) * 2 ^ (den.log2 : Int) := by
        rw [← zpow_add₀ two]
        congr 1
        omega
    _ ≤ 2 ^ ((num.log2 : Int) - den.log2 + 1) * den :=
        mul_le_mul_of_nonneg_left den_low (zpow_pos (by norm_num) _).le

/-- In units of the last place a quotient has no more than 53 bits. -/
theorem inUnits_unitPlace_le (num : Nat) {den : Nat} (hd : 0 < den) :
    (inUnits 2 num den (unitPlace num den)).1 ≤
      2 ^ 53 * (inUnits 2 num den (unitPlace num den)).2 := by
  have two : (1 : ℚ) ≤ 2 := by norm_num
  let guess : Int := (num.log2 : Int) - den.log2 - 53
  have guess_pos : 0 < (inUnits 2 num den guess).2 := inUnits_pos (by decide) hd num guess
  have scale (place : Int) : ((2 ^ 53 : Nat) : ℚ) * ((2 : Nat) : ℚ) ^ place = 2 ^ (53 + place) := by
    rw [zpow_add₀ (by norm_num)]
    norm_num
  have least : unitPlace num den = max leastExponent
      (if Nat.pow 2 53 ≤ (inUnits 2 num den guess).1 / (inUnits 2 num den guess).2 then guess + 1
        else guess) := rfl
  refine Nat.le_of_lt (Nat.not_le.mp ?_)
  rw [le_inUnits_iff (by decide) hd, scale]
  refine not_le.mpr ?_
  by_cases wide : Nat.pow 2 53 ≤ (inUnits 2 num den guess).1 / (inUnits 2 num den guess).2
  · rw [if_pos wide] at least
    have room : (num.log2 : Int) - den.log2 + 1 ≤ 53 + unitPlace num den := by omega
    exact (div_lt_two_pow num hd).trans_le (zpow_le_zpow_right₀ two room)
  · rw [if_neg wide] at least
    have narrow : ¬ 2 ^ 53 * (inUnits 2 num den guess).2 ≤ (inUnits 2 num den guess).1 :=
      fun h => wide ((Nat.le_div_iff_mul_le guess_pos).mpr h)
    rw [le_inUnits_iff (by decide) hd, scale] at narrow
    have room : 53 + guess ≤ 53 + unitPlace num den := by omega
    exact (not_le.mp narrow).trans_le (zpow_le_zpow_right₀ two room)

/-- A finite double has a mantissa of at most 53 bits and an exponent in range. -/
def WellFormed : Double → Prop
  | .finite _ m e => m < 2 ^ 53 ∧ leastExponent ≤ e ∧ e ≤ 971
  | _ => True

theorem wellFormed_ofBits (word : Nat) : (ofBits word).WellFormed := by
  have least : leastExponent = -1074 := rfl
  have fraction : word % Nat.pow 2 52 < Nat.pow 2 52 := Nat.mod_lt _ (by decide)
  have bits : Nat.pow 2 52 + Nat.pow 2 52 = 2 ^ 53 := rfl
  have exponent : word / Nat.pow 2 52 % Nat.pow 2 11 < 2048 := Nat.mod_lt _ (by decide)
  unfold ofBits
  dsimp only
  split
  · split <;> trivial
  · split
    · exact ⟨by omega, Int.le_refl _, by omega⟩
    · exact ⟨by omega, by omega, by omega⟩

theorem wellFormed_ofFloat (x : Float) : (ofFloat x).WellFormed :=
  wellFormed_ofBits _

/-- What is rounded to a double: nothing, or a mantissa of 53 bits in units of its last place. -/
theorem nearest_cases (negative : Bool) (num : Nat) {den : Nat} (hd : 0 < den) :
    nearest negative num den = .finite negative 0 leastExponent ∨
      num ≠ 0 ∧ ∃ m < 2 ^ 53, ∃ place, leastExponent ≤ place ∧ place ≤ unitPlace num den + 1 ∧
        nearest negative num den = if 971 < place then .infinite negative else .finite negative m place := by
  by_cases hn : num = 0
  · subst hn
    exact Or.inl rfl
  · have unit_pos : 0 < (inUnits 2 num den (unitPlace num den)).2 := inUnits_pos (by decide) hd num _
    have at_most := roundDiv_le unit_pos (inUnits_unitPlace_le num hd)
    have least : leastExponent ≤ unitPlace num den := Int.le_max_left _ _
    refine Or.inr ⟨hn, ?_⟩
    unfold nearest
    rw [if_neg hn]
    dsimp only
    split
    · exact ⟨Nat.pow 2 52, by decide, unitPlace num den + 1, by omega, Int.le_refl _, rfl⟩
    · rename_i below
      exact ⟨_, Nat.lt_of_le_of_ne at_most below, unitPlace num den, least, by omega, rfl⟩

theorem wellFormed_nearest (negative : Bool) (num : Nat) {den : Nat} (hd : 0 < den) :
    (nearest negative num den).WellFormed := by
  rcases nearest_cases negative num hd with zero | ⟨-, m, bits, place, least, -, same⟩
  · rw [zero]
    exact ⟨by decide, Int.le_refl _, by decide⟩
  · rw [same]
    split
    · trivial
    · exact ⟨bits, least, by omega⟩

/-- What has at most two hundred bits before the point is no infinity. -/
theorem isFinite_nearest (negative : Bool) {num den : Nat} (hd : 0 < den) (small : num < 2 ^ 200) :
    (nearest negative num den).isFinite = true := by
  rcases nearest_cases negative num hd with zero | ⟨hn, m, bits, place, least, most, same⟩
  · rw [zero]
    rfl
  · have bits : num.log2 < 200 := (Nat.log2_lt hn).mpr small
    have unit : unitPlace num den ≤ max leastExponent ((num.log2 : Int) - den.log2 - 53 + 1) := by
      unfold unitPlace
      dsimp only
      split <;> omega
    have least : leastExponent = -1074 := rfl
    rw [same, if_neg (by omega)]
    rfl

theorem quotient_lt {m : Nat} {e : Int} {negative : Bool} (h : (finite negative m e).WellFormed) :
    (quotient m e).1 < 2 ^ 1024 ∧ 0 < (quotient m e).2 ∧ (quotient m e).2 ≤ 2 ^ 1074 := by
  obtain ⟨bits, least, most⟩ := h
  have low : leastExponent = -1074 := rfl
  cases e with
  | ofNat k =>
    have within : 53 + k ≤ 1024 := Nat.add_le_add_left (Int.ofNat_le.mp most) 53
    refine ⟨?_, Nat.one_pos, one_le_pow₀ one_le_two⟩
    calc m * 2 ^ k < 2 ^ 53 * 2 ^ k := Nat.mul_lt_mul_of_pos_right bits (Nat.pow_pos (by decide))
      _ = 2 ^ (53 + k) := (pow_add 2 53 k).symm
      _ ≤ 2 ^ 1024 := pow_le_pow_right₀ one_le_two within
  | negSucc k =>
    have within : k + 1 ≤ 1074 := by omega
    have den : 2 ^ (k + 1) ≤ 2 ^ 1074 := pow_le_pow_right₀ one_le_two within
    refine ⟨?_, Nat.pow_pos (by decide), den⟩
    calc m * 1 = m := Nat.mul_one m
      _ < 2 ^ 53 := bits
      _ ≤ 2 ^ 1024 := pow_le_pow_right₀ one_le_two (by decide)

theorem natAbs_toInt?_lt {x : Double} (h : x.WellFormed) {n : Int} (whole : x.toInt? = some n) :
    n.natAbs < 2 ^ 1024 := by
  cases x with
  | finite negative m e =>
    have small := (quotient_lt h).1
    have part := Nat.div_le_self (quotient m e).1 (quotient m e).2
    have size : n.natAbs = (quotient m e).1 / (quotient m e).2 := by
      simp only [toInt?] at whole
      split at whole
      · obtain rfl := Option.some.inj whole
        split <;> simp only [Int.natAbs_neg, Int.natAbs_natCast]
      · simp at whole
    omega
  | nan | infinite => simp [toInt?] at whole

end Double

end Reckoner.Decimal
