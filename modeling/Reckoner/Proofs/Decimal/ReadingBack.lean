import Reckoner.Decimal.Shortest
import Reckoner.Proofs.Decimal.Magnitudes
import Mathlib.Algebra.Order.Group.Unbundled.Abs
import Mathlib.Algebra.Ring.Parity

namespace Reckoner.Decimal

/-- The whole number that is nearest to a rational, the even one of two. -/
structure NearestEven (q : ℚ) (n : ℤ) : Prop where
  near : |q - n| ≤ 1 / 2
  even : |q - n| = 1 / 2 → Even n

namespace NearestEven

variable {q : ℚ} {n : ℤ}

theorem of_lt (h : |q - n| < 1 / 2) : NearestEven q n :=
  ⟨h.le, fun tie => absurd tie h.ne⟩

theorem neg (h : NearestEven q n) : NearestEven (-q) (-n) := by
  have same : |-q - ((-n : ℤ) : ℚ)| = |q - n| := by
    rw [← abs_neg]
    congr 1
    push_cast
    ring
  exact ⟨same ▸ h.near, fun tie => (h.even (same ▸ tie)).neg⟩

/-- Two numbers that are equally near are next to each other, so one of them is odd. -/
theorem unique {k : ℤ} (hn : NearestEven q n) (hk : NearestEven q k) : n = k := by
  have apart {a b : ℤ} (ha : NearestEven q a) (hb : NearestEven q b) : ¬ a < b := by
    intro less
    have next : ((a + 1 : ℤ) : ℚ) ≤ b := by exact_mod_cast less
    push_cast at next
    obtain ⟨-, low⟩ := abs_le.mp ha.near
    obtain ⟨high, -⟩ := abs_le.mp hb.near
    have tie_a : q - a = 1 / 2 := by linarith
    have tie_b : q - b = -(1 / 2) := by linarith
    have neighbours : b = a + 1 := by
      have step : (b : ℚ) = a + 1 := by linarith
      exact_mod_cast step
    have even_a := ha.even (by rw [tie_a, abs_of_pos (by norm_num)])
    have even_b := hb.even (by rw [tie_b, abs_neg, abs_of_pos (by norm_num)])
    rw [neighbours] at even_b
    exact Int.not_even_iff_odd.mpr even_a.add_one even_b
  exact le_antisymm (not_lt.mp (apart hk hn)) (not_lt.mp (apart hn hk))

end NearestEven

theorem nearestEven_roundDiv (num : Nat) {den : Nat} (hd : 0 < den) :
    NearestEven ((num : ℚ) / den) (roundDiv num den) := by
  have below : (0 : ℚ) < den := Nat.cast_pos.mpr hd
  have rest : (num : ℚ) / den = (num / den : Nat) + ((num % den : Nat) : ℚ) / den := by
    have parts : (num : ℚ) = den * (num / den : Nat) + (num % den : Nat) := by
      exact_mod_cast (Nat.div_add_mod num den).symm
    rw [div_eq_iff below.ne', add_mul, div_mul_cancel₀ _ below.ne']
    linarith
  have left_over : (0 : ℚ) ≤ ((num % den : Nat) : ℚ) / den :=
    div_nonneg (Nat.cast_nonneg _) below.le
  have less : ((num % den : Nat) : ℚ) / den < 1 := by
    rw [div_lt_iff₀ below, one_mul]
    exact_mod_cast Nat.mod_lt num hd
  unfold roundDiv
  dsimp only
  split
  · rename_i small
    have half : ((num % den : Nat) : ℚ) / den < 1 / 2 := by
      rw [div_lt_div_iff₀ below two_pos]
      exact_mod_cast (by omega : num % den * 2 < 1 * den)
    refine NearestEven.of_lt ?_
    rw [rest, Int.cast_natCast, add_sub_cancel_left, abs_of_nonneg left_over]
    exact half
  · split
    · rename_i large
      have half : 1 / 2 < ((num % den : Nat) : ℚ) / den := by
        rw [div_lt_div_iff₀ two_pos below]
        exact_mod_cast (by omega : 1 * den < num % den * 2)
      refine NearestEven.of_lt ?_
      rw [rest, abs_lt, Int.cast_natCast, Nat.cast_add, Nat.cast_one]
      constructor <;> linarith
    · have half : ((num % den : Nat) : ℚ) / den = 1 / 2 := by
        rw [div_eq_div_iff below.ne' two_ne_zero]
        exact_mod_cast (by omega : num % den * 2 = 1 * den)
      rcases Nat.mod_two_eq_zero_or_one (num / den) with even | odd
      · rw [even, Nat.add_zero, rest, half]
        refine ⟨?_, fun _ => ?_⟩
        · rw [Int.cast_natCast, add_sub_cancel_left, abs_of_pos (by norm_num)]
        · exact_mod_cast Nat.even_iff.mpr even
      · rw [odd, rest, half]
        refine ⟨?_, fun _ => ?_⟩
        · rw [abs_le, Int.cast_natCast, Nat.cast_add, Nat.cast_one]
          constructor <;> linarith
        · exact_mod_cast Nat.even_iff.mpr (by omega : (num / den + 1) % 2 = 0)

/-- A rational in quarters of the last place lies in an interval. -/
def Interval.Contains (i : Interval) (r : ℚ) : Prop :=
  if i.closed then i.low ≤ r ∧ r ≤ i.high else i.low < r ∧ r < i.high

theorem Interval.holds_iff (i : Interval) (num : Nat) {den : Nat} (hd : 0 < den) :
    i.holds num den = true ↔ i.Contains ((num : ℚ) / den) := by
  have below : (0 : ℚ) < den := Nat.cast_pos.mpr hd
  unfold holds Contains
  split
  · rw [Bool.and_eq_true, decide_eq_true_iff, decide_eq_true_iff, le_div_iff₀ below, div_le_iff₀ below]
    exact_mod_cast Iff.rfl
  · rw [Bool.and_eq_true, decide_eq_true_iff, decide_eq_true_iff, lt_div_iff₀ below, div_lt_iff₀ below]
    exact_mod_cast Iff.rfl

theorem Interval.Contains.bounds {i : Interval} {r : ℚ} (h : i.Contains r) : i.low ≤ r ∧ r ≤ i.high := by
  unfold Contains at h
  split at h
  · exact h
  · exact ⟨h.1.le, h.2.le⟩

theorem Interval.contains_of_lt {i : Interval} {r : ℚ} (low : i.low < r) (high : r < i.high) : i.Contains r := by
  unfold Contains
  split
  · exact ⟨low.le, high.le⟩
  · exact ⟨low, high⟩

/-- What lies between two members of an interval is a member. -/
theorem Interval.Contains.between {i : Interval} {a b r : ℚ} (ha : i.Contains a) (hb : i.Contains b) (low : a ≤ r)
    (high : r ≤ b) : i.Contains r := by
  unfold Contains at ha hb ⊢
  split
  · rename_i closed
    rw [if_pos closed] at ha hb
    exact ⟨ha.1.trans low, high.trans hb.2⟩
  · rename_i opened
    rw [if_neg opened] at ha hb
    exact ⟨ha.1.trans_le low, high.trans_lt hb.2⟩

/-- The magnitude of a finite double. -/
def Double.magnitude (m : Nat) (e : Int) : ℚ :=
  m * 2 ^ e

theorem Double.quotient_div (m : Nat) (e : Int) :
    ((quotient m e).1 : ℚ) / (quotient m e).2 = magnitude m e := by
  have parts : quotient m e = (m * (power 2 e).1, (power 2 e).2) := rfl
  have two := power_div 2 e
  rw [Nat.cast_ofNat] at two
  rw [parts, Nat.cast_mul, mul_div_assoc, two, magnitude]

theorem Double.magnitude_nonneg (m : Nat) (e : Int) : 0 ≤ magnitude m e :=
  mul_nonneg (Nat.cast_nonneg m) (zpow_pos two_pos e).le

theorem Double.magnitude_eq_zero_iff {m : Nat} {e : Int} : magnitude m e = 0 ↔ m = 0 := by
  rw [magnitude, mul_eq_zero, Nat.cast_eq_zero]
  exact or_iff_left (zpow_pos two_pos e).ne'

/-- A rational reads back as the double of this mantissa and exponent. -/
def ReadsBack (m : Nat) (e : Int) (r : ℚ) : Prop :=
  (intervalOf m e).Contains (r / 2 ^ (e - 2))

theorem two_zpow_pos (e : Int) : (0 : ℚ) < 2 ^ e :=
  zpow_pos two_pos e

/-- Units of the last place in quarters. -/
theorem two_zpow_quarter (e : Int) : (2 : ℚ) ^ e = 4 * 2 ^ (e - 2) := by
  rw [zpow_sub₀ two_ne_zero]
  ring

theorem two_zpow_half (e : Int) : (2 : ℚ) ^ (e - 1) = 2 * 2 ^ (e - 2) := by
  have split_exponent : e - 1 = e - 2 + 1 := by ring
  rw [split_exponent, zpow_add_one₀ two_ne_zero]
  ring

theorem two_zpow_twice (e : Int) : (2 : ℚ) ^ e = 2 * 2 ^ (e - 1) := by
  rw [two_zpow_quarter e, two_zpow_half]
  ring

section Bounds

variable {m : Nat} {e : Int} {r : ℚ}

/-- The interval of a double is not wider than its last place, half of it on either side. -/
theorem intervalOf_bounds (hm : 0 < m) : 4 * (m : ℚ) - 2 ≤ (intervalOf m e).low ∧
    (intervalOf m e).low < 4 * (m : ℚ) ∧ ((intervalOf m e).high : ℚ) = 4 * m + 2 := by
  have wide : ((4 * m - 2 : Nat) : ℚ) = 4 * m - 2 := by
    rw [Nat.cast_sub (by omega)]
    push_cast
    ring
  have narrow : ((4 * m - 1 : Nat) : ℚ) = 4 * m - 1 := by
    rw [Nat.cast_sub (by omega)]
    push_cast
    ring
  have high : ((4 * m + 2 : Nat) : ℚ) = 4 * m + 2 := by push_cast; ring
  unfold intervalOf
  dsimp only
  split
  · rw [narrow, high]
    exact ⟨by linarith, by linarith, rfl⟩
  · rw [wide, high]
    exact ⟨by linarith, by linarith, rfl⟩

theorem ReadsBack.near (h : ReadsBack m e r) (hm : 0 < m) : |r - Double.magnitude m e| ≤ 2 ^ (e - 1) := by
  have unit := two_zpow_pos (e - 2)
  obtain ⟨low, high⟩ := Interval.Contains.bounds h
  obtain ⟨least, -, most⟩ := intervalOf_bounds (e := e) hm
  rw [le_div_iff₀ unit] at low
  rw [div_le_iff₀ unit, most] at high
  have low' := mul_le_mul_of_nonneg_right least unit.le
  rw [abs_le, Double.magnitude, two_zpow_quarter e, two_zpow_half]
  constructor <;> linarith

/-- Every double reads back as itself. -/
theorem readsBack_self (hm : 0 < m) : ReadsBack m e (Double.magnitude m e) := by
  have unit := two_zpow_pos (e - 2)
  obtain ⟨-, least, most⟩ := intervalOf_bounds (e := e) hm
  have middle : Double.magnitude m e / 2 ^ (e - 2) = 4 * m := by
    rw [Double.magnitude, two_zpow_quarter e, div_eq_iff unit.ne']
    ring
  refine Interval.contains_of_lt ?_ ?_ <;> rw [middle]
  · exact least
  · rw [most]
    linarith

theorem low_of_wide (hm : 0 < m) (wide : ¬ (m = 2 ^ 52 ∧ Double.leastExponent < e)) :
    ((intervalOf m e).low : ℚ) = 4 * m - 2 := by
  have low : (intervalOf m e).low = 4 * m - 2 := by
    refine if_neg ?_
    simpa using wide
  rw [low, Nat.cast_sub (by omega)]
  push_cast
  ring

/-- What is less than half a unit away reads back, unless the double is a power of two. -/
theorem readsBack_of_lt (hm : 0 < m) (wide : m ≠ 2 ^ 52) (near : |r - Double.magnitude m e| < 2 ^ (e - 1)) :
    ReadsBack m e r := by
  have unit := two_zpow_pos (e - 2)
  obtain ⟨-, -, most⟩ := intervalOf_bounds (e := e) hm
  have least : ((intervalOf m e).low : ℚ) = 4 * m - 2 := low_of_wide hm fun narrow => wide narrow.1
  rw [abs_lt, Double.magnitude, two_zpow_quarter e, two_zpow_half] at near
  refine Interval.contains_of_lt ?_ ?_
  · rw [least, lt_div_iff₀ unit]
    linarith
  · rw [most, div_lt_iff₀ unit]
    linarith

theorem ReadsBack.between {a b : ℚ} (ha : ReadsBack m e a) (hb : ReadsBack m e b) (low : a ≤ r) (high : r ≤ b) :
    ReadsBack m e r := by
  have unit := two_zpow_pos (e - 2)
  exact Interval.Contains.between ha hb (div_le_div_of_nonneg_right low unit.le)
    (div_le_div_of_nonneg_right high unit.le)

/-- A rational whose mantissa is rounded reads back, above the least mantissa only if it is a power of two. -/
theorem readsBack_of_nearestEven {q : ℚ} (hm : 0 < m) (h : NearestEven q m)
    (above : m = 2 ^ 52 → Double.leastExponent < e → (m : ℚ) ≤ q) : ReadsBack m e (q * 2 ^ e) := by
  obtain ⟨low, high⟩ := abs_le.mp h.near
  rw [Int.cast_natCast] at low high
  have quarters : q * 2 ^ e / 2 ^ (e - 2) = 4 * q := by
    rw [two_zpow_quarter e, div_eq_iff (two_zpow_pos _).ne']
    ring
  rw [ReadsBack, quarters]
  obtain ⟨-, -, most⟩ := intervalOf_bounds (e := e) hm
  by_cases even : m % 2 = 0
  · have closed : (intervalOf m e).closed = true := beq_iff_eq.mpr even
    rw [Interval.Contains, if_pos closed, most]
    refine ⟨?_, by linarith⟩
    by_cases narrow : m = 2 ^ 52 ∧ Double.leastExponent < e
    · have least := (intervalOf_bounds (e := e) hm).2.1
      linarith [above narrow.1 narrow.2]
    · have least : ((intervalOf m e).low : ℚ) = 4 * m - 2 := low_of_wide hm narrow
      linarith
  · have inside : |q - (m : ℤ)| ≠ 1 / 2 := by
      intro tie
      have whole := h.even tie
      rw [Int.even_coe_nat, Nat.even_iff] at whole
      exact even whole
    have strict : |q - (m : ℤ)| < 1 / 2 := lt_of_le_of_ne h.near inside
    rw [Int.cast_natCast, abs_lt] at strict
    have least : ((intervalOf m e).low : ℚ) = 4 * m - 2 :=
      low_of_wide hm fun narrow => even (by rw [narrow.1]; decide)
    refine Interval.contains_of_lt ?_ ?_
    · rw [least]
      linarith
    · rw [most]
      linarith

/-- What is rounded up to one bit more reads back as the next power of two. -/
theorem readsBack_carried {q : ℚ} (normal : Double.leastExponent < e + 1) (low : 2 ^ 53 - 1 / 2 ≤ q)
    (high : q ≤ 2 ^ 53) : ReadsBack (2 ^ 52) (e + 1) (q * 2 ^ e) := by
  have narrow : intervalOf (2 ^ 52) (e + 1) = ⟨4 * 2 ^ 52 - 1, 4 * 2 ^ 52, 4 * 2 ^ 52 + 2, true⟩ := by
    simp [intervalOf, normal]
  have quarters : q * 2 ^ e / 2 ^ (e + 1 - 2) = 2 * q := by
    have half : (2 : ℚ) ^ e = 2 * 2 ^ (e + 1 - 2) := by
      rw [← two_zpow_half, add_sub_cancel_right]
    rw [half, div_eq_iff (two_zpow_pos _).ne']
    ring
  rw [ReadsBack, narrow, quarters, Interval.Contains, if_pos rfl]
  norm_num at low high ⊢
  constructor <;> linarith

end Bounds

namespace Double

/-- A quotient of numbers is not less than what the counts of their bits say. -/
theorem two_pow_le_div {num den : Nat} (hn : num ≠ 0) (hd : 0 < den) :
    (2 : ℚ) ^ ((num.log2 : Int) - den.log2 - 1) ≤ num / den := by
  have two : (2 : ℚ) ≠ 0 := by norm_num
  have num_low : (2 : ℚ) ^ (num.log2 : Int) ≤ num := by
    rw [zpow_natCast]
    exact_mod_cast Nat.log2_self_le hn
  have den_high : (den : ℚ) ≤ 2 ^ ((den.log2 : Int) + 1) := by
    have bits : den < 2 ^ (den.log2 + 1) := Nat.lt_log2_self
    exact_mod_cast bits.le
  rw [le_div_iff₀ (Nat.cast_pos.mpr hd)]
  calc (2 : ℚ) ^ ((num.log2 : Int) - den.log2 - 1) * den
      ≤ 2 ^ ((num.log2 : Int) - den.log2 - 1) * 2 ^ ((den.log2 : Int) + 1) :=
        mul_le_mul_of_nonneg_left den_high (two_zpow_pos _).le
    _ = 2 ^ (num.log2 : Int) := by
        rw [← zpow_add₀ two]
        congr 1
        omega
    _ ≤ num := num_low

/-- In units of the last place a quotient has 53 bits, unless it is subnormal. -/
theorem unitPlace_le {num den : Nat} (hn : num ≠ 0) (hd : 0 < den) (normal : leastExponent < unitPlace num den) :
    2 ^ 52 * (inUnits 2 num den (unitPlace num den)).2 ≤ (inUnits 2 num den (unitPlace num den)).1 := by
  let guess : Int := (num.log2 : Int) - den.log2 - 53
  have guess_pos : 0 < (inUnits 2 num den guess).2 := inUnits_pos (by decide) hd num guess
  have least : unitPlace num den = max leastExponent
      (if Nat.pow 2 53 ≤ (inUnits 2 num den guess).1 / (inUnits 2 num den guess).2 then guess + 1
        else guess) := rfl
  have scale (k : Nat) (place : Int) : ((2 ^ k : Nat) : ℚ) * ((2 : Nat) : ℚ) ^ place = 2 ^ (k + place) := by
    rw [zpow_add₀ (by norm_num), zpow_natCast]
    push_cast
    rfl
  rw [le_inUnits_iff (by decide) hd, scale]
  by_cases wide : Nat.pow 2 53 ≤ (inUnits 2 num den guess).1 / (inUnits 2 num den guess).2
  · rw [if_pos wide] at least
    have place : unitPlace num den = guess + 1 := by omega
    have reached : 2 ^ 53 * (inUnits 2 num den guess).2 ≤ (inUnits 2 num den guess).1 :=
      (Nat.le_div_iff_mul_le guess_pos).mp wide
    rw [le_inUnits_iff (by decide) hd, scale] at reached
    have same : ((52 : Nat) : Int) + (guess + 1) = ((53 : Nat) : Int) + guess := by omega
    rw [place, same]
    exact reached
  · rw [if_neg wide] at least
    have place : unitPlace num den = guess := by omega
    have same : ((52 : Nat) : Int) + guess = (num.log2 : Int) - den.log2 - 1 := by omega
    rw [place, same]
    exact two_pow_le_div hn hd

/-- A quotient lies in the interval of the double that it is rounded to. -/
theorem nearest_spec (negative : Bool) {num den : Nat} (hn : num ≠ 0) (hd : 0 < den) :
    ∃ m < 2 ^ 53, ∃ e, leastExponent ≤ e ∧ (leastExponent < e → 2 ^ 52 ≤ m) ∧
      (0 < m → ReadsBack m e (num / den)) ∧ (m = 0 → (num : ℚ) / den ≤ 2 ^ (e - 1)) ∧
      nearest negative num den = if 971 < e then .infinite negative else .finite negative m e := by
  let place : Int := unitPlace num den
  let n : Nat := (inUnits 2 num den place).1
  let d : Nat := (inUnits 2 num den place).2
  have least : leastExponent ≤ place := Int.le_max_left _ _
  have unit_pos : 0 < d := inUnits_pos (by decide) hd num place
  have at_most : roundDiv n d ≤ 2 ^ 53 := roundDiv_le unit_pos (inUnits_unitPlace_le num hd)
  have rounding := nearestEven_roundDiv n unit_pos
  have quarters : (num : ℚ) / den = (n : ℚ) / d * 2 ^ place := by
    have units := inUnits_div 2 num den place
    rw [Nat.cast_ofNat] at units
    rw [units, div_mul_cancel₀ _ (two_zpow_pos place).ne']
  have unfolded : nearest negative num den = if roundDiv n d = Nat.pow 2 53 then
      (if 971 < place + 1 then .infinite negative else .finite negative (Nat.pow 2 52) (place + 1))
      else (if 971 < place then .infinite negative else .finite negative (roundDiv n d) place) := by
    unfold nearest
    rw [if_neg hn]
    dsimp only
    split <;> rfl
  rw [unfolded]
  by_cases full : roundDiv n d = Nat.pow 2 53
  · rw [if_pos full]
    refine ⟨2 ^ 52, by decide, place + 1, by omega, fun _ => le_refl _, fun _ => ?_, by omega, rfl⟩
    have bits : (((roundDiv n d : Nat) : ℤ) : ℚ) = 2 ^ 53 := by
      rw [full]
      norm_num
    have near := rounding.near
    rw [bits] at near
    obtain ⟨low, -⟩ := abs_le.mp near
    have high : (n : ℚ) / d ≤ 2 ^ 53 := by
      rw [div_le_iff₀ (Nat.cast_pos.mpr unit_pos)]
      exact_mod_cast inUnits_unitPlace_le num hd
    rw [quarters]
    exact readsBack_carried (by omega) (by linarith) high
  · rw [if_neg full]
    have below : roundDiv n d < 2 ^ 53 := Nat.lt_of_le_of_ne at_most full
    have normal_bits : leastExponent < place → 2 ^ 52 * d ≤ n := unitPlace_le hn hd
    refine ⟨roundDiv n d, below, place, least, fun normal => le_roundDiv unit_pos (normal_bits normal), ?_, ?_, rfl⟩
    · intro some_bits
      rw [quarters]
      refine readsBack_of_nearestEven some_bits rounding fun power normal => ?_
      rw [power, le_div_iff₀ (Nat.cast_pos.mpr unit_pos)]
      exact_mod_cast normal_bits normal
    · intro nothing
      have near := rounding.near
      rw [nothing] at near
      obtain ⟨-, high⟩ := abs_le.mp near
      rw [quarters, two_zpow_twice place]
      have scaled := mul_le_mul_of_nonneg_right high (two_zpow_pos (place - 1)).le
      push_cast at scaled
      linarith

end Double

end Reckoner.Decimal
