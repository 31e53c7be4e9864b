import Reckoner.Proofs.Decimal.FewestDigits

namespace Reckoner.Decimal

/-- Two members of a grid that are less than a step apart are the same. -/
theorem eq_of_near {a b : ℤ} {step : ℚ} (hs : 0 < step) (near : |a * step - b * step| < step) : a = b := by
  obtain ⟨low, high⟩ := abs_lt.mp near
  have up : (a : ℚ) < b + 1 := by
    refine lt_of_mul_lt_mul_right ?_ hs.le
    linarith
  have down : (b : ℚ) < a + 1 := by
    refine lt_of_mul_lt_mul_right ?_ hs.le
    linarith
  have up' : a < b + 1 := by exact_mod_cast up
  have down' : b < a + 1 := by exact_mod_cast down
  omega

/-- A coarser grid lies within a finer one. -/
theorem exists_finer {place least : Int} (h : least ≤ place) (n : Nat) :
    ∃ k : Nat, (n : ℚ) * 10 ^ place = k * 10 ^ least := by
  obtain ⟨j, rfl⟩ := Int.le.dest h
  refine ⟨n * 10 ^ j, ?_⟩
  rw [zpow_add₀ (by norm_num), zpow_natCast]
  push_cast
  ring

theorem millionths (k : ℚ) : k / 10 ^ 6 = k * 10 ^ (-6 : Int) := by
  rw [zpow_neg, div_eq_mul_inv]
  norm_num

theorem millionths_mul (x : ℚ) : x * 10 ^ 6 = x / 10 ^ (-6 : Int) := by
  rw [zpow_neg, div_inv_eq_mul]
  norm_num

theorem hundred_thousandths (k : ℚ) : k / 10 ^ 5 = k * 10 ^ (-5 : Int) := by
  rw [zpow_neg, div_eq_mul_inv]
  norm_num

/-- Half a unit of 2 ^ (-19) beside a double of that unit lies no hundred-thousandth. -/
theorem half_unit_ne (n : Nat) (t : ℤ) : |(n : ℚ) * 2 ^ (-19 : Int) - t / 10 ^ 5| ≠ 1 / 2 ^ 20 := by
  intro tie
  have odd (sign : ℤ) (one : sign = 1 ∨ sign = -1) (h : (n : ℚ) * 2 ^ (-19 : Int) - t / 10 ^ 5 = sign / 2 ^ 20) :
      False := by
    have scaled : (6250 * n - 32768 * t : ℚ) = 3125 * sign := by
      norm_num at h
      linarith
    have whole : (6250 * n - 32768 * t : ℤ) = 3125 * sign := by exact_mod_cast scaled
    omega
  rcases abs_eq (by norm_num) |>.mp tie with above | below
  · exact odd 1 (Or.inl rfl) (by rw [above]; norm_num)
  · exact odd (-1) (Or.inr rfl) (by rw [below]; norm_num)

/-- The least double of that unit is a whole number. -/
theorem ne_power {m : Nat} (other : Double.magnitude m (-19) ≠ (2 ^ 33 : Nat)) : m ≠ 2 ^ 52 := by
  rintro rfl
  refine other ?_
  rw [Double.magnitude]
  norm_num

section Rounded

variable {k m : Nat} {e : Int} (hm : 0 < m) (reads : ReadsBack m e (k / 10 ^ 6))

include hm reads

/-- Up to ten billions a double has nineteen bits behind the point at least. -/
theorem exponent_le (normal : Double.leastExponent < e → 2 ^ 52 ≤ m) (few : k ≤ 10 ^ 16) : e ≤ -19 := by
  by_contra large
  have least : Double.leastExponent = -1074 := rfl
  have some_bits : (2 ^ 52 : ℚ) ≤ m := by exact_mod_cast normal (by omega)
  have unit : (2 : ℚ) ^ (-18 : Int) ≤ 2 ^ e := zpow_le_zpow_right₀ (by norm_num) (by omega)
  have most : (k : ℚ) ≤ 10 ^ 16 := by exact_mod_cast few
  have half := two_zpow_twice e
  obtain ⟨low, -⟩ := abs_le.mp (reads.near hm)
  have product : (2 ^ 52 - 1 / 2) * (2 : ℚ) ^ (-18 : Int) ≤ (m - 1 / 2) * 2 ^ e :=
    mul_le_mul (by linarith) unit (two_zpow_pos _).le (by linarith)
  rw [Double.magnitude] at low
  norm_num at product
  linarith

variable (fine : e ≤ -19)

include fine

theorem near_millionths : |(k : ℚ) / 10 ^ 6 - Double.magnitude m e| ≤ 1 / 2 ^ 20 := by
  have half : (2 : ℚ) ^ (e - 1) ≤ 2 ^ (-20 : Int) := zpow_le_zpow_right₀ (by norm_num) (by omega)
  have value : (2 : ℚ) ^ (-20 : Int) = 1 / 2 ^ 20 := by norm_num
  exact (reads.near hm).trans (value ▸ half)

/-- A whole number that millionths are rounded to is their number already. -/
theorem whole_eq {j : Nat} (whole : Double.magnitude m e = j) : Double.magnitude m e = k / 10 ^ 6 := by
  have near := near_millionths hm reads fine
  have scaled : (j : ℚ) = ((j * 10 ^ 6 : Nat) : ℤ) * 10 ^ (-6 : Int) := by
    rw [← millionths]
    push_cast
    field_simp
    norm_num
  rw [whole, millionths] at near ⊢
  have same : (k : ℤ) = (j * 10 ^ 6 : Nat) := by
    refine eq_of_near (ten_zpow_pos (-6)) ?_
    rw [← scaled]
    push_cast
    refine near.trans_lt ?_
    norm_num
  have cast : (k : ℚ) = ((j * 10 ^ 6 : Nat) : ℤ) := by exact_mod_cast congrArg (Int.cast : ℤ → ℚ) same
  rw [cast]
  exact scaled

omit reads in
/-- A whole number that reads back is the double itself. -/
theorem eq_of_whole {j : Nat} (whole : ReadsBack m e j) : Double.magnitude m e = j := by
  obtain ⟨places, down⟩ : ∃ places : Nat, e = -places := ⟨(-e).toNat, by omega⟩
  have unit := two_zpow_pos e
  have scaled : (j : ℚ) = ((j * 2 ^ places : Nat) : ℤ) * 2 ^ e := by
    rw [down, zpow_neg, zpow_natCast]
    push_cast
    field_simp
  have half : (2 : ℚ) ^ (e - 1) < 2 ^ e := zpow_lt_zpow_right₀ (by norm_num) (by omega)
  have same : ((j * 2 ^ places : Nat) : ℤ) = m := by
    refine eq_of_near unit ?_
    rw [← scaled]
    exact (whole.near hm).trans_lt half
  rw [scaled, same]
  rfl

/-- From a ten-thousandth to ten billions the leading digit stands at most ten places from the ones. -/
theorem leading_bounds (large : 100 ≤ k) (few : k ≤ 10 ^ 16) :
    -5 ≤ leadingPlace (Double.quotient m e).1 (Double.quotient m e).2 ∧
      leadingPlace (Double.quotient m e).1 (Double.quotient m e).2 ≤ 10 := by
  have num_pos : 0 < (Double.quotient m e).1 := Nat.mul_pos hm (power_pos (by decide) e).1
  have den_pos : 0 < (Double.quotient m e).2 := (power_pos (by decide) e).2
  obtain ⟨at_least, less⟩ := leadingPlace_spec num_pos den_pos
  rw [Double.quotient_div] at at_least less
  obtain ⟨low, high⟩ := abs_le.mp (near_millionths hm reads fine)
  have large' : (100 : ℚ) ≤ k := by exact_mod_cast large
  have few' : (k : ℚ) ≤ 10 ^ 16 := by exact_mod_cast few
  have above : (10 : ℚ) ^ (-5 : Int) < 10 ^ (leadingPlace (Double.quotient m e).1 (Double.quotient m e).2 + 1) := by
    refine lt_trans ?_ less
    norm_num
    linarith
  have below : (10 : ℚ) ^ leadingPlace (Double.quotient m e).1 (Double.quotient m e).2 < 10 ^ (11 : Int) := by
    refine at_least.trans_lt ?_
    norm_num
    linarith
  have lower := (zpow_lt_zpow_iff_right₀ (by norm_num)).mp above
  have upper := (zpow_lt_zpow_iff_right₀ (by norm_num)).mp below
  omega

/-- The double is written with six decimals at most. -/
theorem written_millionths (large : 100 ≤ k) (few : k ≤ 10 ^ 16) : Written m e (-6) (shortest m e) := by
  obtain ⟨low, high⟩ := leading_bounds hm reads fine large few
  rw [millionths] at reads
  exact shortest_spec hm (by omega) (by omega) reads

omit reads in
/-- What is no whole number is written with decimals. -/
theorem Written.place_neg {d : Numeral} {least : Int} (h : Written m e least d)
    (broken : ∀ j : Nat, Double.magnitude m e ≠ j) : d.place < 0 := by
  by_contra whole
  obtain ⟨j, same⟩ := exists_finer (not_lt.mp whole) d.digits
  rw [zpow_zero, mul_one] at same
  refine broken j (eq_of_whole hm fine ?_)
  rw [← same]
  exact h.reads

omit hm reads fine in
/-- What is written lies on the grid of the least place. -/
theorem Written.exists_steps {d : Numeral} {least : Int} (h : Written m e least d) :
    ∃ n : Nat, d.value = n * 10 ^ least := by
  obtain ⟨n, place, range, -, value, -⟩ := h.found
  obtain ⟨j, same⟩ := exists_finer range n
  exact ⟨j, value.trans same⟩

omit fine in
/-- Where the doubles lie closer together than the millionths, what is written is the number of them. -/
theorem Written.value_eq {d : Numeral} (h : Written m e (-6) d) (close : e ≤ -20) : d.value = k / 10 ^ 6 := by
  obtain ⟨n, value⟩ := h.exists_steps
  have written_near := h.reads.near hm
  have rounded_near := reads.near hm
  have half : (2 : ℚ) ^ (e - 1) ≤ 2 ^ (-21 : Int) := zpow_le_zpow_right₀ (by norm_num) (by omega)
  rw [abs_le] at written_near rounded_near
  have same : (n : ℤ) = k := by
    refine eq_of_near (ten_zpow_pos (-6)) ?_
    rw [value] at written_near
    rw [millionths] at rounded_near
    norm_num at half written_near rounded_near
    rw [abs_lt]
    norm_num
    constructor <;> linarith
  rw [value, millionths]
  congr 1
  exact_mod_cast congrArg (Int.cast : ℤ → ℚ) same

end Rounded

/-- What is written for a magnitude: so many millionths, or hundred-thousandths that lie close by from 2 ^ 33 on. -/
structure SixDecimals (x v : ℚ) : Prop where
  rounded : (∃ k : ℤ, NearestEven (x * 10 ^ 6) k ∧ v = k / 10 ^ 6) ∨
    2 ^ 33 ≤ x ∧ ∃ t : ℤ, v = t / 10 ^ 5 ∧ |x - t / 10 ^ 5| < 1 / 2 ^ 20
  preferred : 2 ^ 33 ≤ x → ∀ t : ℤ, |x - t / 10 ^ 5| < 1 / 2 ^ 20 → v = t / 10 ^ 5

/-- A magnitude up to ten billions that is rounded to so many millionths, and they to a double. -/
structure TwiceRounded (x : ℚ) (k m : Nat) (e : Int) : Prop where
  rounding : NearestEven (x * 10 ^ 6) k
  large : 100 ≤ k
  few : k ≤ 10 ^ 16
  some_bits : 0 < m
  bits : m < 2 ^ 53
  normal : Double.leastExponent < e → 2 ^ 52 ≤ m
  reads : ReadsBack m e (k / 10 ^ 6)
  units : 2 ^ 33 ≤ x → ∃ n : Nat, x = n * 2 ^ (-19 : Int)

namespace TwiceRounded

variable {x : ℚ} {k m : Nat} {e : Int}

theorem bounds (h : TwiceRounded x k m e) : x * 10 ^ 6 - 1 / 2 ≤ k ∧ (k : ℚ) ≤ x * 10 ^ 6 + 1 / 2 := by
  obtain ⟨low, high⟩ := abs_le.mp h.rounding.near
  rw [Int.cast_natCast] at low high
  constructor <;> linarith

theorem fine (h : TwiceRounded x k m e) : e ≤ -19 :=
  exponent_le h.some_bits h.reads h.normal h.few

/-- Below 2 ^ 33 the doubles lie closer together than the millionths, but for that number itself. -/
theorem close_or_power (h : TwiceRounded x k m e) (small : x < 2 ^ 33) :
    e ≤ -20 ∨ Double.magnitude m e = (2 ^ 33 : Nat) := by
  by_contra neither
  obtain ⟨coarse, other⟩ := not_or.mp neither
  have least : Double.leastExponent = -1074 := rfl
  have exponent : e = -19 := le_antisymm h.fine (by omega)
  subst exponent
  have few_millionths : (k : ℚ) ≤ 2 ^ 33 * 10 ^ 6 := by
    have below : (k : ℚ) < (2 ^ 33 * 10 ^ 6 + 1 : Nat) := by
      push_cast
      linarith [h.bounds.2]
    exact_mod_cast Nat.lt_succ_iff.mp (Nat.cast_lt.mp below)
  have power := ne_power other
  have above : (2 ^ 52 + 1 : ℚ) ≤ m := by
    have some_bits := h.normal (by omega)
    exact_mod_cast (by omega : 2 ^ 52 + 1 ≤ m)
  obtain ⟨low, -⟩ := abs_le.mp (h.reads.near h.some_bits)
  rw [Double.magnitude] at low
  norm_num at low
  linarith

/-- From 2 ^ 33 on a double is the nearest one to the number of its millionths. -/
theorem same_double (h : TwiceRounded x k m e) (beyond : 2 ^ 33 ≤ x) : e = -19 ∧ Double.magnitude m e = x := by
  obtain ⟨low, high⟩ := h.bounds
  obtain ⟨below, above⟩ := abs_le.mp (h.reads.near h.some_bits)
  have exponent : e = -19 := by
    by_contra other
    have many_millionths : 2 ^ 33 * 10 ^ 6 ≤ (k : ℚ) := by
      have past : ((2 ^ 33 * 10 ^ 6 : Nat) : ℚ) < (k + 1 : Nat) := by
        push_cast
        linarith
      exact_mod_cast Nat.lt_succ_iff.mp (Nat.cast_lt.mp past)
    have few_bits : (m + 1 : ℚ) ≤ 2 ^ 53 := by exact_mod_cast h.bits
    have fine := h.fine
    have unit : (2 : ℚ) ^ e ≤ 2 ^ (-20 : Int) := zpow_le_zpow_right₀ (by norm_num) (by omega)
    have half := two_zpow_twice e
    have product : (m + 1 / 2) * (2 : ℚ) ^ e ≤ (2 ^ 53 - 1 / 2) * 2 ^ (-20 : Int) := by
      refine mul_le_mul ?_ unit (two_zpow_pos _).le (by norm_num)
      linarith
    rw [Double.magnitude] at above
    norm_num at product
    linarith
  subst exponent
  refine ⟨rfl, ?_⟩
  obtain ⟨n, steps⟩ := h.units beyond
  have same : (n : ℤ) = m := by
    refine eq_of_near (two_zpow_pos (-19)) ?_
    rw [Int.cast_natCast, Int.cast_natCast, ← steps, ← Double.magnitude]
    norm_num at below above ⊢
    rw [abs_lt]
    constructor <;> linarith
  have cast : (n : ℚ) = m := by exact_mod_cast congrArg (Int.cast : ℤ → ℚ) same
  rw [steps, cast, Double.magnitude]

/-- What is rounded to a whole number is that number. -/
theorem sixDecimals_whole (h : TwiceRounded x k m e) {j : Nat} (whole : Double.magnitude m e = j) :
    SixDecimals x j := by
  have rounded : (j : ℚ) = k / 10 ^ 6 := by rw [← whole, whole_eq h.some_bits h.reads h.fine whole]
  refine ⟨Or.inl ⟨k, h.rounding, rounded⟩, fun beyond t close => ?_⟩
  have same := (h.same_double beyond).2
  have scaled : (j : ℚ) = ((j * 10 ^ 5 : Nat) : ℤ) * 10 ^ (-5 : Int) := by
    rw [← hundred_thousandths]
    push_cast
    field_simp
    norm_num
  rw [← same, whole, scaled, hundred_thousandths] at close
  have grid : ((j * 10 ^ 5 : Nat) : ℤ) = t := by
    refine eq_of_near (ten_zpow_pos (-5)) (close.trans ?_)
    norm_num
  rw [scaled, grid, hundred_thousandths]

theorem written (h : TwiceRounded x k m e) : Written m e (-6) (shortest m e) :=
  written_millionths h.some_bits h.reads h.fine h.large h.few

section Broken

variable (h : TwiceRounded x k m e) (broken : ∀ j : Nat, Double.magnitude m e ≠ j)

include h broken

/-- Of two roundings from 2 ^ 33 on the second changes nothing, or drops the sixth decimal. -/
theorem rounded_beyond (beyond : 2 ^ 33 ≤ x) :
    (∃ k : ℤ, NearestEven (x * 10 ^ 6) k ∧ (shortest m e).value = k / 10 ^ 6) ∨
      ∃ t : ℤ, (shortest m e).value = t / 10 ^ 5 ∧ |x - t / 10 ^ 5| < 1 / 2 ^ 20 := by
  obtain ⟨rfl, same⟩ := h.same_double beyond
  obtain ⟨digits, place, range, -, value, nearest⟩ := h.written.found
  rcases Int.lt_or_eq_of_le range with coarser | rfl
  · obtain ⟨t, grid⟩ := exists_finer (by omega : -5 ≤ place) digits
    have five : (shortest m (-19)).value = ((t : ℤ) : ℚ) / 10 ^ 5 := by
      rw [value, grid, hundred_thousandths]
      rfl
    refine Or.inr ⟨t, five, lt_of_le_of_ne ?_ ?_⟩
    · have near := h.written.reads.near h.some_bits
      rw [same, five, abs_sub_comm] at near
      norm_num at near ⊢
      exact near
    · obtain ⟨n, steps⟩ := h.units beyond
      rw [steps]
      exact half_unit_ne n t
  · have six := nearest (ne_power (broken _))
    rw [same, ← millionths_mul] at six
    obtain rfl := Int.natCast_inj.mp (six.unique h.rounding)
    exact Or.inl ⟨digits, six, by rw [value, millionths]; rfl⟩

/-- Hundred-thousandths that read back are preferred to millionths. -/
theorem preferred_beyond (beyond : 2 ^ 33 ≤ x) {t : ℤ} (close : |x - t / 10 ^ 5| < 1 / 2 ^ 20) :
    (shortest m e).value = t / 10 ^ 5 := by
  have fine := h.fine
  obtain ⟨rfl, same⟩ := h.same_double beyond
  obtain ⟨c, rfl⟩ : ∃ c : Nat, t = c := by
    refine Int.eq_ofNat_of_zero_le ?_
    by_contra negative
    have below : (t : ℚ) ≤ 0 := by exact_mod_cast (not_le.mp negative).le
    obtain ⟨-, high⟩ := abs_lt.mp close
    norm_num at high
    linarith
  have short : ReadsBack m (-19) (c * 10 ^ (-5 : Int)) := by
    refine readsBack_of_lt h.some_bits (ne_power (broken _)) ?_
    rw [same, abs_sub_comm, ← hundred_thousandths]
    norm_num at close ⊢
    exact close
  obtain ⟨low, high⟩ := leading_bounds h.some_bits h.reads fine h.large h.few
  have written := shortest_spec h.some_bits low (by omega) short
  obtain ⟨d, value⟩ := written.exists_steps
  have near := written.reads.near h.some_bits
  rw [value, same] at near
  rw [hundred_thousandths] at close
  have grid : (d : ℤ) = c := by
    refine eq_of_near (ten_zpow_pos (-5)) ?_
    rw [abs_le] at near
    rw [abs_lt] at close ⊢
    norm_num at near close ⊢
    constructor <;> linarith
  rw [value, hundred_thousandths, ← grid]
  rfl

theorem sixDecimals_broken : SixDecimals x (shortest m e).value := by
  refine ⟨?_, fun beyond t => h.preferred_beyond broken beyond⟩
  rcases lt_or_ge x (2 ^ 33) with small | beyond
  · rcases h.close_or_power small with close | power
    · exact Or.inl ⟨k, h.rounding, h.written.value_eq h.some_bits h.reads close⟩
    · exact absurd power (broken _)
  · rcases h.rounded_beyond broken beyond with six | five
    · exact Or.inl six
    · exact Or.inr ⟨beyond, five⟩

end Broken

end TwiceRounded

namespace SixDecimals

variable {x v : ℚ}

/-- What is written is closer than a millionth, for it is never further than half a unit of the double. -/
theorem near (h : SixDecimals x v) : |v - x| < 1 / 2 ^ 20 := by
  rcases h.rounded with ⟨k, rounding, rfl⟩ | ⟨-, t, rfl, close⟩
  · have half := rounding.near
    rw [abs_le] at half
    rw [abs_lt]
    norm_num at half ⊢
    constructor <;> linarith
  · rw [abs_sub_comm]
    exact close

/-- Where magnitudes are written without an exponent, what is written for them needs none. -/
theorem bounds (h : SixDecimals x v) (low : 1 / 10 ^ 4 ≤ x) (high : x ≤ 10 ^ 10) : 1 / 10 ^ 4 ≤ v ∧ v < 10 ^ 11 := by
  obtain ⟨below, above⟩ := abs_lt.mp h.near
  norm_num at below above low high
  refine ⟨?_, by linarith⟩
  rcases h.rounded with ⟨k, rounding, rfl⟩ | ⟨beyond, -⟩
  · obtain ⟨-, half⟩ := abs_le.mp rounding.near
    have least : ((100 : ℤ) : ℚ) < (k + 1 : ℤ) := by
      push_cast
      linarith
    have large : ((100 : ℤ) : ℚ) ≤ k := by exact_mod_cast Int.lt_add_one_iff.mp (Int.cast_lt.mp least)
    push_cast at large
    norm_num
    linarith
  · norm_num at beyond ⊢
    linarith

/-- A number of millionths that is as near as half of one, and ends in zero, is what is rounded to. -/
theorem nearestEven_of_le {t : ℤ} (close : |x - t / 10 ^ 5| ≤ 5 / 10 ^ 7) : NearestEven (x * 10 ^ 6) (t * 10) := by
  have scaled : |x * 10 ^ 6 - (t * 10 : ℤ)| = |x - t / 10 ^ 5| * 10 ^ 6 := by
    rw [← abs_of_pos (by norm_num : (0 : ℚ) < 10 ^ 6), ← abs_mul, abs_of_pos (by norm_num : (0 : ℚ) < 10 ^ 6)]
    congr 1
    push_cast
    ring
  refine ⟨?_, fun _ => ⟨t * 5, by ring⟩⟩
  rw [scaled]
  norm_num at close ⊢
  linarith

/-- What is written is the magnitude rounded to six decimals, unless five read back that are further away. -/
theorem rounds_iff (h : SixDecimals x v) : (∃ k : ℤ, NearestEven (x * 10 ^ 6) k ∧ v = k / 10 ^ 6) ↔
    x < 2 ^ 33 ∨ ∀ t : ℤ, ¬ (5 / 10 ^ 7 < |x - t / 10 ^ 5| ∧ |x - t / 10 ^ 5| < 1 / 2 ^ 20) := by
  constructor
  · rintro ⟨k, rounding, rfl⟩
    rcases lt_or_ge x (2 ^ 33) with small | beyond
    · exact Or.inl small
    · refine Or.inr fun t ⟨far, close⟩ => absurd far (not_lt.mpr ?_)
      rw [← h.preferred beyond t close]
      have half := rounding.near
      rw [abs_le] at half ⊢
      norm_num at half ⊢
      constructor <;> linarith
  · intro sound
    rcases h.rounded with six | ⟨beyond, t, rfl, close⟩
    · exact six
    · have near : |x - t / 10 ^ 5| ≤ 5 / 10 ^ 7 := by
        rcases sound with small | apart
        · exact absurd small (not_lt.mpr beyond)
        · exact not_lt.mp fun far => apart t ⟨far, close⟩
      refine ⟨t * 10, nearestEven_of_le near, ?_⟩
      push_cast
      field_simp

end SixDecimals

end Reckoner.Decimal
