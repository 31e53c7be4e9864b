import Reckoner.Proofs.Decimal.ReadingBack

namespace Reckoner.Decimal

/-- What a decimal denotes. -/
def Numeral.value (d : Numeral) : ℚ :=
  d.digits * 10 ^ d.place

theorem ten_zpow_pos (place : Int) : (0 : ℚ) < 10 ^ place :=
  zpow_pos (by norm_num) place

section Grid

variable {m : Nat} {e : Int}

/-- The interval of a double is as wide above it as below it, unless the double is a power of two. -/
theorem ReadsBack.mirrored {r : ℚ} (hm : 0 < m) (wide : m ≠ 2 ^ 52) (h : ReadsBack m e r) :
    ReadsBack m e (2 * Double.magnitude m e - r) := by
  have unit := two_zpow_pos (e - 2)
  obtain ⟨-, -, most⟩ := intervalOf_bounds (e := e) hm
  have least : ((intervalOf m e).low : ℚ) = 4 * m - 2 := low_of_wide hm fun narrow => wide narrow.1
  have mirror : (2 * Double.magnitude m e - r) / 2 ^ (e - 2) = 8 * m - r / 2 ^ (e - 2) := by
    rw [Double.magnitude, two_zpow_quarter e, sub_div]
    congr 1
    rw [div_eq_iff unit.ne']
    ring
  unfold ReadsBack Interval.Contains at h ⊢
  rw [mirror]
  rw [least, most] at h ⊢
  split
  · rename_i closed
    rw [if_pos closed] at h
    constructor <;> linarith [h.1, h.2]
  · rename_i opened
    rw [if_neg opened] at h
    constructor <;> linarith [h.1, h.2]

/-- The neighbours of a double on a grid: the one below it is so many steps, the one above it one more. -/
structure Neighbours (m : Nat) (e place : Int) (below : Nat) : Prop where
  low : below * (10 : ℚ) ^ place ≤ Double.magnitude m e
  high : Double.magnitude m e < (below + 1 : Nat) * (10 : ℚ) ^ place

namespace Neighbours

variable {place : Int} {below : Nat}

/-- What reads back on a grid lies beyond one of the neighbours, which then reads back too. -/
theorem reads_back (near : Neighbours m e place below) (hm : 0 < m) {c : Nat}
    (h : ReadsBack m e (c * 10 ^ place)) :
    ReadsBack m e (below * 10 ^ place) ∨ ReadsBack m e ((below + 1 : Nat) * 10 ^ place) := by
  have step := (ten_zpow_pos place).le
  rcases Nat.lt_or_ge below c with above | within
  · refine Or.inr (ReadsBack.between (readsBack_self hm) h near.high.le ?_)
    exact mul_le_mul_of_nonneg_right (Nat.cast_le.mpr above) step
  · refine Or.inl (ReadsBack.between h (readsBack_self hm) ?_ near.low)
    exact mul_le_mul_of_nonneg_right (Nat.cast_le.mpr within) step

/-- In steps of the grid a double is not less than the neighbour below it. -/
theorem steps (near : Neighbours m e place below) :
    below ≤ Double.magnitude m e / 10 ^ place ∧ Double.magnitude m e / 10 ^ place < below + 1 := by
  have step := ten_zpow_pos place
  have high := near.high
  push_cast at high
  exact ⟨(le_div_iff₀ step).mpr near.low, (div_lt_iff₀ step).mpr high⟩

theorem below_nearest (near : Neighbours m e place below)
    (nearer : Double.magnitude m e / 10 ^ place - below < 1 / 2 ∨
      Double.magnitude m e / 10 ^ place - below = 1 / 2 ∧ below % 2 = 0) :
    NearestEven (Double.magnitude m e / 10 ^ place) below := by
  have low := near.steps.1
  have distance : |Double.magnitude m e / 10 ^ place - ((below : ℤ) : ℚ)| =
      Double.magnitude m e / 10 ^ place - below := by
    rw [Int.cast_natCast, abs_of_nonneg (by linarith)]
  rcases nearer with less | ⟨tie, even⟩
  · refine NearestEven.of_lt ?_
    rw [distance]
    exact less
  · refine ⟨by rw [distance, tie], fun _ => ?_⟩
    exact_mod_cast Nat.even_iff.mpr even

theorem above_nearest (near : Neighbours m e place below)
    (nearer : 1 / 2 < Double.magnitude m e / 10 ^ place - below ∨
      Double.magnitude m e / 10 ^ place - below = 1 / 2 ∧ below % 2 = 1) :
    NearestEven (Double.magnitude m e / 10 ^ place) (below + 1 : Nat) := by
  have high := near.steps.2
  have distance : |Double.magnitude m e / 10 ^ place - (((below + 1 : Nat) : ℤ) : ℚ)| =
      1 - (Double.magnitude m e / 10 ^ place - below) := by
    rw [Int.cast_natCast, Nat.cast_add, Nat.cast_one, abs_of_nonpos (by linarith)]
    ring
  rcases nearer with less | ⟨tie, odd⟩
  · refine NearestEven.of_lt ?_
    rw [distance]
    linarith
  · refine ⟨by rw [distance, tie]; norm_num, fun _ => ?_⟩
    exact_mod_cast Nat.even_iff.mpr (by omega : (below + 1) % 2 = 0)

/-- If the neighbour above does not read back then it is further away. -/
theorem below_alone (near : Neighbours m e place below) (hm : 0 < m) (wide : m ≠ 2 ^ 52)
    (reads : ReadsBack m e (below * 10 ^ place)) (alone : ¬ ReadsBack m e ((below + 1 : Nat) * 10 ^ place)) :
    Double.magnitude m e / 10 ^ place - below < 1 / 2 := by
  have step := ten_zpow_pos place
  by_contra far
  refine alone (ReadsBack.between (readsBack_self hm) (reads.mirrored hm wide) near.high.le ?_)
  have scaled := mul_le_mul_of_nonneg_right (not_lt.mp far) step.le
  rw [sub_mul, div_mul_cancel₀ _ step.ne'] at scaled
  push_cast
  linarith

theorem above_alone (near : Neighbours m e place below) (hm : 0 < m) (wide : m ≠ 2 ^ 52)
    (reads : ReadsBack m e ((below + 1 : Nat) * 10 ^ place)) (alone : ¬ ReadsBack m e (below * 10 ^ place)) :
    1 / 2 < Double.magnitude m e / 10 ^ place - below := by
  have step := ten_zpow_pos place
  by_contra far
  refine alone (ReadsBack.between (reads.mirrored hm wide) (readsBack_self hm) ?_ near.low)
  have scaled := mul_le_mul_of_nonneg_right (not_lt.mp far) step.le
  rw [sub_mul, div_mul_cancel₀ _ step.ne'] at scaled
  push_cast
  linarith

end Neighbours

/-- The step of a grid in quarters of the last place, as a quotient. -/
def gridStep (e place : Int) : Nat × Nat :=
  ((power 10 place).1 * (power 2 (e - 2)).2, (power 10 place).2 * (power 2 (e - 2)).1)

theorem gridStep_pos (e place : Int) : 0 < (gridStep e place).1 ∧ 0 < (gridStep e place).2 :=
  ⟨Nat.mul_pos (power_pos (by decide) place).1 (power_pos (by decide) (e - 2)).2,
    Nat.mul_pos (power_pos (by decide) place).2 (power_pos (by decide) (e - 2)).1⟩

theorem gridStep_div (e place : Int) :
    ((gridStep e place).1 : ℚ) / (gridStep e place).2 = 10 ^ place / 2 ^ (e - 2) := by
  have ten := power_div 10 place
  have two := power_div 2 (e - 2)
  rw [Nat.cast_ofNat] at ten two
  rw [gridStep, Nat.cast_mul, Nat.cast_mul, ← ten, ← two, div_div_div_eq]

theorem holds_gridStep (m : Nat) (e place : Int) (d : Nat) :
    (intervalOf m e).holds (d * (gridStep e place).1) (gridStep e place).2 = true ↔
      ReadsBack m e (d * 10 ^ place) := by
  rw [Interval.holds_iff _ _ (gridStep_pos e place).2, ReadsBack, Nat.cast_mul, mul_div_assoc, gridStep_div,
    mul_div_assoc]

/-- A double in steps of a grid. -/
theorem middle_div (m : Nat) (e place : Int) :
    ((4 * m * (gridStep e place).2 : Nat) : ℚ) / (gridStep e place).1 = Double.magnitude m e / 10 ^ place := by
  have up : ((gridStep e place).1 : ℚ) ≠ 0 := Nat.cast_ne_zero.mpr (gridStep_pos e place).1.ne'
  have down : ((gridStep e place).2 : ℚ) ≠ 0 := Nat.cast_ne_zero.mpr (gridStep_pos e place).2.ne'
  have ratio := gridStep_div e place
  rw [div_eq_div_iff down (two_zpow_pos _).ne'] at ratio
  rw [Double.magnitude, two_zpow_quarter e, div_eq_div_iff up (ten_zpow_pos _).ne']
  push_cast
  rw [mul_assoc, mul_comm ((gridStep e place).2 : ℚ), ← ratio]
  ring

/-- How far a double lies above its neighbour, as the naturals of a grid see it. -/
theorem left_over (m : Nat) (e place : Int) :
    ((4 * m * (gridStep e place).2 % (gridStep e place).1 : Nat) : ℚ) / (gridStep e place).1 =
      Double.magnitude m e / 10 ^ place - (4 * m * (gridStep e place).2 / (gridStep e place).1 : Nat) := by
  have up : ((gridStep e place).1 : ℚ) ≠ 0 := Nat.cast_ne_zero.mpr (gridStep_pos e place).1.ne'
  have parts : ((4 * m * (gridStep e place).2 : Nat) : ℚ) =
      (gridStep e place).1 * (4 * m * (gridStep e place).2 / (gridStep e place).1 : Nat) +
        (4 * m * (gridStep e place).2 % (gridStep e place).1 : Nat) := by
    exact_mod_cast (Nat.div_add_mod _ _).symm
  rw [← middle_div, parts]
  field_simp
  ring

theorem neighbours_floor (m : Nat) (e place : Int) :
    Neighbours m e place (4 * m * (gridStep e place).2 / (gridStep e place).1) := by
  have step := ten_zpow_pos place
  have scale : (0 : ℚ) < (gridStep e place).1 := Nat.cast_pos.mpr (gridStep_pos e place).1
  have rest := left_over m e place
  have low : (0 : ℚ) ≤ ((4 * m * (gridStep e place).2 % (gridStep e place).1 : Nat) : ℚ) / (gridStep e place).1 :=
    div_nonneg (Nat.cast_nonneg _) scale.le
  have high : ((4 * m * (gridStep e place).2 % (gridStep e place).1 : Nat) : ℚ) / (gridStep e place).1 < 1 := by
    rw [div_lt_iff₀ scale, one_mul]
    exact_mod_cast Nat.mod_lt _ (gridStep_pos e place).1
  rw [rest] at low high
  constructor
  · rw [← le_div_iff₀ step]
    linarith
  · rw [← div_lt_iff₀ step]
    push_cast at high ⊢
    linarith

/-- The neighbour that is taken of two that may read back, the lower one so far below in parts of a step. -/
def nearer (place : Int) (below rest scale : Nat) (down up : Bool) : Option Numeral :=
  match down, up with
  | true, true =>
    if rest < scale - rest || (rest = scale - rest && below % 2 = 0) then some ⟨below, place⟩
    else some ⟨below + 1, place⟩
  | true, false => some ⟨below, place⟩
  | false, true => some ⟨below + 1, place⟩
  | false, false => none

theorem nearer_eq_none {place : Int} {below rest scale : Nat} {down up : Bool}
    (h : nearer place below rest scale down up = none) : down = false ∧ up = false := by
  cases down <;> cases up
  case false.false => exact ⟨rfl, rfl⟩
  case true.true =>
    rw [nearer.eq_def] at h
    dsimp only at h
    split at h <;> cases h
  case true.false | false.true => cases h

/-- What is taken of the grid of a place. -/
def takenOn (m : Nat) (e place : Int) : Option Numeral :=
  let scale := (gridStep e place).1
  let grid := (gridStep e place).2
  let below := 4 * m * grid / scale
  nearer place below (4 * m * grid % scale) scale ((intervalOf m e).holds (below * scale) grid && below != 0)
    ((intervalOf m e).holds ((below + 1) * scale) grid)

theorem ofLength_eq (m : Nat) (e leading : Int) (length : Nat) :
    ofLength m e leading length = takenOn m e (leading - length + 1) := by
  let place : Int := leading - length + 1
  let scale : Nat := (gridStep e place).1
  let grid : Nat := (gridStep e place).2
  let below : Nat := 4 * m * grid / scale
  have less : 4 * m * grid % scale < scale := Nat.mod_lt _ (gridStep_pos e place).1
  have division : below * scale + 4 * m * grid % scale = 4 * m * grid := by
    rw [Nat.mul_comm]
    exact Nat.div_add_mod _ _
  have down : 4 * m * grid % scale = 4 * m * grid - below * scale := by omega
  have up : scale - (4 * m * grid - below * scale) = (below + 1) * scale - 4 * m * grid := by
    rw [Nat.add_mul, Nat.one_mul]
    omega
  have taken : takenOn m e place = nearer place below (4 * m * grid % scale) scale
      ((intervalOf m e).holds (below * scale) grid && below != 0)
      ((intervalOf m e).holds ((below + 1) * scale) grid) := rfl
  rw [taken, nearer.eq_def, down, up]
  rfl

/-- A decimal of a grid that reads back, and no decimal of that grid is nearer. -/
structure Taken (m : Nat) (e place : Int) (d : Numeral) : Prop where
  place_eq : d.place = place
  some_digit : d.digits ≠ 0
  reads : ReadsBack m e d.value
  within : (d.digits : ℚ) ≤ Double.magnitude m e / 10 ^ place + 1
  nearest : m ≠ 2 ^ 52 → NearestEven (Double.magnitude m e / 10 ^ place) d.digits

section TakenOn

variable {place : Int} (coarse : (10 : ℚ) ^ place ≤ Double.magnitude m e)

include coarse

/-- On a grid that is not coarser than the double its neighbour below is no zero. -/
theorem Neighbours.some_below {below : Nat} (near : Neighbours m e place below) : below ≠ 0 := by
  intro none_below
  have high := near.high
  rw [none_below, Nat.zero_add, Nat.cast_one, one_mul] at high
  exact absurd coarse (not_le.mpr high)

theorem Neighbours.taken_below {below : Nat} (near : Neighbours m e place below)
    (reads : ReadsBack m e (below * 10 ^ place))
    (small : m ≠ 2 ^ 52 → Double.magnitude m e / 10 ^ place - below < 1 / 2 ∨
      Double.magnitude m e / 10 ^ place - below = 1 / 2 ∧ below % 2 = 0) : Taken m e place ⟨below, place⟩ := by
  have low := near.steps.1
  refine ⟨rfl, near.some_below coarse, reads, ?_, fun wide => near.below_nearest (small wide)⟩
  show (below : ℚ) ≤ _
  linarith

omit coarse in
theorem Neighbours.taken_above {below : Nat} (near : Neighbours m e place below)
    (reads : ReadsBack m e ((below + 1 : Nat) * 10 ^ place))
    (large : m ≠ 2 ^ 52 → 1 / 2 < Double.magnitude m e / 10 ^ place - below ∨
      Double.magnitude m e / 10 ^ place - below = 1 / 2 ∧ below % 2 = 1) : Taken m e place ⟨below + 1, place⟩ := by
  have low := near.steps.1
  refine ⟨rfl, Nat.succ_ne_zero _, reads, ?_, fun wide => near.above_nearest (large wide)⟩
  push_cast
  linarith

/-- Of two neighbours that read back the nearer one is taken, the even one of two. -/
theorem Neighbours.taken_nearer {below left scale : Nat} (near : Neighbours m e place below) (less : left < scale)
    (rest : (left : ℚ) / scale = Double.magnitude m e / 10 ^ place - below)
    (down : ReadsBack m e (below * 10 ^ place)) (up : ReadsBack m e ((below + 1 : Nat) * 10 ^ place))
    {d : Numeral} (h : nearer place below left scale true true = some d) : Taken m e place d := by
  have scale_pos : (0 : ℚ) < scale := Nat.cast_pos.mpr (Nat.zero_lt_of_lt less)
  have parts : (Double.magnitude m e / 10 ^ place - below) * scale = left := by
    rw [← rest, div_mul_cancel₀ _ scale_pos.ne']
  rw [nearer.eq_def] at h
  dsimp only at h
  split at h
  · rename_i lower
    obtain rfl := Option.some.inj h
    refine near.taken_below coarse down fun _ => ?_
    rw [Bool.or_eq_true, Bool.and_eq_true, decide_eq_true_iff, decide_eq_true_iff, decide_eq_true_iff] at lower
    rw [← rest, div_lt_iff₀ scale_pos, div_eq_iff scale_pos.ne']
    rcases lower with low | ⟨tie, even⟩
    · have twice : (left : ℚ) + left < scale := by exact_mod_cast (by omega : left + left < scale)
      exact Or.inl (by linarith)
    · have twice : (left : ℚ) + left = scale := by exact_mod_cast (by omega : left + left = scale)
      exact Or.inr ⟨by linarith, even⟩
  · rename_i upper
    obtain rfl := Option.some.inj h
    refine near.taken_above up fun _ => ?_
    rw [Bool.or_eq_true, Bool.and_eq_true, decide_eq_true_iff, decide_eq_true_iff, decide_eq_true_iff] at upper
    rw [← rest, lt_div_iff₀ scale_pos, div_eq_iff scale_pos.ne']
    by_cases tie : left + left = scale
    · have twice : (left : ℚ) + left = scale := by exact_mod_cast tie
      exact Or.inr ⟨by linarith, by omega⟩
    · have twice : (scale : ℚ) < left + left := by exact_mod_cast (by omega : scale < left + left)
      exact Or.inl (by linarith)

variable (hm : 0 < m)

include hm

theorem taken_of_some {d : Numeral} (h : takenOn m e place = some d) : Taken m e place d := by
  have near := neighbours_floor m e place
  have first := near.some_below coarse
  have rest := left_over m e place
  have less := Nat.mod_lt (4 * m * (gridStep e place).2) (gridStep_pos e place).1
  have down_iff := holds_gridStep m e place (4 * m * (gridStep e place).2 / (gridStep e place).1)
  have up_iff := holds_gridStep m e place (4 * m * (gridStep e place).2 / (gridStep e place).1 + 1)
  unfold takenOn at h
  dsimp only at h
  generalize 4 * m * (gridStep e place).2 / (gridStep e place).1 = below at *
  generalize 4 * m * (gridStep e place).2 % (gridStep e place).1 = left at *
  rw [bne_iff_ne.mpr first, Bool.and_true] at h
  generalize (intervalOf m e).holds (below * (gridStep e place).1) (gridStep e place).2 = down at *
  generalize (intervalOf m e).holds ((below + 1) * (gridStep e place).1) (gridStep e place).2 = up at *
  cases down <;> cases up
  case false.false => cases h
  case false.true =>
    obtain rfl := Option.some.inj h
    have alone : ¬ ReadsBack m e (below * 10 ^ place) := by simpa using down_iff
    have reads := up_iff.mp rfl
    exact near.taken_above reads fun wide => Or.inl (near.above_alone hm wide reads alone)
  case true.false =>
    obtain rfl := Option.some.inj h
    have alone : ¬ ReadsBack m e ((below + 1 : Nat) * 10 ^ place) := by simpa using up_iff
    have reads := down_iff.mp rfl
    exact near.taken_below coarse reads fun wide => Or.inl (near.below_alone hm wide reads alone)
  case true.true => exact near.taken_nearer coarse less rest (down_iff.mp rfl) (up_iff.mp rfl) h

theorem not_readsBack_of_none (h : takenOn m e place = none) (c : Nat) : ¬ ReadsBack m e (c * 10 ^ place) := by
  intro reads
  have near := neighbours_floor m e place
  have first := near.some_below coarse
  obtain ⟨down, up⟩ := nearer_eq_none h
  rw [bne_iff_ne.mpr first, Bool.and_true] at down
  rcases near.reads_back hm reads with low | high
  · rw [(holds_gridStep ..).mpr low] at down
    cases down
  · rw [(holds_gridStep ..).mpr high] at up
    cases up

end TakenOn

end Grid

/-- A decimal loses zeros, not value. -/
theorem dropZeros_spec {fuel : Nat} {d : Numeral} (some_digit : d.digits ≠ 0) (few : d.digits ≤ 10 ^ fuel) :
    (dropZeros fuel d).value = d.value ∧ d.place ≤ (dropZeros fuel d).place ∧ (dropZeros fuel d).digits % 10 ≠ 0 := by
  induction fuel generalizing d with
  | zero =>
    have one : d.digits = 1 := by omega
    exact ⟨rfl, Int.le_refl _, by rw [dropZeros, one]; decide⟩
  | succ fuel ih =>
    rw [dropZeros, if_neg some_digit]
    split
    · rename_i zero
      have tenth : d.digits = 10 * (d.digits / 10) := by omega
      obtain ⟨value, place, last⟩ := ih (d := ⟨d.digits / 10, d.place + 1⟩)
        (show d.digits / 10 ≠ 0 by omega) (show d.digits / 10 ≤ 10 ^ fuel by rw [pow_succ] at few; omega)
      refine ⟨?_, (by omega : d.place ≤ d.place + 1).trans place, last⟩
      have cast : (d.digits : ℚ) = 10 * (d.digits / 10 : Nat) := by exact_mod_cast tenth
      rw [value, Numeral.value, Numeral.value, cast, zpow_add_one₀ (by norm_num)]
      ring
    · rename_i last
      exact ⟨rfl, Int.le_refl _, last⟩

/-- What is found first is found where nothing was before. -/
theorem findSome?_range {α : Type} {f : Nat → Option α} {k : Nat} {b : α}
    (h : (List.range k).findSome? f = some b) : ∃ n < k, f n = some b ∧ ∀ j < n, f j = none := by
  induction k with
  | zero => cases h
  | succ k ih =>
    rw [List.range_succ, List.findSome?_append] at h
    cases before : (List.range k).findSome? f with
    | some b' =>
      rw [before, Option.some_or] at h
      obtain ⟨n, less, found⟩ := ih (before.trans h)
      exact ⟨n, Nat.lt_succ_of_lt less, found⟩
    | none =>
      rw [before, Option.none_or, List.findSome?_singleton] at h
      exact ⟨k, Nat.lt_succ_self k, h, fun j less => List.findSome?_eq_none_iff.mp before j (List.mem_range.mpr less)⟩

/-- The decimal that a double is written as, if one reads back on the grid of the least place. -/
structure Written (m : Nat) (e least : Int) (d : Numeral) : Prop where
  reads : ReadsBack m e d.value
  last : d.digits % 10 ≠ 0
  found : ∃ n : Nat, ∃ place, least ≤ place ∧ place ≤ d.place ∧ d.value = n * 10 ^ place ∧
    (m ≠ 2 ^ 52 → NearestEven (Double.magnitude m e / 10 ^ place) n)

theorem Taken.written {m : Nat} {e place least : Int} {d : Numeral} (h : Taken m e place d) (range : least ≤ place)
    (few : d.digits ≤ 10 ^ 17) : Written m e least (dropZeros 17 d) := by
  obtain ⟨value, later, last⟩ := dropZeros_spec h.some_digit few
  obtain rfl := h.place_eq
  exact ⟨value ▸ h.reads, last, d.digits, d.place, range, later, value, h.nearest⟩

/-- The digits of a double that are written are no finer than any that read back. -/
theorem shortest_spec {m : Nat} {e : Int} (hm : 0 < m) {least : Int}
    (high : least ≤ leadingPlace (Double.quotient m e).1 (Double.quotient m e).2)
    (low : leadingPlace (Double.quotient m e).1 (Double.quotient m e).2 - 16 ≤ least)
    {c : Nat} (reads : ReadsBack m e (c * 10 ^ least)) : Written m e least (shortest m e) := by
  have num_pos : 0 < (Double.quotient m e).1 := Nat.mul_pos hm (power_pos (by decide) e).1
  have den_pos : 0 < (Double.quotient m e).2 := (power_pos (by decide) e).2
  obtain ⟨at_least, less⟩ := leadingPlace_spec num_pos den_pos
  rw [Double.quotient_div] at at_least less
  generalize leading_eq : leadingPlace (Double.quotient m e).1 (Double.quotient m e).2 = leading at *
  have grid (n : Nat) : ofLength m e leading (n + 1) = takenOn m e (leading - n) := by
    have place : leading - ((n + 1 : Nat) : Int) + 1 = leading - n := by omega
    rw [ofLength_eq, place]
  have coarse (n : Nat) : (10 : ℚ) ^ (leading - n) ≤ Double.magnitude m e :=
    (zpow_le_zpow_right₀ (by norm_num) (by omega)).trans at_least
  obtain ⟨n, place⟩ : ∃ n : Nat, least = leading - n := ⟨(leading - least).toNat, by omega⟩
  cases first : (List.range 17).findSome? fun n => ofLength m e leading (n + 1) with
  | none =>
    have missed := List.findSome?_eq_none_iff.mp first n (List.mem_range.mpr (by omega))
    rw [grid] at missed
    exact absurd (place ▸ reads) (not_readsBack_of_none (coarse n) hm missed c)
  | some d =>
    have written : shortest m e = dropZeros 17 d := by
      subst leading_eq
      rw [shortest, if_neg hm.ne']
      dsimp only
      rw [first]
    rw [written]
    obtain ⟨k, few, found, earlier⟩ := findSome?_range first
    have order : k ≤ n := by
      by_contra later
      have missed := earlier n (by omega)
      rw [grid] at missed
      exact absurd (place ▸ reads) (not_readsBack_of_none (coarse n) hm missed c)
    rw [grid] at found
    have taken := taken_of_some (coarse k) hm found
    refine taken.written (by omega) ?_
    have steps : Double.magnitude m e / 10 ^ (leading - k) < 10 ^ 17 := by
      rw [div_lt_iff₀ (ten_zpow_pos _)]
      refine less.trans_le ?_
      rw [← zpow_natCast, ← zpow_add₀ (by norm_num)]
      exact zpow_le_zpow_right₀ (by norm_num) (by push_cast; omega)
    have digits : (d.digits : ℚ) < (10 ^ 17 + 1 : Nat) := by
      push_cast
      linarith [taken.within]
    exact Nat.lt_succ_iff.mp (Nat.cast_lt.mp digits)

end Reckoner.Decimal
