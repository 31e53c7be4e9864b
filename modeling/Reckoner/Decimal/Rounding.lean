namespace Reckoner.Decimal

/-- The natural nearest to `num / den`, the even one of two that are equally near. -/
def roundDiv (num den : Nat) : Nat :=
  let floor := num / den
  let rest := 2 * (num % den)
  if rest < den then floor
  else if den < rest then floor + 1
  else floor + floor % 2

/-- How many decimal digits a natural is written with. -/
def digitCount (n : Nat) : Nat :=
  (Nat.toDigits 10 n).length

/-- A power with a whole exponent, as a quotient of naturals. -/
def power (base : Nat) : Int → Nat × Nat
  | .ofNat k => (Nat.pow base k, 1)
  | .negSucc k => (1, Nat.pow base (k + 1))

/-- `num / den` measured in units of `base ^ place`, again as a quotient. -/
def inUnits (base num den : Nat) (place : Int) : Nat × Nat :=
  let (up, down) := power base place
  (num * down, den * up)

/-- The exponent of the leading digit: the greatest `k` with `10 ^ k ≤ num / den`. -/
def leadingPlace (num den : Nat) : Int :=
  let guess : Int := digitCount num - digitCount den
  let (n, d) := inUnits 10 num den guess
  if d ≤ n then guess else guess - 1

/-- The nearest natural is at most half a unit away. -/
theorem roundDiv_bounds {num den : Nat} (h : 0 < den) :
    2 * num ≤ 2 * (roundDiv num den) * den + den ∧ 2 * (roundDiv num den) * den ≤ 2 * num + den := by
  have e := Nat.div_add_mod num den
  have l := Nat.mod_lt num h
  have c : 2 * (num / den) * den = 2 * (den * (num / den)) := by
    rw [Nat.mul_assoc, Nat.mul_comm (num / den)]
  have s : 2 * (num / den + 1) * den = 2 * (den * (num / den)) + 2 * den := by
    rw [Nat.mul_assoc, Nat.add_mul, Nat.mul_comm (num / den)]; omega
  simp only [roundDiv]
  split
  · omega
  · split
    · omega
    · rcases Nat.mod_two_eq_zero_or_one (num / den) with p | p <;> rw [p]
      · rw [Nat.add_zero]; omega
      · omega

end Reckoner.Decimal
