import Reckoner.Decimal.Double

namespace Reckoner.Decimal

/-- A decimal `digits · 10 ^ place`. -/
structure Numeral where
  digits : Nat
  place : Int
  deriving DecidableEq, Repr

/-- The reals that round to a double, all three as multiples of a quarter of its last place. -/
structure Interval where
  low : Nat
  middle : Nat
  high : Nat
  closed : Bool

def intervalOf (m : Nat) (q : Int) : Interval :=
  let narrow := m = Nat.pow 2 52 && Double.leastExponent < q
  ⟨if narrow then 4 * m - 1 else 4 * m - 2, 4 * m, 4 * m + 2, m % 2 == 0⟩

/-- Does the quotient `num / den` lie in the interval? -/
def Interval.holds (i : Interval) (num den : Nat) : Bool :=
  if i.closed then i.low * den ≤ num && num ≤ i.high * den
  else i.low * den < num && num < i.high * den

/-- The decimal of the given length that is nearest to the double among those that read back. Only the two neighbours
of the double on the grid of that length can. -/
def ofLength (m : Nat) (q : Int) (leading : Int) (length : Nat) : Option Numeral :=
  let i := intervalOf m q
  let place := leading - length + 1
  let quarter := power 2 (q - 2)
  let step := power 10 place
  -- A step of the grid is scale / grid quarters of the last place.
  let scale := step.1 * quarter.2
  let grid := step.2 * quarter.1
  let below := i.middle * grid / scale
  let above := below + 1
  let down := i.middle * grid - below * scale
  let up := above * scale - i.middle * grid
  let holds (d : Nat) := i.holds (d * scale) grid
  match holds below && below != 0, holds above with
  | true, true =>
    if down < up || (down = up && below % 2 = 0) then some ⟨below, place⟩ else some ⟨above, place⟩
  | true, false => some ⟨below, place⟩
  | false, true => some ⟨above, place⟩
  | false, false => none

/-- A decimal without zeros at its end; zero has the place 0. -/
def dropZeros : Nat → Numeral → Numeral
  | 0, d => d
  | fuel + 1, d =>
    if d.digits = 0 then ⟨0, 0⟩
    else if d.digits % 10 = 0 then dropZeros fuel ⟨d.digits / 10, d.place + 1⟩
    else d

/-- The shortest decimal that reads back as m · 2 ^ q. Seventeen digits always do. -/
def shortest (m : Nat) (q : Int) : Numeral :=
  if m = 0 then ⟨0, 0⟩
  else
    let (num, den) := Double.quotient m q
    let leading := leadingPlace num den
    match (List.range 17).findSome? fun n => ofLength m q leading (n + 1) with
    | some d => dropZeros 17 d
    | none => ⟨0, 0⟩

end Reckoner.Decimal
