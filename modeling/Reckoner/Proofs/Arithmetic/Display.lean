import Reckoner.Decimal.Style
import Reckoner.Proofs.Arithmetic.Conversions
import Reckoner.Proofs.Decimal.Magnitudes
import Reckoner.Text.Search

namespace Reckoner.Arithmetic

open Reckoner.Decimal Reckoner.Text

/-- A magnitude with four decimals and an exponent of at least two digits. -/
def scientificText (negative : Bool) (q : Nat × Nat) : String :=
  (if negative then "-" else "") ++ Style.exponent.write false (significantDigits - 1) q.1 q.2

def showScientific (negative : Bool) (q : Nat × Nat) : Except Breakage String :=
  match splitAtAll (· == 'e') (scientificText negative q).toList with
  | [mantissa, exponent] => do
    let e ← readWhole exponent
    let digits ← writeWhole e
    return String.ofList mantissa ++ "e" ++ if e < 0 then digits else "+" ++ digits
  | _ => .error (.noExponent (scientificText negative q).toList)

theorem splitAtAll_of_none {p : Char → Bool} {s : List Char} (h : ∀ c ∈ s, p c = false) :
    splitAtAll p s = [s] := by
  induction s with
  | nil => rfl
  | cons c s ih =>
    rw [splitAtAll, ih fun d hd => h d (List.mem_cons_of_mem c hd)]
    simp [h c (List.mem_cons_self ..)]

theorem splitAtAll_once {p : Char → Bool} {x y : List Char} {c : Char} (hx : ∀ d ∈ x, p d = false)
    (hc : p c = true) (hy : ∀ d ∈ y, p d = false) : splitAtAll p (x ++ c :: y) = [x, y] := by
  induction x with
  | nil => simp [splitAtAll, splitAtAll_of_none hy, hc]
  | cons d x ih =>
    rw [List.cons_append, splitAtAll, ih fun b hb => hx b (List.mem_cons_of_mem d hb)]
    simp [hx d (List.mem_cons_self ..)]

/-- The digits of a written exponent, with zeros in front up to a width. -/
def exponentDigits (width : Nat) (e : Int) : List Char :=
  List.replicate (width - digitCount e.natAbs) '0' ++ Nat.toDigits 10 e.natAbs

theorem toList_exponentText (width : Nat) (e : Int) :
    (exponentText width e).toList = 'e' :: (if e < 0 then '-' else '+') :: exponentDigits width e := by
  have length : e.natAbs.repr.length = digitCount e.natAbs := by
    rw [← String.length_toList, Nat.toList_repr, digitCount]
  have digits : (padded width e.natAbs).toList = exponentDigits width e := by
    simp only [padded, zeros, String.toList_append, String.toList_ofList, Nat.toString_eq_repr, length,
      Nat.toList_repr, exponentDigits]
  rw [exponentText, String.toList_append, digits]
  split <;> rfl

theorem isDigit_exponentDigits {width : Nat} {e : Int} : ∀ c ∈ exponentDigits width e, isDigit c = true := by
  intro c hc
  rcases List.mem_append.mp hc with zero | digit
  · obtain rfl := List.eq_of_mem_replicate zero
    decide
  · exact isDigit_of_isAsciiDigit (isAsciiDigit_of_mem digit)

theorem numberOf_zeros (k : Nat) (s : List Char) : numberOf (List.replicate k '0' ++ s) = numberOf s := by
  induction k with
  | zero => rfl
  | succ k ih => exact ih

/-- A written exponent is read as it was. -/
theorem readWhole_exponent {e : Int} (small : e.natAbs < 10 ^ 3) :
    readWhole ((if e < 0 then '-' else '+') :: exponentDigits 2 e) = .ok e := by
  have sign : takeSign ((if e < 0 then '-' else '+') :: exponentDigits 2 e) =
      (decide (e < 0), exponentDigits 2 e) := by
    by_cases negative : e < 0 <;> simp [negative, takeSign]
  have some_digit : exponentDigits 2 e ≠ [] := by simp [exponentDigits, Nat.toDigits_ne_nil]
  have few : (exponentDigits 2 e).length ≤ conversionLimit := by
    have limit : conversionLimit = 4300 := rfl
    have digits : (Nat.toDigits 10 e.natAbs).length = digitCount e.natAbs := rfl
    have three := (digitCount_le_iff (k := 3) (by decide)).mpr small
    rw [exponentDigits, List.length_append, List.length_replicate, digits]
    omega
  have value : numberOf (exponentDigits 2 e) = e.natAbs := by
    rw [exponentDigits, numberOf_zeros, numberOf_toDigits]
  rw [readWhole_of_takeSign sign some_digit isDigit_exponentDigits few, value]
  by_cases negative : e < 0 <;> simp only [negative, decide_true, decide_false, if_true, Bool.false_eq_true,
    if_false] <;> congr 1 <;> omega

/-- An exponent without zeros in front is a whole number with its sign. -/
theorem exponentText_one (e : Int) :
    exponentText 1 e = "e" ++ if e < 0 then toString e else "+" ++ toString e := by
  have one_digit : 1 - digitCount e.natAbs = 0 := by
    have some_digit := digitCount_pos e.natAbs
    omega
  rw [← String.toList_inj, toList_exponentText, exponentDigits, one_digit, String.toList_append]
  by_cases negative : e < 0
  · rw [if_pos negative, if_pos negative, toList_toString, if_pos negative]
    rfl
  · rw [if_neg negative, if_neg negative, String.toList_append, toList_toString, if_neg negative]
    rfl

/-- Behind the first of several digits the point stands before all the others. -/
theorem pointBefore_eq_pointed {digits : String} {k : Nat} (h : digits.toList.length = k + 2) :
    pointBefore false (k + 1) digits = pointed digits := by
  obtain ⟨c, rest, split⟩ := List.exists_cons_of_length_eq_add_one h
  have some_rest : rest ≠ [] := by
    rintro rfl
    simp [split] at h
  obtain ⟨d, rest, rfl⟩ := List.exists_cons_of_ne_nil some_rest
  have one : digits.length - (k + 1) = 1 := by
    rw [← String.length_toList]
    omega
  simp [pointBefore, pointed, one, split]

theorem no_exponent_pointed (n : Nat) : ∀ c ∈ (pointed (toString n)).toList, c ≠ 'e' := by
  have digit : ∀ c ∈ Nat.toDigits 10 n, c ≠ 'e' := by
    intro c hc
    have common := isAsciiDigit_of_mem hc
    rintro rfl
    revert common
    decide
  intro c hc
  rw [pointed, Nat.toString_eq_repr, Nat.toList_repr] at hc
  split at hc
  · simp at hc
  · rename_i d one
    simp only [String.toList_ofList] at hc
    exact digit c (one ▸ hc)
  · rename_i d rest _ split
    rw [String.toList_ofList, List.mem_cons, List.mem_cons] at hc
    rw [split] at digit
    rcases hc with rfl | rfl | later
    · exact digit c (List.mem_cons_self ..)
    · decide
    · exact digit c (List.mem_cons_of_mem d later)

theorem split_scientific (negative : Bool) (n : Nat) (e : Int) :
    splitAtAll (· == 'e')
        ((if negative then "-" else "") ++ pointed (toString n) ++ exponentText 2 e).toList =
      [((if negative then "-" else "") ++ pointed (toString n)).toList,
        (if e < 0 then '-' else '+') :: exponentDigits 2 e] := by
  rw [String.toList_append, toList_exponentText]
  refine splitAtAll_once ?_ rfl ?_
  · intro c hc
    have plain : c ≠ 'e' := by
      rcases List.mem_append.mp (String.toList_append ▸ hc) with sign | digit
      · cases negative with
        | true =>
          obtain rfl : c = '-' := by simpa using sign
          decide
        | false => simp at sign
      · exact no_exponent_pointed n c digit
    simpa using plain
  · intro c hc
    have plain : c ≠ 'e' := by
      rcases List.mem_cons.mp hc with rfl | digit
      · split <;> decide
      · have common := isDigit_exponentDigits c digit
        rintro rfl
        revert common
        decide
    simpa using plain

section Scientific

variable {num den : Nat} (hn : 0 < num) (hd : 0 < den)

include hn hd

/-- Five digits are written with four of them behind the point. -/
theorem scientificText_eq (negative : Bool) :
    scientificText negative (num, den) =
      (if negative then "-" else "") ++ pointed (toString (significant significantDigits num den).1) ++
        exponentText 2 (significant significantDigits num den).2 := by
  have five : (toString (significant significantDigits num den).1).toList.length = 3 + 2 := by
    rw [Nat.toString_eq_repr, Nat.toList_repr]
    exact (significant_spec hn hd 4).1
  have split : leadingDigits significantDigits num den =
      (toString (significant significantDigits num den).1, (significant significantDigits num den).2) :=
    if_neg (Nat.ne_of_gt hn)
  have written : Style.exponent.write false 4 num den =
      pointBefore false 4 (leadingDigits significantDigits num den).1 ++
        exponentText 2 (leadingDigits significantDigits num den).2 := rfl
  show (if negative then "-" else "") ++ Style.exponent.write false 4 num den = _
  rw [written, split, pointBefore_eq_pointed five, ← String.append_assoc]

theorem natAbs_leading_lt (num_small : num < 10 ^ 400) (den_small : den < 10 ^ 400) :
    (significant significantDigits num den).2.natAbs < 10 ^ 3 := by
  obtain ⟨-, low, high⟩ := significant_spec hn hd 4
  obtain ⟨least, most⟩ := leadingPlace_bounds (k := 400) (by decide) num_small den_small
  show (significant (4 + 1) num den).2.natAbs < 10 ^ 3
  omega

/-- Cut and put together again, the written form is that with a plain exponent. -/
theorem showScientific_eq (negative : Bool) (num_small : num < 10 ^ 400) (den_small : den < 10 ^ 400) :
    showScientific negative (num, den) = .ok (scientific significantDigits negative num den) := by
  have small := natAbs_leading_lt hn hd num_small den_small
  have room : (significant significantDigits num den).2.natAbs < 10 ^ conversionLimit :=
    small.trans_le (pow_le_pow_right₀ (by decide) (by decide))
  simp only [showScientific, scientificText_eq hn hd, split_scientific, readWhole_exponent small,
    writeWhole_of_lt room, bind, Except.bind, pure, Except.pure]
  rw [String.ofList_toList, String.append_assoc, ← exponentText_one]
  rfl

end Scientific

/-- A double as it is shown. What is rounded to six decimals has to be finite still. -/
def showNumber : Double → Except Breakage String
  | .finite negative m e =>
    let q := Double.quotient m e
    if m ≠ 0 && (lessThan q smallest || lessThan greatest q) then showScientific negative q
    else
      let rounded := roundedDecimals negative q
      if !rounded.isFinite then .error .overflow
      else
        match rounded.toInt? with
        | some n => writeWhole n
        | none => .ok rounded.text
  | x => .error (.notFinite x)

example : (showNumber (.ofFloat (-0.00005))).toOption = some "-5.0000e-5" := by decide +kernel

theorem two_pow_lt_ten_pow {k l : Nat} (h : k < 3 * l) : 2 ^ k < 10 ^ l :=
  calc 2 ^ k < 2 ^ (3 * l) := pow_lt_pow_right₀ (by decide) h
    _ = 8 ^ l := pow_mul 2 3 l
    _ ≤ 10 ^ l := Nat.pow_le_pow_left (by decide) l

theorem writeWhole_toInt? {x : Double} (h : x.WellFormed) {n : Int} (whole : x.toInt? = some n) :
    writeWhole n = .ok (toString n) :=
  writeWhole_of_lt ((Double.natAbs_toInt?_lt h whole).trans (two_pow_lt_ten_pow (by decide)))

section Finite

variable {negative : Bool} {m : Nat} {e : Int} (h : (Double.finite negative m e).WellFormed)

include h

/-- What is shown without an exponent is at most ten billions, and so is its rounding. -/
theorem isFinite_roundedDecimals (plain : m = 0 ∨ lessThan greatest (Double.quotient m e) = false) :
    (roundedDecimals negative (Double.quotient m e)).isFinite = true := by
  obtain ⟨-, den_pos, -⟩ := Double.quotient_lt h
  have within : (Double.quotient m e).1 ≤ 10 ^ 10 * (Double.quotient m e).2 := by
    rcases plain with rfl | few
    · simp [Double.quotient]
    · simpa [lessThan, greatest] using few
  have rounded : roundDiv ((Double.quotient m e).1 * Nat.pow 10 decimals) (Double.quotient m e).2 ≤ 10 ^ 16 := by
    refine roundDiv_le den_pos ?_
    have six : Nat.pow 10 decimals = 10 ^ 6 := rfl
    rw [six]
    omega
  exact Double.isFinite_nearest negative (by decide) (rounded.trans_lt (by decide))

theorem showNumber_finite : showNumber (.finite negative m e) = .ok (displayFinite negative m e) := by
  obtain ⟨num_lt, den_pos, den_le⟩ := Double.quotient_lt h
  simp only [showNumber, displayFinite]
  split
  · rename_i apart
    have some_bits : m ≠ 0 := by
      rintro rfl
      simp at apart
    have num_pos : 0 < (Double.quotient m e).1 :=
      Nat.mul_pos (Nat.pos_of_ne_zero some_bits) (power_pos (by decide) e).1
    exact showScientific_eq num_pos den_pos negative (num_lt.trans (two_pow_lt_ten_pow (by decide)))
      (den_le.trans_lt (two_pow_lt_ten_pow (by decide)))
  · rename_i plain
    have few : m = 0 ∨ lessThan greatest (Double.quotient m e) = false := by
      simp only [Bool.and_eq_true, Bool.or_eq_true, decide_eq_true_eq, not_and_or, not_or, not_not,
        Bool.not_eq_true] at plain
      exact plain.imp_right And.right
    rw [isFinite_roundedDecimals h few, Bool.not_true, if_neg Bool.false_ne_true]
    have rounded : (roundedDecimals negative (Double.quotient m e)).WellFormed :=
      Double.wellFormed_nearest negative _ (by decide)
    cases whole : (roundedDecimals negative (Double.quotient m e)).toInt? with
    | some n => exact writeWhole_toInt? rounded whole
    | none => rfl

end Finite

/-- A zero is shown without its sign. -/
theorem displayFinite_zero (negative : Bool) (e : Int) : displayFinite negative 0 e = "0" := by
  have nothing : (Double.quotient 0 e).1 = 0 := Nat.zero_mul _
  have rounded : roundedDecimals negative (Double.quotient 0 e) = .finite negative 0 Double.leastExponent := by
    simp [roundedDecimals, nothing, roundDiv, Double.nearest]
  have whole : (Double.finite negative 0 Double.leastExponent).toInt? = some 0 := by
    simp [Double.toInt?, Double.quotient]
  simp only [displayFinite, rounded, whole, ne_eq, not_true_eq_false, decide_false, Bool.false_and,
    Bool.false_eq_true, if_false]
  rfl

theorem showNumber_unsignZero {negative : Bool} {m : Nat} {e : Int}
    (h : (Double.finite negative m e).WellFormed) :
    showNumber (Double.finite negative m e).unsignZero = .ok (displayFinite negative m e) := by
  have unsigned : (Double.finite (negative && m != 0) m e).WellFormed := h
  rw [Double.unsignZero, showNumber_finite unsigned]
  by_cases zero : m = 0
  · subst zero
    rw [displayFinite_zero, displayFinite_zero]
  · have kept : (negative && m != 0) = negative := by simp [zero]
    rw [kept]

theorem positional_ne_empty (digits : String) (place : Int) : positional digits place ≠ "" := by
  intro nothing
  have chars := congrArg String.toList nothing
  cases place with
  | ofNat k => simp [positional] at chars
  | negSucc k =>
    simp only [positional] at chars
    split at chars <;> simp at chars

theorem text_ne_empty (x : Double) : x.text ≠ "" := by
  have exponent (width : Nat) (e : Int) : exponentText width e ≠ "" := by
    unfold exponentText
    split <;> simp
  have written (layout : Layout) (d : Numeral) : layout.write d ≠ "" := by
    unfold Layout.write
    dsimp only
    split
    · exact positional_ne_empty _ _
    · simp [exponent]
  cases x with
  | nan => decide
  | infinite negative => cases negative <;> decide
  | finite negative m e => simp [Double.text, Double.textWith, written]

theorem writeWhole_ne_empty {n : Int} {s : String} (written : writeWhole n = .ok s) : s ≠ "" := by
  unfold writeWhole at written
  split at written
  · cases written
  · obtain rfl := Except.ok.inj written
    intro nothing
    have digits := writes_toString n
    rw [nothing] at digits
    exact digits.ne_nil rfl

theorem showScientific_ne_empty {negative : Bool} {q : Nat × Nat} {s : String}
    (shown : showScientific negative q = .ok s) : s ≠ "" := by
  unfold showScientific at shown
  split at shown
  · rename_i mantissa exponent _
    cases read : readWhole exponent with
    | error f => simp [read, bind, Except.bind] at shown
    | ok e =>
      cases written : writeWhole e with
      | error f => simp [read, written, bind, Except.bind] at shown
      | ok digits =>
        simp only [read, written, bind, Except.bind, pure, Except.pure, Except.ok.injEq] at shown
        subst shown
        simp
  · cases shown

theorem showNumber_ne_empty {x : Double} {s : String} (shown : showNumber x = .ok s) : s ≠ "" := by
  cases x with
  | finite negative m e =>
    simp only [showNumber] at shown
    split at shown
    · exact showScientific_ne_empty shown
    · split at shown
      · cases shown
      · split at shown
        · exact writeWhole_ne_empty shown
        · obtain rfl := Except.ok.inj shown
          exact text_ne_empty _
  | nan => cases shown
  | infinite negative => cases shown

end Reckoner.Arithmetic
