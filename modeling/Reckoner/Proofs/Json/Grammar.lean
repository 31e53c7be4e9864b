import Reckoner.Proofs.Arithmetic.Conversions
import Reckoner.Proofs.Json.Scalars
import Reckoner.Proofs.Outcomes

namespace Reckoner.Json

open Reckoner.Decimal Reckoner.Text

/-- White space between tokens. -/
def Gap (w : List Char) : Prop :=
  ∀ c ∈ w, isGap c = true

/-- Characters between quotes, with the code units that they stand for. -/
inductive Units : List Char → List Nat → Prop where
  | nil : Units [] []
  | plain {c : Char} {x : List Char} {units : List Nat} (unquoted : c ≠ '"') (unescaped : c ≠ '\\')
      (printable : 32 ≤ c.toNat) (more : Units x units) : Units (c :: x) (c.toNat :: units)
  | escape {letter c : Char} {x : List Char} {units : List Nat} (named : plainEscape? letter = some c)
      (more : Units x units) : Units ('\\' :: letter :: x) (c.toNat :: units)
  | code {a b c d : Char} {i j k l : Nat} {x : List Char} {units : List Nat} (ha : hexValue? a = some i)
      (hb : hexValue? b = some j) (hc : hexValue? c = some k) (hd : hexValue? d = some l) (more : Units x units) :
      Units ('\\' :: 'u' :: a :: b :: c :: d :: x) ((((i * 16 + j) * 16 + k) * 16 + l) :: units)

/-- A text behind its opening quote, the closing one included. Its code units are those of characters. -/
def Quoted (x : List Char) (s : String) : Prop :=
  ∃ inner units, Units inner units ∧ x = inner ++ ['"'] ∧ joinPairs units = s.toList.map Char.toNat

theorem readUnits_of_units (start rest : List Char) {x : List Char} {units : List Nat} (h : Units x units) :
    readUnits start (x ++ '"' :: rest) = .ok (units, rest) := by
  induction h with
  | nil => rw [List.nil_append, readUnits]
  | plain unquoted unescaped printable _ ih =>
    rw [List.cons_append, readUnits_plain start unquoted unescaped printable, ih]
    rfl
  | escape named _ ih =>
    rw [List.cons_append, List.cons_append, readUnits_plainEscape start named, ih]
    rfl
  | @code a b c d i j k l x units ha hb hc hd _ ih =>
    obtain ⟨e, more, split⟩ : ∃ e more, x ++ '"' :: rest = e :: more :=
      List.exists_cons_of_ne_nil (by simp)
    rw [split] at ih
    simp only [List.cons_append, split, readUnits, ha, hb, hc, hd, ih]
    rfl

theorem units_of_readUnits {start s rest : List Char} {units : List Nat} (h : readUnits start s = .ok (units, rest)) :
    ∃ x, s = x ++ '"' :: rest ∧ Units x units := by
  fun_induction readUnits start s generalizing units rest with
  | case1 | case3 | case5 | case6 | case8 | case9 => cases h
  | case2 =>
    obtain ⟨rfl, rfl⟩ := Prod.mk.inj (Except.ok.inj h)
    exact ⟨[], rfl, .nil⟩
  | case4 =>
    rename_i hd hc hb ha ih
    obtain ⟨⟨later, rest⟩, read, same⟩ := bind_eq_ok.mp h
    obtain ⟨rfl, rfl⟩ := Prod.mk.inj (Except.ok.inj same)
    obtain ⟨x, split, spelled⟩ := ih read
    exact ⟨_, by rw [split]; rfl, .code ha hb hc hd spelled⟩
  | case7 =>
    rename_i named ih
    obtain ⟨⟨later, rest⟩, read, same⟩ := bind_eq_ok.mp h
    obtain ⟨rfl, rfl⟩ := Prod.mk.inj (Except.ok.inj same)
    obtain ⟨x, split, spelled⟩ := ih read
    exact ⟨_, by rw [split]; rfl, .escape named spelled⟩
  | case10 =>
    rename_i c tail unquoted alone _ _ escaped control ih
    obtain ⟨⟨later, rest⟩, read, same⟩ := bind_eq_ok.mp h
    obtain ⟨rfl, rfl⟩ := Prod.mk.inj (Except.ok.inj same)
    obtain ⟨x, split, spelled⟩ := ih read
    have unescaped : c ≠ '\\' := by
      intro backslash
      cases tail with
      | nil => exact alone backslash rfl
      | cons d tail => exact escaped d tail backslash rfl
    exact ⟨_, by rw [split]; rfl, .plain unquoted unescaped (Nat.not_lt.mp control) spelled⟩

/-- A text is read exactly as it is spelled. -/
theorem readText_eq_ok {s : List Char} {t : String} {rest : List Char} :
    readText s = .ok (t, rest) ↔ ∃ x, s = x ++ rest ∧ Quoted x t := by
  constructor
  · intro h
    obtain ⟨⟨units, rest⟩, read, next⟩ := bind_eq_ok.mp h
    dsimp only at next
    split at next
    · rename_i text whole
      obtain ⟨rfl, rfl⟩ := Prod.mk.inj (Except.ok.inj next)
      obtain ⟨x, split, spelled⟩ := units_of_readUnits read
      refine ⟨x ++ ['"'], by rw [split, List.append_assoc]; rfl, x, units, spelled, rfl, ?_⟩
      rw [String.toList_ofList]
      exact chars?_eq_some.mp whole
    · cases next
  · rintro ⟨_, rfl, inner, units, spelled, rfl, whole⟩
    rw [readText, List.append_assoc, List.singleton_append, readUnits_of_units _ _ spelled]
    simp only [bind, Except.bind, chars?_eq_some.mpr whole, String.ofList_toList, pure, Except.pure]

/-- The decimals of a number, if it has any. -/
inductive Decimals : List Char → List Char → Prop where
  | none : Decimals [] []
  | point {x : List Char} (some_digit : x ≠ []) (digits : ∀ c ∈ x, isAsciiDigit c = true) : Decimals ('.' :: x) x

/-- The exponent of a number, if it has one. -/
inductive Power : List Char → Int → Prop where
  | none : Power [] 0
  | letter {e : Char} {sign x : List Char} (named : e = 'e' ∨ e = 'E')
      (signed : sign = [] ∨ sign = ['+'] ∨ sign = ['-']) (some_digit : x ≠ [])
      (digits : ∀ c ∈ x, isAsciiDigit c = true) :
      Power (e :: (sign ++ x)) (if sign = ['-'] then -(numberOf x : Int) else numberOf x)

def minus (negative : Bool) : List Char :=
  if negative then ['-'] else []

/-- A number: a whole one of so many digits at most, or a double. -/
inductive Number (digits : Nat) : List Char → Value → Prop where
  | whole {w : List Char} {n : Nat} (negative : Bool) (canonical : Canonical w n) (few : w.length ≤ digits) :
      Number digits (minus negative ++ w) (.int (if negative then -n else n))
  | real {w f d p : List Char} {n : Nat} {k : Int} (negative : Bool) (canonical : Canonical w n)
      (decimals : Decimals f d) (power : Power p k) (broken : f ≠ [] ∨ p ≠ []) :
      Number digits (minus negative ++ (w ++ (f ++ p)))
        (.real (Double.ofDecimal negative (numberOf (w ++ d)) (k - d.length)))

section Parts

variable {rest : List Char}

theorem takeWhole_eq_some {s w : List Char} (h : takeWhole s = some (w, rest)) :
    s = w ++ rest ∧ Canonical w (numberOf w) := by
  unfold takeWhole at h
  split at h
  · obtain ⟨rfl, rfl⟩ := Prod.mk.inj (Option.some.inj h)
    exact ⟨rfl, canonical_toDigits 0⟩
  · rename_i c tail other
    split at h
    · rename_i digit
      obtain ⟨rfl, rfl⟩ := Prod.mk.inj (Option.some.inj h)
      have common : ∀ d ∈ c :: tail.takeWhile isAsciiDigit, isAsciiDigit d = true := by
        intro d hd
        rcases List.mem_cons.mp hd with rfl | later
        · exact digit
        · exact List.mem_takeWhile_imp later
      refine ⟨by rw [List.cons_append, List.takeWhile_append_dropWhile],
        denotes_iff.mpr ⟨List.cons_ne_nil _ _, fun d hd => isDigit_of_isAsciiDigit (common d hd), rfl⟩, common, ?_⟩
      intro first
      obtain rfl := Option.some.inj first
      exact absurd rfl other
    · cases h
  · cases h

theorem takeWhole_of_canonical {w : List Char} {n : Nat} (h : Canonical w n)
    (ended : ∀ c ∈ rest.head?, isAsciiDigit c = false) : takeWhole (w ++ rest) = some (w, rest) := by
  obtain ⟨c, tail, rfl⟩ := List.exists_cons_of_ne_nil h.denotes.1
  by_cases zero : c = '0'
  · subst zero
    rw [h.unpadded rfl]
    rfl
  · have tail_digits : ∀ d ∈ tail, isAsciiDigit d = true := fun d hd => h.common d (List.mem_cons_of_mem c hd)
    rw [List.cons_append, takeWhole, if_pos (h.common c (List.mem_cons_self ..)),
      Arithmetic.takeWhile_of_stop tail_digits ended, Arithmetic.dropWhile_of_stop tail_digits ended]
    exact zero

theorem decimals_of_takeFraction {s f : List Char} (h : takeFraction s = (f, rest)) :
    s = f ++ rest ∧ ∃ d, Decimals f d := by
  unfold takeFraction at h
  split at h
  · rename_i d tail
    split at h
    · rename_i digit
      obtain ⟨rfl, rfl⟩ := Prod.mk.inj h
      refine ⟨by simp, _, .point (List.cons_ne_nil _ _) ?_⟩
      intro c hc
      rcases List.mem_cons.mp hc with rfl | later
      · exact digit
      · exact List.mem_takeWhile_imp later
    · obtain ⟨rfl, rfl⟩ := Prod.mk.inj h
      exact ⟨rfl, _, .none⟩
  · obtain ⟨rfl, rfl⟩ := Prod.mk.inj h
    exact ⟨rfl, _, .none⟩

theorem takeFraction_of_decimals {f d : List Char} (h : Decimals f d)
    (ended : ∀ c ∈ rest.head?, isAsciiDigit c = false ∧ c ≠ '.') : takeFraction (f ++ rest) = (f, rest) := by
  cases h with
  | none =>
    unfold takeFraction
    split
    · rename_i begins
      rw [List.nil_append] at begins
      exact absurd rfl (ended '.' (begins ▸ rfl)).2
    · rfl
  | point some_digit digits =>
    obtain ⟨c, tail, rfl⟩ := List.exists_cons_of_ne_nil some_digit
    have tail_digits : ∀ d ∈ tail, isAsciiDigit d = true := fun d hd => digits d (List.mem_cons_of_mem c hd)
    have stop : ∀ c ∈ rest.head?, isAsciiDigit c = false := fun c hc => (ended c hc).1
    rw [List.cons_append, List.cons_append, takeFraction, if_pos (digits c (List.mem_cons_self ..)),
      Arithmetic.takeWhile_of_stop tail_digits stop, Arithmetic.dropWhile_of_stop tail_digits stop]

theorem power_of_takeExponent {s p : List Char} (h : takeExponent s = (p, rest)) :
    s = p ++ rest ∧ ∃ k, Power p k := by
  cases s with
  | nil =>
    obtain ⟨rfl, rfl⟩ := Prod.mk.inj h
    exact ⟨rfl, _, .none⟩
  | cons e tail =>
    rw [takeExponent.eq_def] at h
    dsimp only at h
    split at h
    · rename_i named
      have letter : e = 'e' ∨ e = 'E' := by simpa using named
      have taken (sign body : List Char) (signed : sign = [] ∨ sign = ['+'] ∨ sign = ['-'])
          (split_sign : tail = sign ++ body)
          (h : (if (body.takeWhile isAsciiDigit).isEmpty then ([], e :: tail)
            else (e :: sign ++ body.takeWhile isAsciiDigit, body.dropWhile isAsciiDigit)) = (p, rest)) :
          e :: tail = p ++ rest ∧ ∃ k, Power p k := by
        split at h
        · obtain ⟨rfl, rfl⟩ := Prod.mk.inj h
          exact ⟨rfl, _, .none⟩
        · rename_i some_digit
          obtain ⟨rfl, rfl⟩ := Prod.mk.inj h
          refine ⟨by rw [split_sign]; simp, _, .letter letter signed (by simpa using some_digit)
            fun c hc => List.mem_takeWhile_imp hc⟩
      split at h
      · exact taken ['-'] _ (Or.inr (Or.inr rfl)) rfl h
      · exact taken ['+'] _ (Or.inr (Or.inl rfl)) rfl h
      · exact taken [] tail (Or.inl rfl) rfl h
    · obtain ⟨rfl, rfl⟩ := Prod.mk.inj h
      exact ⟨rfl, _, .none⟩

/-- No digit is a sign. -/
theorem digits_unsigned {x : List Char} (digits : ∀ c ∈ x, isAsciiDigit c = true) (some_digit : x ≠ []) :
    ∃ c tail, x = c :: tail ∧ c ≠ '-' ∧ c ≠ '+' := by
  obtain ⟨c, tail, rfl⟩ := List.exists_cons_of_ne_nil some_digit
  have digit := digits c (List.mem_cons_self ..)
  refine ⟨c, tail, rfl, ?_, ?_⟩ <;> rintro rfl <;> revert digit <;> decide

theorem takeExponent_of_power {p : List Char} {k : Int} (h : Power p k)
    (ended : ∀ c ∈ rest.head?, isAsciiDigit c = false ∧ c ≠ 'e' ∧ c ≠ 'E') :
    takeExponent (p ++ rest) = (p, rest) := by
  cases h with
  | none =>
    cases rest with
    | nil => rfl
    | cons c rest =>
      obtain ⟨-, small, big⟩ := ended c rfl
      simp [takeExponent, small, big]
  | @letter e sign x named signed some_digit digits =>
    have stop : ∀ c ∈ rest.head?, isAsciiDigit c = false := fun c hc => (ended c hc).1
    have taken := Arithmetic.takeWhile_of_stop digits stop
    have left := Arithmetic.dropWhile_of_stop digits stop
    have letter : (e == 'e' || e == 'E') = true := by simpa using named
    rw [List.cons_append, takeExponent.eq_def]
    dsimp only
    rw [if_pos letter]
    rcases signed with rfl | rfl | rfl
    · obtain ⟨c, tail, rfl, no_minus, no_plus⟩ := digits_unsigned digits some_digit
      rw [List.cons_append] at taken left
      simp [no_minus, no_plus, taken, left]
    · simp [taken, left, some_digit]
    · simp [taken, left, some_digit]

theorem exponent?_of_power {p : List Char} {k : Int} (h : Power p k) : exponent? p = some k := by
  cases h with
  | none => rfl
  | @letter e sign x named signed some_digit digits =>
    have letter : (e == 'e' || e == 'E') = true := by simpa using named
    have sign_taken : takeSign (sign ++ x) = (decide (sign = ['-']), x) := by
      rcases signed with rfl | rfl | rfl
      · obtain ⟨c, tail, rfl, no_minus, no_plus⟩ := digits_unsigned digits some_digit
        simp [takeSign, no_minus, no_plus]
      · rfl
      · rfl
    have all : x.all isAsciiDigit = true := List.all_eq_true.mpr digits
    have some_digit' : x.isEmpty = false := by simpa using some_digit
    rw [exponent?, sign_taken]
    simp [letter, all, some_digit']

theorem unsigned?_of_parts {w f d p : List Char} {n : Nat} {k : Int} (canonical : Canonical w n)
    (decimals : Decimals f d) (power : Power p k) :
    unsigned? (w ++ f ++ p) = some (numberOf (w ++ d), k - d.length) := by
  have some_whole : w.isEmpty = false := by simpa using canonical.denotes.1
  have power_stop : ∀ c ∈ p.head?, isAsciiDigit c = false ∧ c ≠ '.' := by
    cases power with
    | none => simp
    | letter named =>
      rintro c ⟨⟩
      rcases named with rfl | rfl <;> decide
  have stop : ∀ c ∈ (f ++ p).head?, isAsciiDigit c = false := by
    cases decimals with
    | none => exact fun c hc => (power_stop c hc).1
    | point =>
      rintro c ⟨⟩
      rfl
  have taken := Arithmetic.takeWhile_of_stop canonical.common stop
  have left := Arithmetic.dropWhile_of_stop canonical.common stop
  have exponent := exponent?_of_power power
  unfold unsigned?
  rw [List.append_assoc]
  simp only [taken, left]
  cases decimals with
  | none =>
    rw [List.nil_append]
    split
    · exact absurd rfl (power_stop '.' rfl).2
    · simp [some_whole, exponent]
  | point some_digit digits =>
    have power_digit : ∀ c ∈ p.head?, isAsciiDigit c = false := fun c hc => (power_stop c hc).1
    simp [some_whole, exponent, Arithmetic.takeWhile_of_stop digits power_digit,
      Arithmetic.dropWhile_of_stop digits power_digit]

end Parts

/-- What stands behind a number begins none of its parts. -/
theorem Ends.of_append {rest p : List Char} {k : Int} (ends : Ends rest) (power : Power p k) :
    ∀ c ∈ (p ++ rest).head?, isAsciiDigit c = false ∧ c ≠ '.' := by
  cases power with
  | none => exact fun c hc => ⟨(ends c hc).1, (ends c hc).2.1⟩
  | letter named =>
    rintro c ⟨⟩
    rcases named with rfl | rfl <;> decide

/-- The reading of a number behind its sign. -/
def readUnsigned (digits : Nat) (s : List Char) (negative : Bool) (body : List Char) :
    Except Stop (Value × List Char) :=
  match takeWhole body with
  | none => .error (.here s)
  | some (whole, afterWhole) =>
    let (fraction, afterFraction) := takeFraction afterWhole
    let (exponent, rest) := takeExponent afterFraction
    if fraction.isEmpty && exponent.isEmpty then
      if digits < whole.length then .error (.longNumber whole.length)
      else .ok (.int (if negative then -(numberOf whole : Int) else numberOf whole), rest)
    else
      match unsigned? (whole ++ fraction ++ exponent) with
      | some (digits, place) => .ok (.real (Double.ofDecimal negative digits place), rest)
      | none => .error (.here s)

theorem readNumber_minus (digits : Nat) {negative : Bool} {body : List Char}
    (unsigned : negative = false → body.head? ≠ some '-') :
    readNumber digits (minus negative ++ body) = readUnsigned digits (minus negative ++ body) negative body := by
  cases negative
  · unfold readNumber
    split
    rename_i sign
    split at sign
    · rename_i begins
      exact absurd (congrArg List.head? begins) (unsigned rfl)
    · obtain ⟨rfl, rfl⟩ := Prod.mk.inj sign
      rfl
  · rfl

theorem exists_minus (s : List Char) : ∃ negative body, s = minus negative ++ body ∧
    (negative = false → body.head? ≠ some '-') := by
  by_cases sign : s.head? = some '-'
  · obtain ⟨body, rfl⟩ := List.head?_eq_some_iff.mp sign
    exact ⟨true, body, rfl, fun h => by cases h⟩
  · exact ⟨false, s, rfl, fun _ => sign⟩

section Number

variable {digits : Nat} {s rest : List Char} {v : Value}

theorem number_of_readNumber (h : readNumber digits s = .ok (v, rest)) :
    ∃ x, s = x ++ rest ∧ Number digits x v := by
  obtain ⟨negative, body, rfl, unsigned⟩ := exists_minus s
  rw [readNumber_minus digits unsigned, readUnsigned] at h
  cases whole : takeWhole body with
  | none => simp [whole] at h
  | some parts =>
    obtain ⟨w, afterWhole⟩ := parts
    obtain ⟨⟨f, afterFraction⟩, fraction⟩ : ∃ parts, takeFraction afterWhole = parts := ⟨_, rfl⟩
    obtain ⟨⟨p, afterExponent⟩, exponent⟩ : ∃ parts, takeExponent afterFraction = parts := ⟨_, rfl⟩
    obtain ⟨rfl, canonical⟩ := takeWhole_eq_some whole
    obtain ⟨rfl, d, decimals⟩ := decimals_of_takeFraction fraction
    obtain ⟨rfl, k, power⟩ := power_of_takeExponent exponent
    simp only [whole, fraction, exponent, unsigned?_of_parts canonical decimals power] at h
    split at h
    · rename_i no_parts
      split at h
      · cases h
      · rename_i few
        obtain ⟨rfl, rfl⟩ := Prod.mk.inj (Except.ok.inj h)
        simp only [Bool.and_eq_true, List.isEmpty_iff] at no_parts
        obtain ⟨rfl, rfl⟩ := no_parts
        exact ⟨_, by simp, .whole negative canonical (Nat.not_lt.mp few)⟩
    · rename_i some_part
      obtain ⟨rfl, rfl⟩ := Prod.mk.inj (Except.ok.inj h)
      refine ⟨_, by simp, .real negative canonical decimals power ?_⟩
      simpa [imp_iff_not_or] using some_part

/-- A number begins with a digit behind its sign. -/
theorem head?_of_canonical {w : List Char} {n : Nat} (canonical : Canonical w n) (rest : List Char) :
    (w ++ rest).head? ≠ some '-' := by
  obtain ⟨c, tail, rfl, no_minus, -⟩ := digits_unsigned canonical.common canonical.denotes.1
  intro first
  exact no_minus (Option.some.inj first)

theorem readNumber_of_number {x : List Char} (ends : Ends rest) (h : Number digits x v) :
    readNumber digits (x ++ rest) = .ok (v, rest) := by
  cases h with
  | @whole w n negative canonical few =>
    have ended : ∀ c ∈ rest.head?, isAsciiDigit c = false := fun c hc => (ends c hc).1
    have value : numberOf w = n := (denotes_iff.mp canonical.denotes).2.2
    rw [List.append_assoc, readNumber_minus digits fun _ => head?_of_canonical canonical rest, readUnsigned,
      takeWhole_of_canonical canonical ended]
    simp [takeFraction_ends ends, takeExponent_ends ends, Nat.not_lt.mpr few, value]
  | @real w f d p n k negative canonical decimals power broken =>
    have power_over := takeExponent_of_power power fun c hc =>
      ⟨(ends c hc).1, (ends c hc).2.2.1, (ends c hc).2.2.2⟩
    have decimals_over := takeFraction_of_decimals decimals (ends.of_append power)
    have whole_over : ∀ c ∈ (f ++ (p ++ rest)).head?, isAsciiDigit c = false := by
      cases decimals with
      | none => exact fun c hc => (ends.of_append power c hc).1
      | point =>
        rintro c ⟨⟩
        rfl
    have parts : (f.isEmpty && p.isEmpty) = false := by
      simpa [List.isEmpty_iff, imp_iff_not_or] using broken
    have number := unsigned?_of_parts canonical decimals power
    rw [List.append_assoc, List.append_assoc, List.append_assoc,
      readNumber_minus digits fun _ => head?_of_canonical canonical _, readUnsigned,
      takeWhole_of_canonical canonical whole_over]
    simp only [decimals_over, power_over, parts, number]
    rfl

end Number

/-- A value that is no container. -/
inductive Scalar (digits : Nat) : List Char → Value → Prop where
  | null : Scalar digits ['n', 'u', 'l', 'l'] .null
  | yes : Scalar digits ['t', 'r', 'u', 'e'] (.bool true)
  | no : Scalar digits ['f', 'a', 'l', 's', 'e'] (.bool false)
  | nan : Scalar digits ['N', 'a', 'N'] (.real .nan)
  | infinite : Scalar digits ['I', 'n', 'f', 'i', 'n', 'i', 't', 'y'] (.real (.infinite false))
  | minusInfinite : Scalar digits ['-', 'I', 'n', 'f', 'i', 'n', 'i', 't', 'y'] (.real (.infinite true))
  | text {x : List Char} {s : String} (quoted : Quoted x s) : Scalar digits ('"' :: x) (.text s)
  | number {x : List Char} {v : Value} (spelled : Number digits x v) : Scalar digits x v

section Scalar

variable {digits : Nat} {s rest x : List Char} {v : Value}

/-- A number begins with a digit, or with a minus sign and a digit. -/
theorem Number.head (h : Number digits x v) :
    ∃ c tail, isAsciiDigit c = true ∧ (x = c :: tail ∨ x = '-' :: c :: tail) := by
  have signed (negative : Bool) {w : List Char} {n : Nat} (canonical : Canonical w n) (more : List Char) :
      ∃ c tail, isAsciiDigit c = true ∧
        (minus negative ++ (w ++ more) = c :: tail ∨ minus negative ++ (w ++ more) = '-' :: c :: tail) := by
    obtain ⟨c, tail, rfl⟩ := List.exists_cons_of_ne_nil canonical.denotes.1
    refine ⟨c, tail ++ more, canonical.common c (List.mem_cons_self ..), ?_⟩
    cases negative
    · exact Or.inl rfl
    · exact Or.inr rfl
  cases h with
  | whole negative canonical =>
    have bare := signed negative canonical []
    rwa [List.append_nil] at bare
  | real negative canonical => exact signed negative canonical _

theorem readScalar_number (h : Number digits x v) (rest : List Char) :
    readScalar digits (x ++ rest) = readNumber digits (x ++ rest) := by
  have no_letter : ∀ c ∈ ['"', 'n', 't', 'f', 'N', 'I', '-'], isAsciiDigit c = false := by simp [isAsciiDigit]
  obtain ⟨c, tail, digit, begins⟩ := h.head
  unfold readScalar
  split
  case h_8 => rfl
  all_goals
    rename_i same
    rcases begins with rfl | rfl
    all_goals
      simp only [List.cons_append, List.cons.injEq] at same
      simp_all [isAsciiDigit]

theorem scalar_of_readScalar (h : readScalar digits s = .ok (v, rest)) : ∃ x, s = x ++ rest ∧ Scalar digits x v := by
  unfold readScalar at h
  split at h
  · obtain ⟨⟨t, rest⟩, read, same⟩ := bind_eq_ok.mp h
    obtain ⟨rfl, rfl⟩ := Prod.mk.inj (Except.ok.inj same)
    obtain ⟨x, rfl, quoted⟩ := readText_eq_ok.mp read
    exact ⟨_, rfl, .text quoted⟩
  case h_8 =>
    obtain ⟨x, split, spelled⟩ := number_of_readNumber h
    exact ⟨x, split, .number spelled⟩
  all_goals
    obtain ⟨rfl, rfl⟩ := Prod.mk.inj (Except.ok.inj h)
  · exact ⟨_, rfl, .null⟩
  · exact ⟨_, rfl, .yes⟩
  · exact ⟨_, rfl, .no⟩
  · exact ⟨_, rfl, .nan⟩
  · exact ⟨_, rfl, .infinite⟩
  · exact ⟨_, rfl, .minusInfinite⟩

theorem readScalar_of_scalar (ends : Ends rest) (h : Scalar digits x v) :
    readScalar digits (x ++ rest) = .ok (v, rest) := by
  cases h with
  | null | yes | no | nan | infinite | minusInfinite => rfl
  | text quoted =>
    rw [List.cons_append, readScalar, readText_eq_ok.mpr ⟨_, rfl, quoted⟩]
    rfl
  | number spelled =>
    rw [readScalar_number spelled, readNumber_of_number ends spelled]

end Scalar

section Containers

variable {α : Type} (P : List Char → α → Prop)

/-- Parts with commas between them, and gaps around the commas and behind the last part. -/
inductive Series : List Char → List α → Prop where
  | one {x g : List Char} {a : α} (part : P x a) (gap : Gap g) : Series (x ++ g) [a]
  | more {x g h y : List Char} {a : α} {others : List α} (part : P x a) (before : Gap g) (behind : Gap h)
      (series : Series y others) : Series (x ++ (g ++ ',' :: (h ++ y))) (a :: others)

/-- Parts between an opening and a closing bracket. -/
inductive Enclosed (opening closing : Char) : List Char → List α → Prop where
  | none {g : List Char} (gap : Gap g) : Enclosed opening closing (opening :: (g ++ [closing])) []
  | some {g y : List Char} {parts : List α} (gap : Gap g) (series : Series P y parts) :
      Enclosed opening closing (opening :: (g ++ (y ++ [closing]))) parts

/-- Parts with a comma behind each of them, so that another part is due. -/
inductive Begun : List Char → Prop where
  | none : Begun []
  | more {x g h y : List Char} {a : α} (part : P x a) (before : Gap g) (behind : Gap h) (others : Begun y) :
      Begun (x ++ (g ++ ',' :: (h ++ y)))

end Containers

/-- The name of a member and its colon, so that the value is due. -/
def Label (n : List Char) (name : String) : Prop :=
  ∃ x g h, Quoted x name ∧ Gap g ∧ Gap h ∧ n = '"' :: (x ++ (g ++ ':' :: h))

def Member (P : List Char → Value → Prop) (y : List Char) (m : String × Value) : Prop :=
  ∃ n x, Label n m.1 ∧ P x m.2 ∧ y = n ++ x

/-- A value, with containers nested no deeper than so many levels. -/
def Spells (digits : Nat) : Nat → List Char → Value → Prop
  | 0, x, v => Scalar digits x v
  | depth + 1, x, v => Scalar digits x v ∨
      (∃ items, Enclosed (Spells digits depth) '[' ']' x items ∧ v = .list items) ∨
      ∃ members, Enclosed (Member (Spells digits depth)) '\x7b' '\x7d' x members ∧
        v = .object (Members.ofPairs members)

/-- What leads into so many containers, one in the other, none of which is closed, so that a value is due. -/
def Opens (digits : Nat) : Nat → List Char → Prop
  | 0, u => u = []
  | depth + 1, u =>
      (∃ g y inner, Gap g ∧ Begun (Spells digits depth) y ∧ Opens digits depth inner ∧
        u = '[' :: (g ++ (y ++ inner))) ∨
      ∃ g y n name inner, Gap g ∧ Begun (Member (Spells digits depth)) y ∧ Label n name ∧ Opens digits depth inner ∧
        u = '\x7b' :: (g ++ (y ++ (n ++ inner)))

def Container.opening : Container → Char
  | .list => '['
  | .object => '\x7b'

/-- A text that is one value, with gaps around it. -/
def Accepted (depth digits : Nat) (s : List Char) (v : Value) : Prop :=
  ∃ g x h, Gap g ∧ Spells digits depth x v ∧ Gap h ∧ s = g ++ (x ++ h)

/-- A text that opens one container more than may be open. -/
def TooDeep (depth digits : Nat) (s : List Char) (c : Container) : Prop :=
  ∃ g u rest, Gap g ∧ Opens digits depth u ∧ s = g ++ (u ++ c.opening :: rest)

end Reckoner.Json
