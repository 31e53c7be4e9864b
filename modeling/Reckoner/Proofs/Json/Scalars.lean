import Reckoner.Json.Printer
import Reckoner.Json.Reader
import Reckoner.Proofs.Text.Numerals
import Reckoner.Proofs.Text.Utf8

namespace Reckoner.Json

open Reckoner.Text

theorem hexValue?_hexDigit (n : Nat) : hexValue? (hexDigit n) = some (n % 16) := by
  have small : n % 16 < 16 := Nat.mod_lt _ (by decide)
  have each : ∀ k < 16, hexValue? (Nat.digitChar k) = some k := by decide
  exact each _ small

theorem readUnits_plainEscape (start : List Char) {letter c : Char} (escape : plainEscape? letter = some c)
    (rest : List Char) : readUnits start ('\\' :: letter :: rest) = do
      let (units, rest) ← readUnits start rest
      return (c.toNat :: units, rest) := by
  have no_code : letter ≠ 'u' := by
    rintro rfl
    simp [plainEscape?] at escape
  rw [readUnits]
  · rw [escape]
  all_goals simp [no_code]

theorem readUnits_plain (start : List Char) {c : Char} (unquoted : c ≠ '"') (unescaped : c ≠ '\\')
    (printable : 32 ≤ c.toNat) (rest : List Char) : readUnits start (c :: rest) = do
      let (units, rest) ← readUnits start rest
      return (c.toNat :: units, rest) := by
  rw [readUnits]
  · rw [if_neg (Nat.not_lt.mpr printable)]
  all_goals simp [unquoted, unescaped]

/-- No character is half of a surrogate pair. -/
theorem joinPairs_map (s : List Char) : joinPairs (s.map Char.toNat) = s.map Char.toNat := by
  induction s with
  | nil => simp [joinPairs]
  | cons c s ih =>
    have whole : c.toNat < 0xD800 ∨ 0xDFFF < c.toNat ∧ c.toNat < 0x110000 := c.valid
    cases s with
    | nil => simp [joinPairs]
    | cons d s =>
      have apart : (0xD800 ≤ c.toNat && c.toNat < 0xDC00) = false := by
        simp only [Bool.and_eq_false_iff, decide_eq_false_iff_not]
        omega
      rw [List.map_cons, List.map_cons, joinPairs, apart, ← List.map_cons, ih]
      simp

/-- What would not go on with a number that it stands behind. -/
def Ends (rest : List Char) : Prop :=
  ∀ c, rest.head? = some c → isAsciiDigit c = false ∧ c ≠ '.' ∧ c ≠ 'e' ∧ c ≠ 'E'

section

variable {rest : List Char}

theorem ends_nil : Ends [] := by simp [Ends]

theorem ends_of_head {c : Char} (h : isAsciiDigit c = false ∧ c ≠ '.' ∧ c ≠ 'e' ∧ c ≠ 'E')
    (rest : List Char) : Ends (c :: rest) := by
  rintro d ⟨⟩
  exact h

theorem takeFraction_ends (ends : Ends rest) : takeFraction rest = ([], rest) := by
  unfold takeFraction
  split
  · exact absurd rfl (ends '.' rfl).2.1
  · rfl

theorem takeExponent_ends (ends : Ends rest) : takeExponent rest = ([], rest) := by
  cases rest with
  | nil => rfl
  | cons c rest =>
    obtain ⟨-, -, small, big⟩ := ends c rfl
    simp [takeExponent, small, big]

end

end Reckoner.Json
