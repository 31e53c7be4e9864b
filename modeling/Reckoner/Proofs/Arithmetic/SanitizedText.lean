import Reckoner.Arithmetic.Token
import Reckoner.Proofs.Arithmetic.Places
import Reckoner.Proofs.Arithmetic.Tokenization
import Reckoner.Proofs.Arithmetic.WholeNumbers
import Reckoner.Proofs.Text.Trimming

namespace Reckoner.Arithmetic

open Reckoner.Text

def alphabet : List Char := "0123456789+-*/().".toList

theorem isArithmetic_iff {c : Char} : isArithmetic c = true ↔ c ∈ alphabet := by
  constructor
  · intro h
    simp only [isArithmetic, Bool.or_eq_true, beq_iff_eq, or_assoc] at h
    rcases h with digit | rfl | rfl | rfl | rfl | rfl | rfl | rfl
    · have each : ∀ n < 58, 48 ≤ n → Char.ofNat n ∈ alphabet := by decide
      simp only [isAsciiDigit, Bool.and_eq_true, decide_eq_true_eq] at digit
      rw [← Char.ofNat_toNat c]
      exact each c.toNat (by omega) digit.1
    all_goals decide
  · have each : alphabet.all isArithmetic = true := by decide
    exact List.all_eq_true.mp each c

theorem isBlank_of_isArithmetic {c : Char} (h : isArithmetic c = true) : isBlank c = false := by
  have each : alphabet.all (isBlank · = false) = true := by decide
  exact of_decide_eq_true (List.all_eq_true.mp each c (isArithmetic_iff.mp h))

theorem point_of_isArithmetic {c : Char} (h : isArithmetic c = true) (undigit : isDigit c = false)
    (unsigned : c ∉ signs) : c = '.' := by
  have each : alphabet.all (fun c => isDigit c = false → c ∉ signs → c = '.') = true := by decide
  exact of_decide_eq_true (List.all_eq_true.mp each c (isArithmetic_iff.mp h)) undigit unsigned

theorem toList_sanitize (r : String) : (sanitize r).toList = r.toList.filter (· ∈ alphabet) := by
  rw [sanitize, String.toList_ofList, sanitizeChars]
  refine List.filter_congr fun c _ => ?_
  rw [Bool.eq_iff_iff, isArithmetic_iff, decide_eq_true_eq]

theorem isArithmetic_of_mem {r : String} {c : Char} (h : c ∈ (sanitize r).toList) : isArithmetic c = true := by
  rw [toList_sanitize, List.mem_filter, decide_eq_true_eq] at h
  exact isArithmetic_iff.mpr h.2

theorem sanitize_sanitize (r : String) : sanitize (sanitize r) = sanitize r := by
  rw [← String.toList_inj, toList_sanitize, toList_sanitize, List.filter_filter]
  simp

/-- What is not arithmetic goes in any case, white space at the ends before or with the rest. -/
theorem sanitize_trim (r : String) : sanitize (trim r) = sanitize r := by
  obtain ⟨a, b, split, before, after⟩ := trimBy_split isBlank r.toList
  have gone : ∀ x : List Char, (∀ c ∈ x, isBlank c = true) → x.filter (· ∈ alphabet) = [] := by
    intro x blank
    rw [List.filter_eq_nil_iff]
    intro c hc common
    have unblank := isBlank_of_isArithmetic (isArithmetic_iff.mpr (of_decide_eq_true common))
    rw [blank c hc] at unblank
    cases unblank
  have whole := congrArg (List.filter (· ∈ alphabet)) split
  rw [List.filter_append, List.filter_append, gone a before, gone b after, List.nil_append,
    List.append_nil] at whole
  rw [← String.toList_inj, toList_sanitize, toList_sanitize, whole, trim, String.toList_ofList]

theorem sanitize_append (r t : String) : sanitize (r ++ t) = sanitize r ++ sanitize t := by
  rw [← String.toList_inj]
  simp [toList_sanitize]

theorem sanitize_join (pieces : List String) :
    sanitize (String.join pieces) = String.join (pieces.map sanitize) := by
  induction pieces with
  | nil => rfl
  | cons r pieces ih => rw [String.join_cons, sanitize_append, ih, List.map_cons, String.join_cons]

theorem withoutBlanks_sanitize (r : String) : withoutBlanks (sanitize r) = (sanitize r).toList := by
  rw [withoutBlanks, List.filter_eq_self]
  intro c hc
  rw [isBlank_of_isArithmetic (isArithmetic_of_mem hc)]
  rfl

theorem tokens_of_read {α : Type} (a : Scalars α) {s : List Char} {c : Char} {p : Nat}
    (h : read a s = .error (.unexpectedCharacter c p)) : tokens s = .error (.unexpectedCharacter c p) := by
  cases split : tokens s with
  | error g => simpa [read, split, bind, Except.bind] using h
  | ok ts =>
    have refused : valueOf a ts = .error (.unexpectedCharacter c p) := by
      simpa [read, split, bind, Except.bind] using h
    exact (blames_of_valueOf a refused).elim

/-- Exact arithmetic refuses no character. -/
theorem evaluateDigits_ne {s : List Char} (c : Char) (p : Nat) :
    evaluateDigits s ≠ .error (.unexpectedCharacter c p) := by
  intro h
  cases result : evaluateExact s with
  | ok n => simp [evaluateDigits, result, bind, Except.bind, pure, Except.pure] at h
  | error g =>
    obtain rfl : g = .unexpectedCharacter c p := by
      simpa [evaluateDigits, result, bind, Except.bind] using h
    unfold evaluateExact at result
    split at result
    · cases result
    · split at result <;> cases result

/-- An expression is refused for a character exactly if it is short enough, calls for no exact arithmetic,
and its split into tokens stops there. -/
theorem evaluateChars_stops_iff {s : List Char} {c : Char} {p : Nat} :
    evaluateChars lengthLimit s = .error (.unexpectedCharacter c p) ↔
      s.length ≤ 200 ∧ ¬ HasLongRun s ∧ tokens s = .error (.unexpectedCharacter c p) := by
  have limit : lengthLimit = 200 := rfl
  constructor
  · intro h
    have stops := tokens_of_read doubles (read_of_named h rfl)
    unfold evaluateChars at h
    split at h
    · cases h
    split at h
    · cases h
    split at h
    · exact absurd h (evaluateDigits_ne c p)
    · rename_i within short_runs
      exact ⟨by omega, fun long => short_runs (hasLongRun_iff.mpr long), stops⟩
  · rintro ⟨short, short_runs, stops⟩
    have some_char : s.isEmpty ≠ true := by
      intro none_left
      obtain rfl := List.isEmpty_iff.mp none_left
      rw [tokens, tokensFrom] at stops
      cases stops
    have within : ¬ lengthLimit < s.length := by omega
    have unexact : ¬ hasLongRun s = true := fun long => short_runs (hasLongRun_iff.mp long)
    rw [evaluateChars, if_neg some_char, if_neg within, if_neg unexact, evaluateDouble, readDouble, read, stops]
    rfl

/-- A point that starts no token, as no digit follows it, and that is left out of the tokens before it, as
none of their numbers could be longer. -/
structure Stray (s : List Char) (p : Nat) : Prop where
  point : s[p]? = some '.'
  unfollowed : ∀ d ∈ s[p + 1]?, isDigit d = false
  outside : ∃ ts, Splits 0 ts (s.take p) (s.drop p)

/-- Among the characters of arithmetic only a stray point is refused. -/
theorem tokens_stray_iff {s : List Char} (common : ∀ c ∈ s, isArithmetic c = true) {c : Char} {p : Nat} :
    tokens s = .error (.unexpectedCharacter c p) ↔ c = '.' ∧ Stray s p := by
  rw [tokens_error_iff]
  constructor
  · rintro ⟨ts, x, d, y, rfl, split, nothing, told⟩
    obtain ⟨rfl, rfl⟩ : c = d ∧ p = x.length := by simpa using told
    obtain ⟨undigit, unsigned, unfollowed⟩ := Lexeme.next?_cons_eq_none_iff.mp nothing
    obtain rfl : c = '.' := point_of_isArithmetic (common c (by simp)) undigit unsigned
    refine ⟨rfl, by simp, ?_, ts, ?_⟩
    · rw [getElem?_behind]
      exact unfollowed rfl
    · rw [List.take_left, List.drop_left]
      exact split
  · rintro ⟨rfl, point, unfollowed, ts, split⟩
    obtain ⟨inside, there⟩ := List.getElem?_eq_some_iff.mp point
    have behind : s.drop p = '.' :: s.drop (p + 1) := by rw [List.drop_eq_getElem_cons inside, there]
    rw [behind] at split
    refine ⟨ts, s.take p, '.', s.drop (p + 1), ?_, split, ?_, ?_⟩
    · rw [← behind, List.take_append_drop]
    · refine Lexeme.next?_cons_eq_none_iff.mpr ⟨by decide, by decide, fun _ => ?_⟩
      rw [List.head?_drop]
      exact unfollowed
    · rw [List.length_take, Nat.min_eq_left (Nat.le_of_lt inside)]

/-- Reducing a text to the characters of arithmetic keeps exactly these, in order; it is the same whether or
not white space is cut off before, done once more, or piece by piece, and leaves no white space. What is left
is refused for a character exactly at a stray point, within the length and without the long runs that are
judged before. -/
theorem sanitized_alphabet (r : String) :
    (sanitize r).toList.Sublist r.toList ∧
    (sanitize r).toList = r.toList.filter (· ∈ alphabet) ∧
    sanitize (trim r) = sanitize r ∧
    sanitize (sanitize r) = sanitize r ∧
    (∀ pieces, String.join pieces = r → String.join (pieces.map sanitize) = sanitize r) ∧
    withoutBlanks (sanitize r) = (sanitize r).toList ∧
    ∀ c p, (∃ f, evaluate (sanitize r) = .error f ∧ f.fault = .unexpectedCharacter c p) ↔
      (sanitize r).toList.length ≤ 200 ∧ ¬ HasLongRun (sanitize r).toList ∧
        c = '.' ∧ Stray (sanitize r).toList p := by
  refine ⟨?_, toList_sanitize r, sanitize_trim r, sanitize_sanitize r, ?_, withoutBlanks_sanitize r,
    fun c p => ?_⟩
  · rw [toList_sanitize]
    exact List.filter_sublist
  · rintro pieces rfl
    exact (sanitize_join pieces).symm
  · rw [← tokens_stray_iff fun c => isArithmetic_of_mem, ← evaluateChars_stops_iff,
      ← withoutBlanks_sanitize]
    constructor
    · rintro ⟨f, failed, told⟩
      rw [← told]
      exact (evaluate_error failed).2
    · intro failed
      refine ⟨⟨sanitize r, .unexpectedCharacter c p⟩, ?_, rfl⟩
      rw [evaluate, evaluateWithin, failed]

end Reckoner.Arithmetic
