import Reckoner.Classifier
import Reckoner.Proofs.Chat.Requests
import Reckoner.Proofs.Text.LowerCase
import Reckoner.Proofs.Text.Trimming

namespace Reckoner.Classifier

open Reckoner.Text

/-- A digit, one of the six operators and a digit, with nothing but white space between them. -/
def IsOperation (x : List Char) : Prop :=
  ∃ d gap o gap' e, x = d :: (gap ++ o :: (gap' ++ [e])) ∧ isDigit d = true ∧ (∀ c ∈ gap, isBlank c = true) ∧
    o ∈ ['+', '-', '*', '/', '^', '%'] ∧ (∀ c ∈ gap', isBlank c = true) ∧ isDigit e = true

theorem isBlank_of_isDigit {c : Char} (h : isDigit c = true) : isBlank c = false := by
  have each : blanks.all (isDigit · = false) = true := by decide +kernel
  by_contra blank
  have listed : c ∈ blanks := mem_blanks ((Bool.not_eq_false _).mp blank)
  rw [of_decide_eq_true (List.all_eq_true.mp each c listed)] at h
  cases h

theorem isBlank_of_mem_operators {c : Char} (h : c ∈ operators) : isBlank c = false := by
  have each : operators.all (isBlank · = false) = true := by decide
  exact of_decide_eq_true (List.all_eq_true.mp each c h)

theorem IsOperation.solid {x : List Char} (h : IsOperation x) : Solid isBlank x := by
  obtain ⟨d, gap, o, gap', e, rfl, first, -, -, -, last⟩ := h
  refine ⟨⟨d, rfl, isBlank_of_isDigit first⟩, e, ?_, isBlank_of_isDigit last⟩
  simp [List.getLast?_cons, List.getLast?_append]

theorem digitFollows_iff {s : List Char} : digitFollows s = true ↔
    ∃ gap e y, s = gap ++ e :: y ∧ (∀ c ∈ gap, isBlank c = true) ∧ isDigit e = true := by
  constructor
  · intro h
    unfold digitFollows at h
    split at h
    · rename_i e y behind
      obtain ⟨-, gap, whole, blank⟩ := dropWhile_eq_cons_iff.mp behind
      exact ⟨gap, e, y, whole, blank, h⟩
    · cases h
  · rintro ⟨gap, e, y, whole, blank, digit⟩
    rw [digitFollows, dropWhile_eq_cons_iff.mpr ⟨isBlank_of_isDigit digit, gap, whole, blank⟩]
    exact digit

theorem operatorFollows_iff {s : List Char} : operatorFollows s = true ↔
    ∃ gap o t, s = gap ++ o :: t ∧ (∀ c ∈ gap, isBlank c = true) ∧ o ∈ operators ∧ digitFollows t = true := by
  constructor
  · intro h
    unfold operatorFollows at h
    split at h
    · rename_i o t behind
      rw [Bool.and_eq_true, List.contains_iff_mem] at h
      obtain ⟨-, gap, whole, blank⟩ := dropWhile_eq_cons_iff.mp behind
      exact ⟨gap, o, t, whole, blank, h⟩
    · cases h
  · rintro ⟨gap, o, t, whole, blank, operator, digit⟩
    rw [operatorFollows, dropWhile_eq_cons_iff.mpr ⟨isBlank_of_mem_operators operator, gap, whole, blank⟩]
    rw [Bool.and_eq_true, List.contains_iff_mem]
    exact ⟨operator, digit⟩

theorem isOperation_prefix_iff {c : Char} {s : List Char} :
    (∃ x, IsOperation x ∧ x <+: c :: s) ↔ isDigit c = true ∧ operatorFollows s = true := by
  constructor
  · rintro ⟨_, ⟨d, gap, o, gap', e, rfl, first, blank, operator, blank', last⟩, y, whole⟩
    obtain ⟨rfl, rfl⟩ := List.cons.inj whole
    refine ⟨first, operatorFollows_iff.mpr ⟨gap, o, gap' ++ e :: y, by simp, blank, operator, ?_⟩⟩
    exact digitFollows_iff.mpr ⟨gap', e, y, rfl, blank', last⟩
  · rintro ⟨first, follows⟩
    obtain ⟨gap, o, t, rfl, blank, operator, digit⟩ := operatorFollows_iff.mp follows
    obtain ⟨gap', e, y, rfl, blank', last⟩ := digitFollows_iff.mp digit
    exact ⟨_, ⟨c, gap, o, gap', e, rfl, first, blank, operator, blank', last⟩, y, by simp⟩

theorem hasOperation_iff {s : List Char} : hasOperation s = true ↔ ∃ x, IsOperation x ∧ x <:+: s := by
  induction s with
  | nil =>
    constructor
    · intro h
      cases h
    · rintro ⟨x, operation, within⟩
      exact absurd (List.infix_nil.mp within) operation.solid.ne_nil
  | cons c s ih =>
    rw [hasOperation, Bool.or_eq_true, Bool.and_eq_true, ih, ← isOperation_prefix_iff]
    simp only [List.infix_cons_iff, and_or_left, exists_or]

theorem hasKeyword_iff {s : List Char} :
    hasKeyword s = true ↔ ∃ k ∈ keywords, k.toList <:+: lowerChars s := by
  simp only [hasKeyword, List.any_eq_true, occursIn_iff]

/-- Keywords have no sigmas, and no white space at their ends. -/
theorem keyword_plain {k : String} (h : k ∈ keywords) :
    (∀ c ∈ k.toList, ¬ IsSmallSigma c) ∧ Solid isBlank k.toList := by
  have plain : keywords.all (fun k => k.toList.all fun c => ¬ IsSmallSigma c) = true := by decide +kernel
  have first : keywords.all (fun k => k.toList.head?.any (isBlank · = false)) = true := by decide +kernel
  have last : keywords.all (fun k => k.toList.getLast?.any (isBlank · = false)) = true := by decide +kernel
  simp only [List.all_eq_true, Option.any_eq_true, decide_eq_true_eq] at plain first last
  exact ⟨plain k h, first k h, last k h⟩

theorem hasKeyword_around {s : List Char} (a b : List Char) (h : hasKeyword s = true) :
    hasKeyword (a ++ (s ++ b)) = true := by
  obtain ⟨k, hk, within⟩ := hasKeyword_iff.mp h
  refine hasKeyword_iff.mpr ⟨k, hk, ?_⟩
  rw [lowerChars, lowerFrom_eq_between] at within
  rw [lowerChars_around]
  have inside := (alike_lowerBetween s [] [] a.reverse b).infix_alike (keyword_plain hk).1 within
  exact inside.trans ⟨_, _, List.append_assoc _ _ _⟩

/-- White space around a text makes no keywords in it. -/
theorem hasKeyword_of_around {a s b : List Char} (before : ∀ c ∈ a, isBlank c = true)
    (after : ∀ c ∈ b, isBlank c = true) (h : hasKeyword (a ++ (s ++ b)) = true) : hasKeyword s = true := by
  obtain ⟨k, hk, within⟩ := hasKeyword_iff.mp h
  obtain ⟨plain, solid⟩ := keyword_plain hk
  rw [lowerChars_around, lowerBetween_of_blank before, lowerBetween_of_blank after] at within
  have inside := solid.infix_between before after within
  refine hasKeyword_iff.mpr ⟨k, hk, ?_⟩
  rw [lowerChars, lowerFrom_eq_between]
  exact (alike_lowerBetween s a.reverse b [] []).infix_alike plain inside

theorem isArithmetic_iff {s : List Char} : isArithmetic s = true ↔
    (∃ k ∈ keywords, k.toList <:+: lowerChars s) ∨ ∃ x, IsOperation x ∧ x <:+: s := by
  rw [isArithmetic, Bool.or_eq_true, hasKeyword_iff, hasOperation_iff]

theorem isArithmetic_around {s : List Char} (a b : List Char) (h : isArithmetic s = true) :
    isArithmetic (a ++ (s ++ b)) = true := by
  rw [isArithmetic, Bool.or_eq_true] at h ⊢
  rcases h with keyword | operation
  · exact Or.inl (hasKeyword_around a b keyword)
  · obtain ⟨x, operation, within⟩ := hasOperation_iff.mp operation
    have inside : x <:+: a ++ (s ++ b) := within.trans ⟨a, b, List.append_assoc a s b⟩
    exact Or.inr (hasOperation_iff.mpr ⟨x, operation, inside⟩)

theorem isArithmetic_trimBy (s : List Char) : isArithmetic (trimBy isBlank s) = isArithmetic s := by
  obtain ⟨a, b, split, before, after⟩ := trimBy_split isBlank s
  rw [Bool.eq_iff_iff]
  constructor
  · intro h
    rw [split]
    exact isArithmetic_around a b h
  · intro h
    rw [isArithmetic, Bool.or_eq_true] at h ⊢
    rcases h with keyword | operation
    · rw [split] at keyword
      exact Or.inl (hasKeyword_of_around before after keyword)
    · obtain ⟨x, operation, within⟩ := hasOperation_iff.mp operation
      exact Or.inr (hasOperation_iff.mpr ⟨x, operation, operation.solid.infix_trimBy_iff.mpr within⟩)

theorem isQuestion_trim (t : String) : isQuestion (trim t) = isQuestion t := by
  rw [isQuestion, trim, String.toList_ofList, isArithmetic_trimBy, isQuestion]

/-- A text is an arithmetic question exactly if a keyword stands in its lower case or an operation in itself.
It stays one with any text before and behind it, and is one exactly if it is without the white space at its
ends, so that the message of a request is judged like the text that was given for it. -/
theorem question_in_context (t : String) :
    (isQuestion t = true ↔
      (∃ k ∈ keywords, k.toList <:+: (lower t).toList) ∨ ∃ x, IsOperation x ∧ x <:+: t.toList) ∧
    (∀ a b : String, isQuestion t = true → isQuestion (a ++ t ++ b) = true) ∧
    isQuestion (trim t) = isQuestion t ∧
    ∀ members said, Chat.Request.check members = .ok said → members.get? "message" = some (.text t) →
      isQuestion said.message = isQuestion t := by
  refine ⟨?_, fun a b h => ?_, isQuestion_trim t, fun members said accepted given => ?_⟩
  · rw [lower, String.toList_ofList]
    exact isArithmetic_iff
  · rw [isQuestion, String.append_assoc, String.toList_append, String.toList_append]
    exact isArithmetic_around a.toList b.toList h
  · obtain ⟨text, named, trimmed, -⟩ := Chat.Request.message_of_check accepted
    obtain rfl : t = text := by simpa [given] using named
    rw [trimmed, isQuestion_trim]

end Reckoner.Classifier
