import Reckoner.Proofs.Text.Trimming
import Reckoner.Text.Case
import Mathlib.Data.List.Forall2

namespace Reckoner.Text

/-- The two forms of the small sigma. -/
def IsSmallSigma (c : Char) : Prop := c = '\u03c2' ∨ c = '\u03c3'
  deriving Decidable

/-- The same characters, but for the form of small sigmas. -/
def AlikeUpToSigma : List Char → List Char → Prop :=
  List.Forall₂ fun c d => c = d ∨ (IsSmallSigma c ∧ IsSmallSigma d)

/-- The lower case of a text between what stands before it, the last character first, and what follows. -/
def lowerBetween (before : List Char) : List Char → List Char → List Char
  | [], _ => []
  | c :: rest, after =>
    (if c == '\u03a3' then [lowerSigma before (rest ++ after)] else lowerChar c) ++
      lowerBetween (c :: before) rest after

theorem lowerFrom_append (before s after : List Char) : lowerFrom before (s ++ after) =
    lowerBetween before s after ++ lowerFrom (s.reverse ++ before) after := by
  induction s generalizing before with
  | nil => rfl
  | cons c s ih =>
    rw [List.cons_append, lowerFrom, lowerBetween, ih, List.reverse_cons, List.append_assoc, List.append_assoc]
    rfl

theorem lowerFrom_eq_between (before s : List Char) : lowerFrom before s = lowerBetween before s [] := by
  have whole := lowerFrom_append before s []
  rwa [List.append_nil, lowerFrom, List.append_nil] at whole

/-- The lower case of three texts, one behind the other. -/
theorem lowerChars_around (a s b : List Char) : lowerChars (a ++ (s ++ b)) =
    lowerBetween [] a (s ++ b) ++ (lowerBetween a.reverse s b ++ lowerBetween (s.reverse ++ a.reverse) b []) := by
  rw [lowerChars, lowerFrom_append, lowerFrom_append, lowerFrom_eq_between, List.append_nil]

theorem isSmallSigma_lowerSigma (before after : List Char) : IsSmallSigma (lowerSigma before after) := by
  unfold lowerSigma
  split
  · exact Or.inl rfl
  · exact Or.inr rfl

theorem AlikeUpToSigma.refl (s : List Char) : AlikeUpToSigma s s := by
  induction s with
  | nil => exact .nil
  | cons c s ih => exact .cons (Or.inl rfl) ih

theorem AlikeUpToSigma.append {s t u v : List Char} (first : AlikeUpToSigma s t) (second : AlikeUpToSigma u v) :
    AlikeUpToSigma (s ++ u) (t ++ v) := by
  induction first with
  | nil => exact second
  | cons same _ ih => exact .cons same ih

/-- Neighbours decide nothing but the form of sigmas. -/
theorem alike_lowerBetween (s before after before' after' : List Char) :
    AlikeUpToSigma (lowerBetween before s after) (lowerBetween before' s after') := by
  induction s generalizing before before' with
  | nil => exact .nil
  | cons c s ih =>
    refine AlikeUpToSigma.append ?_ (ih (c :: before) (c :: before'))
    split
    · exact .cons (Or.inr ⟨isSmallSigma_lowerSigma _ _, isSmallSigma_lowerSigma _ _⟩) .nil
    · exact .refl _

theorem AlikeUpToSigma.split {s t u : List Char} (h : AlikeUpToSigma (s ++ t) u) :
    ∃ s' t', u = s' ++ t' ∧ AlikeUpToSigma s s' ∧ AlikeUpToSigma t t' := by
  induction s generalizing u with
  | nil => exact ⟨[], u, rfl, .nil, h⟩
  | cons c s ih =>
    cases h with
    | cons same rest =>
      obtain ⟨s', t', rfl, front, behind⟩ := ih rest
      exact ⟨_ :: s', t', rfl, .cons same front, behind⟩

theorem AlikeUpToSigma.eq_of_plain {s t : List Char} (h : AlikeUpToSigma s t)
    (plain : ∀ c ∈ s, ¬ IsSmallSigma c) : s = t := by
  induction h with
  | nil => rfl
  | @cons c d s t same _ ih =>
    obtain ⟨unsigma, rest⟩ := List.forall_mem_cons.mp plain
    rcases same with rfl | ⟨sigma, -⟩
    · rw [ih rest]
    · exact absurd sigma unsigma

/-- Alike texts have the same words without sigmas. -/
theorem AlikeUpToSigma.infix_alike {s t word : List Char} (h : AlikeUpToSigma s t)
    (plain : ∀ c ∈ word, ¬ IsSmallSigma c) (within : word <:+: s) : word <:+: t := by
  obtain ⟨x, y, rfl⟩ := within
  obtain ⟨front, y', rfl, alike, -⟩ := h.split
  obtain ⟨x', word', rfl, -, same⟩ := alike.split
  rw [same.eq_of_plain plain]
  exact ⟨x', y', rfl⟩

theorem lowerChar_of_isBlank {c : Char} (h : isBlank c = true) : c ≠ '\u03a3' ∧ lowerChar c = [c] := by
  have each : blanks.all (fun c => c ≠ '\u03a3' ∧ lowerChar c = [c]) = true := by decide +kernel
  exact of_decide_eq_true (List.all_eq_true.mp each c (mem_blanks h))

/-- White space has no other lower case. -/
theorem lowerBetween_of_blank {s : List Char} (blank : ∀ c ∈ s, isBlank c = true) (before after : List Char) :
    lowerBetween before s after = s := by
  induction s generalizing before with
  | nil => rfl
  | cons c s ih =>
    obtain ⟨other, same⟩ := lowerChar_of_isBlank (blank c (List.mem_cons_self ..))
    have unchanged : (c == '\u03a3') = false := by simpa using other
    rw [lowerBetween, unchanged, ih fun d hd => blank d (List.mem_cons_of_mem c hd)]
    simp [same]

end Reckoner.Text
