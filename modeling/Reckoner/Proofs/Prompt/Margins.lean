import Reckoner.Prompt.Dedent
import Mathlib.Data.List.TakeWhile

namespace Reckoner.Prompt

open Reckoner.Text

/-- The second text is the first without some spaces and tabs at the start of lines; the flag says that a line
starts where the texts do. -/
inductive Unindents : Bool → List Char → List Char → Prop
  | nil {starts : Bool} : Unindents starts [] []
  | keep {starts : Bool} {s t : List Char} (c : Char) (rest : Unindents (c == '\n') s t) :
      Unindents starts (c :: s) (c :: t)
  | drop {s t : List Char} {c : Char} (indent : isIndent c = true) (rest : Unindents true s t) :
      Unindents true (c :: s) t

namespace Unindents

variable {starts : Bool} {s t u : List Char}

theorem refl (starts : Bool) (s : List Char) : Unindents starts s s := by
  induction s generalizing starts with
  | nil => exact nil
  | cons c s ih => exact keep c (ih _)

/-- More can be dropped where a line starts. -/
theorem fresh (h : Unindents starts s t) : Unindents true s t := by
  cases h with
  | nil => exact nil
  | keep c rest => exact keep c rest
  | drop indent rest => exact drop indent rest

theorem dropped {l : List Char} (indents : ∀ c ∈ l, isIndent c = true) (rest : Unindents true s t) :
    Unindents true (l ++ s) t := by
  induction l with
  | nil => exact rest
  | cons c l ih =>
    exact drop (indents c (List.mem_cons_self ..)) (ih fun d hd => indents d (List.mem_cons_of_mem c hd))

theorem kept (l : List Char) (rest : Unindents false s t) : Unindents starts (l ++ s) (l ++ t) := by
  induction l generalizing starts with
  | nil =>
    cases starts with
    | false => exact rest
    | true => exact rest.fresh
  | cons c l ih => exact keep c ih

/-- A character that is no indentation is kept. -/
theorem keeps {c : Char} (h : Unindents starts (c :: s) u) (other : isIndent c = false) :
    ∃ t, u = c :: t ∧ Unindents (c == '\n') s t := by
  cases h with
  | keep _ rest => exact ⟨_, rfl, rest⟩
  | drop indent _ =>
    rw [other] at indent
    cases indent

/-- What is left of two texts, one behind the other. -/
theorem append (h : Unindents starts (s ++ t) u) : ∃ s' t' next, u = s' ++ t' ∧ Unindents starts s s' ∧
    Unindents next t t' := by
  induction s generalizing starts u with
  | nil => exact ⟨[], u, starts, rfl, nil, h⟩
  | cons c s ih =>
    cases h with
    | keep _ rest =>
      obtain ⟨s', t', next, rfl, first, second⟩ := ih rest
      exact ⟨c :: s', t', next, rfl, keep c first, second⟩
    | drop indent rest =>
      obtain ⟨s', t', next, rfl, first, second⟩ := ih rest
      exact ⟨s', t', next, rfl, drop indent first, second⟩

theorem sublist (h : Unindents starts s t) : t.Sublist s := by
  induction h with
  | nil => exact List.Sublist.slnil
  | keep c _ ih => exact ih.cons_cons c
  | drop _ _ ih => exact ih.cons _

/-- Ends of lines are kept. -/
theorem newline_mem (h : Unindents starts s t) (broken : '\n' ∈ s) : '\n' ∈ t := by
  induction h with
  | nil => exact broken
  | @keep _ s t c _ ih =>
    rcases List.mem_cons.mp broken with same | later
    · exact same ▸ List.mem_cons_self ..
    · exact List.mem_cons_of_mem c (ih later)
  | @drop s t c indent _ ih =>
    rcases List.mem_cons.mp broken with same | later
    · rw [← same] at indent
      cases indent
    · exact ih later

/-- Nothing is lost within a line that has begun. -/
theorem eq_of_unbroken (h : Unindents false s t) (whole : '\n' ∉ s) : t = s := by
  induction s generalizing t with
  | nil =>
    cases h
    rfl
  | cons c s ih =>
    obtain ⟨other, later⟩ := not_or.mp (List.mem_cons.not.mp whole)
    cases h with
    | keep _ rest =>
      have within : (c == '\n') = false := by simpa using fun same => other (Eq.symm same)
      rw [within] at rest
      rw [ih rest later]

/-- What a text begins with up to its first line's end is kept, if its line has begun. -/
theorem takeWhile_eq (h : Unindents false s t) {p : Char → Bool} (line : p '\n' = false) :
    t.takeWhile p = s.takeWhile p := by
  induction s generalizing t with
  | nil =>
    cases h
    rfl
  | cons c s ih =>
    cases h with
    | keep _ rest =>
      by_cases hc : p c = true
      · have within : (c == '\n') = false := by
          rw [beq_eq_false_iff_ne]
          rintro rfl
          rw [line] at hc
          cases hc
        rw [within] at rest
        rw [List.takeWhile_cons_of_pos hc, List.takeWhile_cons_of_pos hc, ih rest]
      · rw [List.takeWhile_cons_of_neg hc, List.takeWhile_cons_of_neg hc]

end Unindents

theorem splitAtAll_ne_nil (p : Char → Bool) (s : List Char) : splitAtAll p s ≠ [] := by
  cases s with
  | nil => exact List.cons_ne_nil _ _
  | cons c s =>
    rw [splitAtAll]
    split
    · split <;> exact List.cons_ne_nil _ _
    · exact List.cons_ne_nil _ _

theorem unlines_cons (l : Line) {rest : List Line} (more : rest ≠ []) :
    unlines (l :: rest) = l ++ '\n' :: unlines rest := by
  cases rest with
  | nil => exact absurd rfl more
  | cons m rest => rfl

/-- Lines put together again are the text. -/
theorem unlines_lines (s : List Char) : unlines (lines s) = s := by
  induction s with
  | nil => rfl
  | cons c s ih =>
    unfold lines at ih ⊢
    rw [splitAtAll]
    have some_line := splitAtAll_ne_nil (· == '\n') s
    split
    · rename_i l more split_rest
      rw [split_rest] at ih
      split
      · rename_i line
        obtain rfl : c = '\n' := by simpa using line
        rw [unlines_cons [] (List.cons_ne_nil _ _), ih]
        rfl
      · cases more with
        | nil => exact congrArg (c :: ·) ih
        | cons m more => exact congrArg (c :: ·) ih
    · rename_i none_left
      exact absurd none_left some_line

/-- A margin is a beginning of the indentation of each line that is not empty. -/
theorem margin_startsLine {ls : List Line} {l : Line} (hl : l ∈ ls) (written : l ≠ []) :
    margin ls <+: l.takeWhile isIndent := by
  have folded (first : List Char) (others : List (List Char)) : others.foldl commonStart first <+: first ∧
      ∀ other ∈ others, others.foldl commonStart first <+: other := by
    induction others generalizing first with
    | nil => exact ⟨List.prefix_refl first, by simp⟩
    | cons other others ih =>
      obtain ⟨shorter, each⟩ := ih (commonStart first other)
      have both := commonStart_startsBoth first other
      refine ⟨shorter.trans both.1, ?_⟩
      intro next hnext
      rcases List.mem_cons.mp hnext with rfl | later
      · exact shorter.trans both.2
      · exact each next later
  have listed : l.takeWhile isIndent ∈ (ls.filter (!·.isEmpty)).map (·.takeWhile isIndent) := by
    refine List.mem_map.mpr ⟨l, List.mem_filter.mpr ⟨hl, ?_⟩, rfl⟩
    simpa using written
  unfold margin
  split
  · rename_i none_left
    rw [none_left] at listed
    cases listed
  · rename_i first rest split_indents
    rw [split_indents] at listed
    rcases List.mem_cons.mp listed with same | later
    · rw [same]
      exact (folded first rest).1
    · exact (folded first rest).2 _ later

/-- A line loses spaces and tabs at its start. -/
theorem dedentLine {ls : List Line} {l : Line} (hl : l ∈ ls) : ∃ indent,
    l = indent ++ (clearBlankLine l).drop (margin (ls.map clearBlankLine)).length ∧
      ∀ c ∈ indent, isIndent c = true := by
  by_cases blank : l.all isIndent = true
  · refine ⟨l, ?_, List.all_eq_true.mp blank⟩
    rw [clearBlankLine, if_pos blank, List.drop_nil, List.append_nil]
  · have cleared : clearBlankLine l = l := if_neg blank
    have written : l ≠ [] := by
      rintro rfl
      exact blank rfl
    have starts := margin_startsLine (List.mem_map_of_mem (f := clearBlankLine) hl) (cleared.symm ▸ written)
    rw [cleared] at starts ⊢
    obtain ⟨rest, split_line⟩ := starts.trans (List.takeWhile_prefix isIndent)
    refine ⟨margin (ls.map clearBlankLine), ?_, ?_⟩
    · rw [← split_line, List.drop_left]
    · intro c hc
      exact List.all_eq_true.mp List.all_takeWhile c (starts.mem hc)

/-- Lines that lose spaces and tabs at their starts. -/
theorem unindents_unlines {shorten : Line → Line} (ls : List Line)
    (each : ∀ l ∈ ls, ∃ indent, l = indent ++ shorten l ∧ ∀ c ∈ indent, isIndent c = true) :
    Unindents true (unlines ls) (unlines (ls.map shorten)) := by
  induction ls with
  | nil => exact .nil
  | cons l ls ih =>
    obtain ⟨indent, split_line, indents⟩ := each l (List.mem_cons_self ..)
    have rest := ih fun m hm => each m (List.mem_cons_of_mem l hm)
    cases ls with
    | nil =>
      have shortened : Unindents true (indent ++ shorten l) (shorten l) :=
        .dropped indents (.refl true (shorten l))
      rw [← split_line] at shortened
      exact shortened
    | cons m ls =>
      rw [List.map_cons, unlines_cons l (List.cons_ne_nil _ _), unlines_cons (shorten l) (by simp)]
      have shortened : Unindents true (indent ++ (shorten l ++ '\n' :: unlines (m :: ls)))
          (shorten l ++ '\n' :: unlines ((m :: ls).map shorten)) :=
        .dropped indents (.kept (shorten l) (.keep '\n' rest))
      rw [← List.append_assoc, ← split_line] at shortened
      exact shortened

/-- A text without its margin has lost spaces and tabs at the start of lines, nothing else. -/
theorem unindents_dedent (s : List Char) : Unindents true s (dedent s) := by
  have whole : dedentLines (lines s) = (lines s).map fun l =>
      (clearBlankLine l).drop (margin ((lines s).map clearBlankLine)).length := by
    rw [dedentLines, List.map_map]
    rfl
  have shortened := unindents_unlines (lines s) fun l hl => dedentLine hl
  rw [unlines_lines, ← whole] at shortened
  exact shortened

end Reckoner.Prompt
