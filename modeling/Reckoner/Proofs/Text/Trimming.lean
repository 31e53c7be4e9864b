import Reckoner.Text.Blank
import Mathlib.Data.List.TakeWhile

namespace Reckoner.Text

/-- The characters of white space, one by one. -/
def blanks : List Char :=
  ([9, 10, 11, 12, 13, 28, 29, 30, 31, 32, 0x85, 0xA0, 0x1680, 0x2000, 0x2001, 0x2002, 0x2003, 0x2004, 0x2005,
    0x2006, 0x2007, 0x2008, 0x2009, 0x200A, 0x2028, 0x2029, 0x202F, 0x205F, 0x3000]).map Char.ofNat

theorem mem_blanks {c : Char} (h : isBlank c = true) : c ∈ blanks := by
  refine List.mem_map.mpr ⟨c.toNat, ?_, Char.ofNat_toNat c⟩
  simp only [isBlank, Bool.or_eq_true, Bool.and_eq_true, decide_eq_true_eq, beq_iff_eq] at h
  simp only [List.mem_cons, List.not_mem_nil, or_false]
  omega

theorem blank_append (s t : String) : blank (s ++ t) = (blank s && blank t) := by
  simp [blank]

theorem all_dropWhile (p : Char → Bool) (s : List Char) : (s.dropWhile p).all p = s.all p := by
  induction s with
  | nil => rfl
  | cons c rest ih =>
    rw [List.dropWhile_cons]
    by_cases hc : p c
    · rw [if_pos hc, ih, List.all_cons, hc, Bool.true_and]
    · rw [if_neg hc]

theorem all_dropEndWhile (p : Char → Bool) (s : List Char) :
    (dropEndWhile p s).all p = s.all p := by
  rw [dropEndWhile, List.all_reverse, all_dropWhile, List.all_reverse]

theorem blank_trimEnd (s : String) : blank (trimEnd s) = blank s := by
  rw [blank, trimEnd, String.toList_ofList, all_dropEndWhile, blank]

theorem blank_trim (s : String) : blank (trim s) = blank s := by
  rw [blank, trim, String.toList_ofList, trimBy, all_dropEndWhile, all_dropWhile, blank]

/-- Trimming leaves nothing, or something that is not blank. -/
theorem blank_of_trim {s : String} (h : (trim s).isEmpty = false) : blank (trim s) = false := by
  rw [blank_trim]
  cases hb : blank s with
  | false => rfl
  | true =>
    have all : ∀ c ∈ s.toList, isBlank c = true := by simpa [blank] using hb
    have gone : s.toList.dropWhile isBlank = [] := List.dropWhile_eq_nil_iff.mpr all
    rw [trim, trimBy, gone, dropEndWhile_nil] at h
    simp at h

theorem isEmpty_trim (s : String) : (trim s).isEmpty = blank s := by
  rw [← blank_trim]
  cases empty : (trim s).isEmpty with
  | true =>
    rw [String.isEmpty_iff.mp empty]
    rfl
  | false => rw [blank_of_trim empty]

theorem dropEndWhile_append (p : Char → Bool) (s t : List Char) :
    dropEndWhile p (s ++ t) = if t.all p then dropEndWhile p s else s ++ dropEndWhile p t := by
  rw [dropEndWhile, List.reverse_append, List.dropWhile_append]
  have gone : (t.reverse.dropWhile p).isEmpty = t.all p := by
    rw [Bool.eq_iff_iff, List.isEmpty_iff, List.dropWhile_eq_nil_iff, List.all_eq_true]
    simp only [List.mem_reverse]
  rw [gone]
  split
  · rfl
  · rw [List.reverse_append, List.reverse_reverse, dropEndWhile]

/-- A text that does not end in white space stays in front of what is behind it. -/
theorem trimEnd_append {s : String} (solid : trimEnd s = s) (t : String) :
    ∃ after, trimEnd (s ++ t) = s ++ after := by
  rw [trimEnd, String.toList_append, dropEndWhile_append]
  split
  · exact ⟨"", by rw [String.append_empty]; exact solid⟩
  · exact ⟨String.ofList (dropEndWhile isBlank t.toList), by rw [String.ofList_append, String.ofList_toList]⟩

section Parts

variable {p : Char → Bool} {s x : List Char}

theorem head?_dropWhile (p : Char → Bool) (s : List Char) : ∀ c ∈ (s.dropWhile p).head?, p c = false := by
  intro c hc
  have stopped := List.head?_dropWhile_not p s
  rw [Option.mem_def.mp hc] at stopped
  exact stopped

theorem dropWhile_eq_cons_iff {c : Char} {t : List Char} : s.dropWhile p = c :: t ↔
    p c = false ∧ ∃ a, s = a ++ c :: t ∧ ∀ d ∈ a, p d = true := by
  constructor
  · intro h
    refine ⟨head?_dropWhile p s c (by rw [h]; rfl), s.takeWhile p, ?_, fun d hd => List.mem_takeWhile_imp hd⟩
    rw [← h, List.takeWhile_append_dropWhile]
  · rintro ⟨other, a, rfl, before⟩
    rw [List.dropWhile_append_of_pos before, List.dropWhile_cons_of_neg (by simp [other])]

/-- What is left does not end in the class. -/
theorem getLast?_dropEndWhile (p : Char → Bool) (s : List Char) :
    ∀ c ∈ (dropEndWhile p s).getLast?, p c = false := by
  rw [dropEndWhile, List.getLast?_reverse]
  exact head?_dropWhile p s.reverse

/-- Nothing is cut off a text that does not end in the class. -/
theorem dropEndWhile_eq_self (ends : ∀ c ∈ s.getLast?, p c = false) : dropEndWhile p s = s := by
  have kept : s.reverse.dropWhile p = s.reverse := by
    cases h : s.reverse with
    | nil => rfl
    | cons c rest =>
      have last : s.getLast? = some c := by rw [← List.head?_reverse, h, List.head?_cons]
      rw [List.dropWhile_cons_of_neg]
      rw [ends c last]
      exact Bool.false_ne_true
  rw [dropEndWhile, kept, List.reverse_reverse]

theorem dropEndWhile_split (p : Char → Bool) (s : List Char) :
    ∃ b, s = dropEndWhile p s ++ b ∧ ∀ c ∈ b, p c = true := by
  refine ⟨(s.reverse.takeWhile p).reverse, ?_, ?_⟩
  · rw [dropEndWhile, ← List.reverse_append, List.takeWhile_append_dropWhile, List.reverse_reverse]
  · intro c hc
    exact List.mem_takeWhile_imp (List.mem_reverse.mp hc)

/-- Only characters of the class are cut off, at both ends. -/
theorem trimBy_split (p : Char → Bool) (s : List Char) :
    ∃ a b, s = a ++ (trimBy p s ++ b) ∧ (∀ c ∈ a, p c = true) ∧ ∀ c ∈ b, p c = true := by
  obtain ⟨b, hb, after⟩ := dropEndWhile_split p (s.dropWhile p)
  refine ⟨s.takeWhile p, b, ?_, fun c hc => List.mem_takeWhile_imp hc, after⟩
  rw [trimBy, ← hb, List.takeWhile_append_dropWhile]

/-- A text with a first and a last character, neither of which is of the class. -/
structure Solid (p : Char → Bool) (x : List Char) : Prop where
  first : ∃ c, x.head? = some c ∧ p c = false
  last : ∃ c, x.getLast? = some c ∧ p c = false

theorem Solid.ne_nil (h : Solid p x) : x ≠ [] := by
  rintro rfl
  obtain ⟨c, hc, -⟩ := h.first
  cases hc

theorem Solid.reverse (h : Solid p x) : Solid p x.reverse where
  first := by
    rw [List.head?_reverse]
    exact h.last
  last := by
    rw [List.getLast?_reverse]
    exact h.first

theorem Solid.infix_of_append {a : List Char} (h : Solid p x) (class_before : ∀ c ∈ a, p c = true)
    (within : x <:+: a ++ s) : x <:+: s := by
  induction a with
  | nil => exact within
  | cons c a ih =>
    rcases List.infix_cons_iff.mp within with begins | later
    · obtain ⟨d, hd, other⟩ := h.first
      obtain ⟨y, rfl⟩ := List.head?_eq_some_iff.mp hd
      obtain ⟨rfl, -⟩ := List.cons_prefix_cons.mp begins
      rw [class_before d (List.mem_cons_self ..)] at other
      cases other
    · exact ih (fun d hd => class_before d (List.mem_cons_of_mem c hd)) later

/-- Between characters of the class a solid text stands only where it stands without them. -/
theorem Solid.infix_between {a b : List Char} (h : Solid p x) (class_before : ∀ c ∈ a, p c = true)
    (class_after : ∀ c ∈ b, p c = true) (within : x <:+: a ++ (s ++ b)) : x <:+: s := by
  have front := h.infix_of_append class_before within
  rw [← List.reverse_infix, List.reverse_append] at front
  rw [← List.reverse_infix]
  exact h.reverse.infix_of_append (fun c hc => class_after c (List.mem_reverse.mp hc)) front

theorem Solid.infix_trimBy_iff (h : Solid p x) : x <:+: trimBy p s ↔ x <:+: s := by
  obtain ⟨a, b, split, before, after⟩ := trimBy_split p s
  constructor
  · intro within
    rw [split]
    exact within.trans ⟨a, b, by rw [List.append_assoc]⟩
  · intro within
    rw [split] at within
    exact h.infix_between before after within

end Parts

end Reckoner.Text
