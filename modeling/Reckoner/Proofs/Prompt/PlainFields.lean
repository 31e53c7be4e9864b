import Reckoner.Prompt.Basic
import Mathlib.Data.List.TakeWhile

namespace Reckoner.Prompt

/-- A field that is filled with the value of its name as it is. -/
structure Field.Plain (names : List String) (f : Field) : Prop where
  conversion : f.conversion = none
  layout : f.layout = []
  simple : ∀ c ∈ f.name, opensAccessor c = false
  named : index? f.name = .ok none ∧ f.name ≠ []
  declared : String.ofList f.name ∈ names

def Piece.isPlain (names : List String) : Piece → Bool
  | .literal _ => true
  | .field f =>
    f.conversion == none && f.layout == [] && f.name.all (!opensAccessor ·) &&
      (match index? f.name with
        | .ok none => true
        | _ => false) && f.name != [] && names.contains (String.ofList f.name)

/-- A text is a template whose fields are plain. -/
def plainText (names : List String) (s : List Char) : Bool :=
  (scan s).2 == none && (scan s).1.all (Piece.isPlain names)

def isPlain (p : Prompt) : Bool :=
  plainText p.names p.text.toList

section

variable {names : List String} {f : Field} {values : List (String × String)}

theorem Field.plain_of_isPlain (h : (Piece.field f).isPlain names = true) : f.Plain names := by
  simp only [Piece.isPlain, Bool.and_eq_true, beq_iff_eq, List.all_eq_true, Bool.not_eq_true',
    bne_iff_ne, ne_eq, List.contains_iff_mem] at h
  obtain ⟨⟨⟨⟨⟨conversion, layout⟩, simple⟩, named⟩, nonempty⟩, declared⟩ := h
  refine ⟨conversion, layout, simple, ⟨?_, nonempty⟩, declared⟩
  split at named
  · assumption
  · simp at named

theorem takeWhile_simple {s : List Char} (simple : ∀ c ∈ s, opensAccessor c = false) :
    s.takeWhile (!opensAccessor ·) = s := by
  apply List.takeWhile_eq_self_iff.mpr
  intro c hc
  simp [simple c hc]

theorem dropWhile_simple {s : List Char} (simple : ∀ c ∈ s, opensAccessor c = false) :
    s.dropWhile (!opensAccessor ·) = [] := by
  apply List.dropWhile_eq_nil_iff.mpr
  intro c hc
  simp [simple c hc]

/-- A bare name stands for its value. -/
theorem Field.Plain.resolve (h : f.Plain names) {s : String}
    (given : values.lookup (String.ofList f.name) = some s) : resolve values f.name = .ok s := by
  obtain ⟨index, nonempty⟩ := h.named
  have some_name : f.name.isEmpty = false := by simpa using nonempty
  simp [Prompt.resolve, takeWhile_simple h.simple, dropWhile_simple h.simple, index, some_name, given,
    follow, bind, Except.bind]

theorem Field.Plain.render (h : f.Plain names) {s : String}
    (given : values.lookup (String.ofList f.name) = some s)
    (inner : List Char → Except RenderFault (List Char)) :
    renderField inner values f = .ok s.toList := by
  simp [renderField, h.resolve given, h.conversion, h.layout, convert, layOut, bind, Except.bind, pure,
    Except.pure, Except.mapError]

/-- Plain pieces have a rendering if all names have values. -/
theorem renderPieces_plain {pieces : List Piece} (plain : ∀ p ∈ pieces, p.isPlain names = true)
    (given : ∀ n ∈ names, (values.lookup n).isSome = true)
    (inner : List Char → Except RenderFault (List Char)) :
    ∃ s, renderPieces (renderField inner values) pieces = .ok s := by
  induction pieces with
  | nil => exact ⟨[], rfl⟩
  | cons p rest ih =>
    obtain ⟨after, rendered⟩ := ih fun q hq => plain q (List.mem_cons_of_mem p hq)
    cases p with
    | literal s => exact ⟨s ++ after, by rw [renderPieces, rendered]; rfl⟩
    | field f =>
      have bare := Field.plain_of_isPlain (plain _ List.mem_cons_self)
      obtain ⟨s, value⟩ := Option.isSome_iff_exists.mp (given _ bare.declared)
      exact ⟨s.toList ++ after, by rw [renderPieces, bare.render value, rendered]; rfl⟩

theorem lookup_filter_fst {keep : String → Bool} {n : String} (kept : keep n = true) :
    (values.filter fun v => keep v.1).lookup n = values.lookup n := by
  induction values with
  | nil => rfl
  | cons v rest ih =>
    obtain ⟨m, s⟩ := v
    rw [List.filter_cons]
    by_cases same : n = m
    · subst same
      simp [kept]
    · have other : (n == m) = false := by simpa using same
      split
      · rw [List.lookup_cons, List.lookup_cons, other, ih]
      · rw [List.lookup_cons, other, ih]

end

theorem missing_eq_nil {p : Prompt} {values : List (String × String)}
    (given : ∀ n ∈ p.names, (values.lookup n).isSome = true) : p.missing values = [] := by
  apply List.filter_eq_nil_iff.mpr
  intro n hn
  simpa [Option.isSome_iff_ne_none] using given n hn

/-- A plain prompt has a rendering if all its names have values. -/
theorem render_of_isPlain {p : Prompt} {values : List (String × String)} (plain : p.isPlain = true)
    (given : ∀ n ∈ p.names, (values.lookup n).isSome = true) :
    p.render values = .ok (p.fill values) := by
  simp only [isPlain, plainText, Bool.and_eq_true, beq_iff_eq, List.all_eq_true] at plain
  have present : p.missing values = [] := missing_eq_nil given
  have declared : ∀ n ∈ p.names,
      ((values.filter fun v => p.names.contains v.1).lookup n).isSome = true := by
    intro n hn
    rw [lookup_filter_fst (by simpa using hn)]
    exact given n hn
  obtain ⟨s, rendered⟩ := renderPieces_plain plain.2 declared
    (renderText (values.filter fun v => p.names.contains v.1) 0)
  have text : renderText (values.filter fun v => p.names.contains v.1) nesting p.text.toList =
      .ok s := by
    rw [nesting, renderText, renderWith, rendered, plain.1]
    rfl
  have some_text : p.render values = .ok (String.ofList s) := by
    rw [render, present]
    show (renderText _ _ _).mapError _ >>= _ = _
    rw [text]
    rfl
  rw [fill, some_text]

/-- A text that is given as its characters is not decoded before it is looked at. -/
theorem isPlain_of_chars {p : Prompt} (h : ∃ s, p.text = String.ofList s ∧ plainText p.names s = true) :
    p.isPlain = true := by
  obtain ⟨s, text, plain⟩ := h
  rw [isPlain, text, String.toList_ofList]
  exact plain

set_option maxRecDepth 8000 in
theorem isPlain_extraction : extraction.isPlain = true := by
  apply isPlain_of_chars
  refine ⟨_, rfl, ?_⟩
  decide +kernel

set_option maxRecDepth 8000 in
theorem isPlain_formatting : formatting.isPlain = true := by
  apply isPlain_of_chars
  refine ⟨_, rfl, ?_⟩
  decide +kernel

end Reckoner.Prompt
