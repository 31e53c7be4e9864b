import Reckoner.Proofs.Prompt.Margins
import Reckoner.Proofs.Prompt.Renderings

namespace Reckoner.Prompt

open Reckoner.Text

/-- A template taken apart: characters that stand for themselves, and fields that are names. -/
inductive Atom where
  | char (c : Char)
  | field (name : List Char)
  deriving DecidableEq, Repr

def isBrace (c : Char) : Bool :=
  c == '\x7b' || c == '\x7d'

theorem isBrace_iff {c : Char} : isBrace c = true ↔ c = '\x7b' ∨ c = '\x7d' := by
  simp only [isBrace, Bool.or_eq_true, beq_iff_eq]

/-- Braces that stand for themselves are doubled. -/
def Atom.source : Atom → List Char
  | .char c => if isBrace c then [c, c] else [c]
  | .field name => '\x7b' :: name ++ ['\x7d']

/-- How a template is written. -/
def source (atoms : List Atom) : List Char :=
  atoms.flatMap Atom.source

/-- The names of the fields, in order. -/
def namesIn (atoms : List Atom) : List String :=
  atoms.filterMap fun
    | .char _ => none
    | .field name => some (String.ofList name)

/-- The text with the values in the places of their names. -/
def filled (values : List (String × String)) (atoms : List Atom) : List Char :=
  atoms.flatMap fun
    | .char c => [c]
    | .field name => ((values.lookup (String.ofList name)).getD "").toList

/-- The characters that end a name or say something of it. -/
def marks : List Char :=
  ['\x7b', '\x7d', '.', '[', '!', ':']

/-- A name without marks, and not of digits alone. -/
structure Named (name : List Char) : Prop where
  nonempty : name ≠ []
  unnumbered : ∃ c ∈ name, isDigit c = false
  unmarked : ∀ c ∈ name, c ∉ marks

/-- A name whose digits in front, if there are any, are not too great for an index. -/
structure Bare (name : List Char) : Prop extends Named name where
  small : numberOf (name.takeWhile isDigit) ≤ greatestIndex

def Atom.IsBare : Atom → Prop
  | .char _ => True
  | .field name => Bare name

section

variable {name : List Char}

/-- A name that is not all digits is no index, but its digits in front are read. -/
theorem index?From_unnumbered (value : Nat) (unnumbered : ∃ c ∈ name, isDigit c = false)
    (small : (name.takeWhile isDigit).foldl (fun n c => 10 * n + (digitValue? c).getD 0) value ≤ greatestIndex) :
    index?From value name = .ok none := by
  have grows (digits : List Char) (n : Nat) :
      n ≤ digits.foldl (fun n c => 10 * n + (digitValue? c).getD 0) n := by
    induction digits generalizing n with
    | nil => exact Nat.le_refl n
    | cons c digits ih =>
      have step : n ≤ 10 * n + (digitValue? c).getD 0 := by omega
      exact Nat.le_trans step (ih _)
  induction name generalizing value with
  | nil => simp at unnumbered
  | cons c name ih =>
    unfold index?From
    cases digit : digitValue? c with
    | none => rfl
    | some d =>
      have isDigit_c : isDigit c = true := by rw [isDigit, digit]; rfl
      rw [List.takeWhile_cons_of_pos isDigit_c, List.foldl_cons, digit, Option.getD_some] at small
      have later : ∃ b ∈ name, isDigit b = false := by
        obtain ⟨b, hb, other⟩ := unnumbered
        rcases List.mem_cons.mp hb with rfl | hb
        · rw [isDigit_c] at other
          cases other
        · exact ⟨b, hb, other⟩
      dsimp only
      rw [if_neg (Nat.not_lt.mpr (Nat.le_trans (grows _ _) small))]
      exact ih (10 * value + d) later small

theorem Bare.index? (bare : Bare name) : index? name = .ok none := by
  have some_char : name.isEmpty = false := by simpa using bare.nonempty
  rw [Prompt.index?, some_char]
  exact index?From_unnumbered 0 bare.unnumbered bare.small

theorem Bare.simple (bare : Bare name) : ∀ c ∈ name, opensAccessor c = false := by
  intro c hc
  by_contra opens
  have either : c = '.' ∨ c = '[' := by
    simpa only [opensAccessor, Bool.not_eq_false, Bool.or_eq_true, beq_iff_eq] using opens
  rcases either with rfl | rfl <;> exact bare.unmarked _ hc (by decide)

/-- A field that is a bare name. -/
def Atom.toField (name : List Char) : Field :=
  ⟨name, none, []⟩

theorem Bare.plain (bare : Bare name) {names : List String} (declared : String.ofList name ∈ names) :
    (Atom.toField name).Plain names :=
  ⟨rfl, rfl, bare.simple, ⟨bare.index?, bare.nonempty⟩, declared⟩

/-- A name stays bare if its lines lose their indentation. -/
theorem Bare.unindents {shorter : List Char} (bare : Bare name) (h : Unindents false name shorter) :
    Bare shorter := by
  by_cases whole : '\n' ∈ name
  · have broken := h.newline_mem whole
    refine ⟨⟨List.ne_nil_of_mem broken, ⟨'\n', broken, by decide⟩, ?_⟩, ?_⟩
    · exact fun c hc => bare.unmarked c (h.sublist.subset hc)
    · rw [h.takeWhile_eq (by decide)]
      exact bare.small
  · rw [h.eq_of_unbroken whole]
    exact bare

end

theorem source_cons (a : Atom) (atoms : List Atom) : source (a :: atoms) = a.source ++ source atoms := rfl

/-- A template stays one without its margin. -/
theorem source_unindents {starts : Bool} {atoms : List Atom} (bare : ∀ a ∈ atoms, a.IsBare) {t : List Char}
    (h : Unindents starts (source atoms) t) :
    ∃ text, t = source text ∧ ∀ a ∈ text, a.IsBare := by
  induction atoms generalizing starts t with
  | nil =>
    cases h
    exact ⟨[], rfl, by simp⟩
  | cons a atoms ih =>
    have rest_bare : ∀ b ∈ atoms, b.IsBare := fun b hb => bare b (List.mem_cons_of_mem a hb)
    have goes_on {next : Bool} (kept : Atom) (kept_bare : kept.IsBare) {u : List Char}
        (rest : Unindents next (source atoms) u) :
        ∃ text, kept.source ++ u = source text ∧ ∀ b ∈ text, b.IsBare := by
      obtain ⟨text, rfl, text_bare⟩ := ih rest_bare rest
      exact ⟨kept :: text, rfl, List.forall_mem_cons.mpr ⟨kept_bare, text_bare⟩⟩
    rw [source_cons] at h
    cases a with
    | char c =>
      by_cases brace : isBrace c = true
      · have no_indent : isIndent c = false := by
          rcases isBrace_iff.mp brace with rfl | rfl <;> decide
        have doubled : (Atom.char c).source = [c, c] := if_pos brace
        rw [doubled] at h
        obtain ⟨_, rfl, second⟩ := h.keeps no_indent
        obtain ⟨_, rfl, rest⟩ := second.keeps no_indent
        have text := goes_on (.char c) trivial rest
        rw [doubled] at text
        exact text
      · have single : (Atom.char c).source = [c] := if_neg brace
        rw [single] at h
        cases h with
        | drop _ h => exact ih rest_bare h
        | keep _ h =>
          have text := goes_on (.char c) trivial h
          rw [single] at text
          exact text
    | field name =>
      have name_bare : Bare name := bare (.field name) (List.mem_cons_self ..)
      obtain ⟨_, _, _, rfl, whole, rest⟩ := h.append
      obtain ⟨_, rfl, behind⟩ := whole.keeps (by decide)
      obtain ⟨shorter, _, _, rfl, within, last⟩ := Unindents.append behind
      obtain ⟨_, rfl, none_left⟩ := last.keeps (by decide)
      cases none_left
      exact goes_on (.field shorter) (name_bare.unindents within) rest

/-- White space that is a part of a template. -/
def Atom.isBlank : Atom → Bool
  | .char c => Text.isBlank c
  | .field _ => false

theorem Atom.source_of_isBlank {a : Atom} (h : a.isBlank = true) :
    ∃ c, a.source = [c] ∧ Text.isBlank c = true := by
  cases a with
  | char c =>
    have no_brace : isBrace c = false := by
      by_contra brace
      rcases isBrace_iff.mp (Bool.not_eq_false _ ▸ brace) with rfl | rfl <;> cases h
    exact ⟨c, by simp [source, no_brace], h⟩
  | field name => cases h

/-- Anything else begins and ends with a character that is none. -/
theorem Atom.source_of_not_isBlank {a : Atom} (h : a.isBlank = false) :
    (∃ c rest, a.source = c :: rest ∧ Text.isBlank c = false) ∧
      ∃ c rest, a.source.reverse = c :: rest ∧ Text.isBlank c = false := by
  cases a with
  | char c =>
    by_cases brace : isBrace c = true
    · have doubled : (Atom.char c).source = [c, c] := if_pos brace
      rw [doubled]
      exact ⟨⟨c, [c], rfl, h⟩, c, [c], rfl, h⟩
    · have single : (Atom.char c).source = [c] := if_neg brace
      rw [single]
      exact ⟨⟨c, [], rfl, h⟩, c, [], rfl, h⟩
  | field name => exact ⟨⟨'\x7b', name ++ ['\x7d'], rfl, by decide⟩, '\x7d', name.reverse ++ ['\x7b'],
      by simp [source], by decide⟩

theorem dropWhile_source (atoms : List Atom) :
    (source atoms).dropWhile Text.isBlank = source (atoms.dropWhile Atom.isBlank) := by
  induction atoms with
  | nil => rfl
  | cons a atoms ih =>
    rw [source_cons]
    cases blank : a.isBlank with
    | true =>
      obtain ⟨c, single, hc⟩ := Atom.source_of_isBlank blank
      rw [single, List.singleton_append, List.dropWhile_cons_of_pos hc, List.dropWhile_cons_of_pos blank, ih]
    | false =>
      obtain ⟨⟨c, rest, starts, hc⟩, -⟩ := Atom.source_of_not_isBlank blank
      rw [List.dropWhile_cons_of_neg (by simp [blank]), source_cons, starts, List.cons_append,
        List.dropWhile_cons_of_neg (by simp [hc])]

theorem dropEndWhile_source (atoms : List Atom) :
    dropEndWhile Text.isBlank (source atoms) = source (atoms.reverse.dropWhile Atom.isBlank).reverse := by
  have reversed (atoms : List Atom) : (source atoms).reverse = atoms.reverse.flatMap (List.reverse ∘ Atom.source) :=
    List.reverse_flatMap ..
  have dropped (atoms : List Atom) : (atoms.flatMap (List.reverse ∘ Atom.source)).dropWhile Text.isBlank =
      (atoms.dropWhile Atom.isBlank).flatMap (List.reverse ∘ Atom.source) := by
    induction atoms with
    | nil => rfl
    | cons a atoms ih =>
      rw [List.flatMap_cons, Function.comp_apply]
      cases blank : a.isBlank with
      | true =>
        obtain ⟨c, single, hc⟩ := Atom.source_of_isBlank blank
        rw [single, List.reverse_singleton, List.singleton_append, List.dropWhile_cons_of_pos hc,
          List.dropWhile_cons_of_pos blank, ih]
      | false =>
        obtain ⟨-, c, rest, ends, hc⟩ := Atom.source_of_not_isBlank blank
        rw [List.dropWhile_cons_of_neg (by simp [blank]), List.flatMap_cons, Function.comp_apply, ends,
          List.cons_append, List.dropWhile_cons_of_neg (by simp [hc])]
  rw [dropEndWhile, reversed, dropped, List.reverse_eq_iff, reversed, List.reverse_reverse]

/-- The text of a template of literal text and bare names is one, too. -/
theorem exists_textOf {atoms : List Atom} (bare : ∀ a ∈ atoms, a.IsBare) :
    ∃ text, textOf (String.ofList (source atoms)) = source text ∧ ∀ a ∈ text, a.IsBare := by
  obtain ⟨outdented, same, outdented_bare⟩ := source_unindents bare (unindents_dedent (source atoms))
  refine ⟨((outdented.dropWhile Atom.isBlank).reverse.dropWhile Atom.isBlank).reverse, ?_, ?_⟩
  · rw [textOf, String.toList_ofList, same, trimBy, dropWhile_source, dropEndWhile_source]
  · intro a ha
    have within := (List.dropWhile_sublist _).subset (List.mem_reverse.mp ha)
    exact outdented_bare a ((List.dropWhile_sublist _).subset (List.mem_reverse.mp within))

/-- The pieces of a template behind literal text that is held in reverse. -/
def piecesFrom (literal : List Char) : List Atom → List Piece
  | [] => Scan.literalPiece literal
  | .char c :: rest => piecesFrom (c :: literal) rest
  | .field name :: rest => Scan.literalPiece literal ++ .field (Atom.toField name) :: piecesFrom [] rest

theorem run_name {name : List Char} (unmarked : ∀ c ∈ name, c ∉ marks) (before rest : List Char) :
    Scan.run (.name before) (name ++ '\x7d' :: rest) =
      (.field (Atom.toField (before.reverse ++ name)) :: (Scan.run (.literal []) rest).1,
        (Scan.run (.literal []) rest).2) := by
  induction name generalizing before with
  | nil => simp [Scan.run, Scan.step, Scan.stepName, Scan.fieldPiece, Atom.toField]
  | cons c name ih =>
    have later := ih (fun d hd => unmarked d (List.mem_cons_of_mem c hd)) (c :: before)
    have plain := unmarked c (List.mem_cons_self ..)
    simp only [marks, List.mem_cons, List.not_mem_nil, or_false, not_or] at plain
    obtain ⟨no_opening, no_closing, -, no_bracket, no_conversion, no_layout⟩ := plain
    rw [List.cons_append, Scan.run]
    simp only [Scan.step, Scan.stepName, no_opening, no_closing, no_bracket, no_conversion, no_layout, if_false,
      List.nil_append, later, List.reverse_cons, List.append_assoc, List.singleton_append]

/-- A field is taken as a whole. -/
theorem run_field {name : List Char} (bare : Bare name) (literal rest : List Char) :
    Scan.run (.literal literal) ('\x7b' :: name ++ '\x7d' :: rest) =
      (Scan.literalPiece literal ++ .field (Atom.toField name) :: (Scan.run (.literal []) rest).1,
        (Scan.run (.literal []) rest).2) := by
  obtain ⟨c, name, rfl⟩ := List.exists_cons_of_ne_nil bare.nonempty
  have named := run_name (fun d hd => bare.unmarked d (List.mem_cons_of_mem c hd)) [c] rest
  have plain := bare.unmarked c (List.mem_cons_self ..)
  simp only [marks, List.mem_cons, List.not_mem_nil, or_false, not_or] at plain
  obtain ⟨no_opening, no_closing, -, no_bracket, no_conversion, no_layout⟩ := plain
  rw [List.cons_append, List.cons_append, Scan.run]
  simp only [Scan.step, if_true, List.nil_append]
  rw [Scan.run]
  simp only [Scan.step, Scan.stepName, Except.map, no_opening, no_closing, no_bracket, no_conversion, no_layout,
    if_false, List.append_nil, named, List.reverse_singleton, List.singleton_append]

/-- A template is scanned to its pieces, with single braces for doubled ones. -/
theorem run_source {atoms : List Atom} (bare : ∀ a ∈ atoms, a.IsBare) (literal : List Char) :
    Scan.run (.literal literal) (source atoms) = (piecesFrom literal atoms, none) := by
  induction atoms generalizing literal with
  | nil => rfl
  | cons a atoms ih =>
    have rest := ih fun b hb => bare b (List.mem_cons_of_mem a hb)
    rw [source_cons]
    cases a with
    | char c =>
      by_cases brace : isBrace c = true
      · rcases isBrace_iff.mp brace with rfl | rfl
        · simp [Atom.source, isBrace, Scan.run, Scan.step, rest, piecesFrom]
        · simp [Atom.source, isBrace, Scan.run, Scan.step, rest, piecesFrom]
      · have plain : c ≠ '\x7b' ∧ c ≠ '\x7d' := by simpa [isBrace] using brace
        simp [Atom.source, brace, plain, Scan.run, Scan.step, rest, piecesFrom]
    | field name =>
      have whole : (Atom.field name).source ++ source atoms = '\x7b' :: name ++ '\x7d' :: source atoms := by
        simp [Atom.source]
      rw [whole, run_field (bare (.field name) (List.mem_cons_self ..)), rest]
      rfl

theorem scan_source {atoms : List Atom} (bare : ∀ a ∈ atoms, a.IsBare) :
    scan (source atoms) = (piecesFrom [] atoms, none) :=
  run_source bare []

theorem fieldNames_append (front rest : List Piece) :
    fieldNames (front ++ rest) = fieldNames front ++ fieldNames rest :=
  List.filterMap_append

theorem fieldNames_literal (literal : List Char) : fieldNames (Scan.literalPiece literal) = [] := by
  unfold Scan.literalPiece
  split <;> rfl

/-- The names that are used are those of the fields. -/
theorem fieldNames_piecesFrom {atoms : List Atom} (bare : ∀ a ∈ atoms, a.IsBare) (literal : List Char) :
    (fieldNames (piecesFrom literal atoms)).map String.ofList = namesIn atoms := by
  induction atoms generalizing literal with
  | nil => rw [piecesFrom, fieldNames_literal]; rfl
  | cons a atoms ih =>
    have rest := ih fun b hb => bare b (List.mem_cons_of_mem a hb)
    cases a with
    | char c => exact rest (c :: literal)
    | field name =>
      have named : Bare name := bare (.field name) (List.mem_cons_self ..)
      have first : fieldNames (.field (Atom.toField name) :: piecesFrom [] atoms) =
          name :: fieldNames (piecesFrom [] atoms) :=
        List.filterMap_cons_some (by simp [Atom.toField, named.nonempty])
      rw [piecesFrom, fieldNames_append, fieldNames_literal, List.nil_append, first, List.map_cons, rest]
      rfl

theorem sameNames_iff (declared used : List String) :
    sameNames declared used = true ↔ ∀ n, n ∈ declared ↔ n ∈ used := by
  simp only [sameNames, Bool.and_eq_true, List.all_eq_true, List.contains_iff_mem]
  exact ⟨fun h n => ⟨h.1 n, h.2 n⟩, fun h => ⟨fun n => (h n).mp, fun n => (h n).mpr⟩⟩

section

variable {text : List Atom} (bare : ∀ a ∈ text, a.IsBare) {id template : String} {declared : List String}
  (read : textOf template = source text)

include bare read

/-- A prompt is made exactly if the declared names are those in its text. -/
theorem make_source :
    make id template declared =
      if sameNames declared (namesIn text).eraseDups then .ok ⟨id, declared, String.ofList (source text)⟩
      else .error (.names id declared (namesIn text).eraseDups) := by
  have parsed : parse (source text) = .ok (piecesFrom [] text) := by
    rw [parse, scan_source bare]
  have used : usedNames (piecesFrom [] text) = (namesIn text).eraseDups := by
    rw [usedNames, fieldNames_piecesFrom bare]
  have unfolded : make id template declared = (parse (textOf template)).mapError .template >>= fun pieces =>
      if sameNames declared (usedNames pieces) then .ok ⟨id, declared, String.ofList (textOf template)⟩
      else .error (.names id declared (usedNames pieces)) := rfl
  rw [unfolded, read, parsed, ← used]
  rfl

end

section

variable {names : List String} {values : List (String × String)}

/-- Pieces are rendered with the values in the places of the names. -/
theorem renderPieces_piecesFrom (inner : List Char → Except RenderFault (List Char)) {atoms : List Atom}
    (bare : ∀ a ∈ atoms, a.IsBare) (given : ∀ n ∈ namesIn atoms, (values.lookup n).isSome = true)
    (literal : List Char) :
    renderPieces (renderField inner values) (piecesFrom literal atoms) =
      .ok (literal.reverse ++ filled values atoms) := by
  have behind {pieces : List Piece} {s : List Char}
      (rendered : renderPieces (renderField inner values) pieces = .ok s) (literal : List Char) :
      renderPieces (renderField inner values) (Scan.literalPiece literal ++ pieces) =
        .ok (literal.reverse ++ s) := by
    cases literal with
    | nil => exact rendered
    | cons c literal =>
      change renderPieces (renderField inner values) (.literal (c :: literal).reverse :: pieces) = _
      rw [renderPieces, rendered]
      rfl
  induction atoms generalizing literal with
  | nil =>
    rw [piecesFrom, ← List.append_nil (Scan.literalPiece literal)]
    exact behind rfl literal
  | cons a atoms ih =>
    have rest_bare : ∀ b ∈ atoms, b.IsBare := fun b hb => bare b (List.mem_cons_of_mem a hb)
    cases a with
    | char c =>
      rw [piecesFrom, ih rest_bare given (c :: literal), List.reverse_cons, List.append_assoc]
      rfl
    | field name =>
      have named : Bare name := bare (.field name) (List.mem_cons_self ..)
      have rest_given : ∀ n ∈ namesIn atoms, (values.lookup n).isSome = true :=
        fun n hn => given n (List.mem_cons_of_mem (String.ofList name) hn)
      obtain ⟨v, value⟩ := Option.isSome_iff_exists.mp
        (given (String.ofList name) (List.mem_cons_self ..))
      have plain := named.plain (List.mem_singleton_self (String.ofList name))
      have rest := ih rest_bare rest_given []
      refine behind ?_ literal
      rw [renderPieces, plain.render value inner, rest]
      change Except.ok (v.toList ++ filled values atoms) = .ok (filled values (.field name :: atoms))
      rw [filled, filled, List.flatMap_cons]
      simp only [value, Option.getD_some]

theorem filled_congr {others : List (String × String)} {atoms : List Atom}
    (same : ∀ n ∈ namesIn atoms, others.lookup n = values.lookup n) : filled others atoms = filled values atoms := by
  induction atoms with
  | nil => rfl
  | cons a atoms ih =>
    cases a with
    | char c => exact congrArg (c :: ·) (ih same)
    | field name =>
      have first := same (String.ofList name) (List.mem_cons_self ..)
      have rest := ih fun n hn => same n (List.mem_cons_of_mem (String.ofList name) hn)
      simp only [filled, List.flatMap_cons] at rest ⊢
      rw [first, rest]

/-- A prompt whose text has bare names that it declares is filled with their values. -/
theorem render_source {p : Prompt} {text : List Atom} (bare : ∀ a ∈ text, a.IsBare)
    (written : p.text = String.ofList (source text)) (declared : ∀ n ∈ namesIn text, n ∈ p.names)
    (given : Gives p.names values) : p.render values = .ok (String.ofList (filled values text)) := by
  have kept : ∀ n ∈ namesIn text, (valuesOf p.names values).lookup n = values.lookup n := by
    intro n hn
    exact lookup_filter_fst (by simpa using declared n hn)
  have pieces := renderPieces_piecesFrom (renderText (valuesOf p.names values) 0) bare
    (fun n hn => gives_valuesOf given n (declared n hn)) []
  have rendered : renderText (valuesOf p.names values) nesting p.text.toList = .ok (filled values text) := by
    rw [written, String.toList_ofList, nesting, renderText, renderWith, scan_source bare, pieces,
      filled_congr kept]
    rfl
  have present : p.missing values = [] := missing_eq_nil given
  rw [render, present]
  change (renderText (valuesOf p.names values) nesting p.text.toList).mapError _ >>= _ = _
  rw [rendered]
  rfl

/-- A name without a value is told, with all others that have none. -/
theorem render_missing {p : Prompt} (absent : ¬ Gives p.names values) :
    p.render values = .error (.missing p.id (p.names.filter fun n => (values.lookup n).isNone)) := by
  have some_name : (!(p.missing values).isEmpty) = true := by
    by_contra none_missing
    apply absent
    intro n hn
    have empty : p.missing values = [] := by simpa using none_missing
    have here := List.filter_eq_nil_iff.mp empty n hn
    simpa [Option.isSome_iff_ne_none] using here
  exact if_pos some_name

end

/-- Which prompts are made of a template whose text has these parts, and what they are rendered as: the values stand
in the places of the names as they are, and no other values count. -/
structure Substitutes (id template : String) (declared : List String) (text : List Atom) : Prop where
  made : (∃ p, make id template declared = .ok p) ↔ ∀ n, n ∈ declared ↔ n ∈ namesIn text
  missing : ∀ p, make id template declared = .ok p → ∀ values, ¬ Gives declared values →
    p.render values = .error (.missing id (declared.filter fun n => (values.lookup n).isNone))
  filled : ∀ p, make id template declared = .ok p → ∀ values, Gives declared values →
    p.render values = .ok (String.ofList (filled values text))
  others : ∀ p, make id template declared = .ok p → ∀ values values',
    (∀ n ∈ declared, values'.lookup n = values.lookup n) → p.render values' = p.render values

section

variable {text : List Atom} (bare : ∀ a ∈ text, a.IsBare) {id template : String} {declared : List String}
  (read : textOf template = source text)

include bare read

theorem made_iff : (∃ p, make id template declared = .ok p) ↔ ∀ n, n ∈ declared ↔ n ∈ namesIn text := by
  have same : sameNames declared (namesIn text).eraseDups = true ↔ ∀ n, n ∈ declared ↔ n ∈ namesIn text := by
    simp only [sameNames_iff, List.mem_eraseDups]
  rw [← same, make_source bare read]
  by_cases agree : sameNames declared (namesIn text).eraseDups = true
  · simp only [agree, if_true, Except.ok.injEq, exists_eq', iff_self]
  · simp only [agree, if_false, reduceCtorEq, exists_false, Bool.false_eq_true]

/-- What is made declares the names of its text. -/
theorem of_made {p : Prompt} (made : make id template declared = .ok p) :
    p = ⟨id, declared, String.ofList (source text)⟩ ∧ ∀ n, n ∈ declared ↔ n ∈ namesIn text := by
  have agree := (made_iff bare read).mp ⟨p, made⟩
  have same : sameNames declared (namesIn text).eraseDups = true := by
    simpa only [sameNames_iff, List.mem_eraseDups] using agree
  rw [make_source bare read, if_pos same] at made
  exact ⟨(Except.ok.inj made).symm, agree⟩

theorem substitutes : Substitutes id template declared text where
  made := made_iff bare read
  missing := by
    intro p made values absent
    obtain ⟨rfl, -⟩ := of_made bare read made
    exact render_missing absent
  filled := by
    intro p made values given
    obtain ⟨rfl, agree⟩ := of_made bare read made
    exact render_source bare rfl (fun n hn => (agree n).mpr hn) given
  others := by
    intro p made values values' same
    obtain ⟨rfl, agree⟩ := of_made bare read made
    have present : Gives declared values' ↔ Gives declared values :=
      forall₂_congr fun n hn => by rw [same n hn]
    by_cases given : Gives declared values
    · have declares : ∀ n ∈ namesIn text, n ∈ declared := fun n hn => (agree n).mpr hn
      rw [render_source bare rfl declares (present.mpr given), render_source bare rfl declares given,
        filled_congr fun n hn => same n (declares n hn)]
    · have absent : declared.filter (fun n => (values'.lookup n).isNone) =
          declared.filter fun n => (values.lookup n).isNone :=
        List.filter_congr fun n hn => by rw [same n hn]
      rw [render_missing (mt present.mp given), render_missing given, absent]

end

/-- A template of literal text and bare names has a text of the same kind, and its rendering is the substitution of the
values for the names in that text. -/
theorem render_substitutes {atoms : List Atom} (bare : ∀ a ∈ atoms, a.IsBare) (id : String)
    (declared : List String) : ∃ text, textOf (String.ofList (source atoms)) = source text ∧
      (∀ a ∈ text, a.IsBare) ∧ Substitutes id (String.ofList (source atoms)) declared text := by
  obtain ⟨text, read, text_bare⟩ := exists_textOf bare
  exact ⟨text, read, text_bare, substitutes text_bare read⟩

/-- A name over two lines behind a brace that stands for itself, and one that begins with a digit, with a margin. -/
def letter : List Atom :=
  [.char '\n', .char ' ', .char '\x7b', .field ['a', '\n', ' ', 'b'], .char '\n', .char ' ', .field ['2', 'x'],
    .char ' ']

theorem render_substitutes_letter : (∀ a ∈ letter, a.IsBare) ∧
    ∃ text, textOf (String.ofList (source letter)) = source text ∧ (∀ a ∈ text, a.IsBare) ∧
      Substitutes "letter" (String.ofList (source letter)) ["2x", "a\nb"] text := by
  have two_lines : Bare ['a', '\n', ' ', 'b'] := ⟨⟨by decide, ⟨'a', by simp, by decide⟩, by simp [marks]⟩, by decide⟩
  have numbered : Bare ['2', 'x'] := ⟨⟨by decide, ⟨'x', by simp, by decide⟩, by simp [marks]⟩, by decide⟩
  have bare : ∀ a ∈ letter, a.IsBare := by simp [letter, Atom.IsBare, two_lines, numbered]
  exact ⟨bare, render_substitutes bare "letter" ["2x", "a\nb"]⟩

/-- A value that looks like a field is not looked into. -/
example : (make "letter" (String.ofList (source letter)) ["2x", "a\nb"]).toOption.map
    (·.render [("a\nb", " \x7b2x\x7d"), ("2x", "two")]) = some (.ok "\x7b \x7b2x\x7d\ntwo") := by
  decide +kernel

/-- A name that is not of digits alone, and is declared and given, but begins with a number that no index can be. -/
theorem huge_number_in_name :
    Named "99999999999999999999x".toList ∧
      make "p" "\x7b99999999999999999999x\x7d" ["99999999999999999999x"] =
        .ok ⟨"p", ["99999999999999999999x"], "\x7b99999999999999999999x\x7d"⟩ ∧
      Gives ["99999999999999999999x"] [("99999999999999999999x", "v")] ∧
      render ⟨"p", ["99999999999999999999x"], "\x7b99999999999999999999x\x7d"⟩
        [("99999999999999999999x", "v")] = .error (.fault (.path .hugeIndex)) := by
  refine ⟨⟨by decide, ⟨'x', by simp, by decide⟩, by simp [marks]⟩, by decide +kernel, ?_, by decide +kernel⟩
  intro n hn
  obtain rfl := List.mem_singleton.mp hn
  rfl

end Reckoner.Prompt
