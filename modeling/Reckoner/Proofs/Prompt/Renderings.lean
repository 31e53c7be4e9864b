import Reckoner.Proofs.Outcomes
import Reckoner.Proofs.Prompt.PlainFields

namespace Reckoner.Prompt

open Reckoner.Text

/-- Every name has a value. -/
def Gives (names : List String) (values : List (String × String)) : Prop :=
  ∀ n ∈ names, (values.lookup n).isSome = true

/-- The values of the names, without others. -/
def valuesOf (names : List String) (values : List (String × String)) : List (String × String) :=
  values.filter fun v => names.contains v.1

/-- The name in front of the accessors. -/
def Field.base (f : Field) : List Char :=
  f.name.takeWhile (!opensAccessor ·)

def Field.accessors (f : Field) : List Char :=
  f.name.dropWhile (!opensAccessor ·)

/-- The fields of a template, without those in their layouts. -/
def fieldsOf (s : List Char) : List Field :=
  (scan s).1.filterMap fun
    | .field f => some f
    | .literal _ => none

/-- A layout that says nothing that only numbers can have. -/
structure Layout.OfText (l : Layout) : Prop where
  type : l.type = 's'
  sign : l.sign = none
  unsignedZero : l.unsignedZero = false
  alternate : l.alternate = false
  alignment : l.alignment ≠ .padded

/-- Texts can be laid out so. -/
def Suits (layout : List Char) : Prop :=
  layout = [] ∨ ∃ l, Layout.parse layout = .ok l ∧ l.OfText

/-- A field that takes a value of one of the names, none of its characters alone, and converts it if it does in a known
way. -/
structure Field.Takes (names : List String) (f : Field) : Prop where
  nonempty : f.base ≠ []
  unnumbered : index? f.base = .ok none
  declared : String.ofList f.base ∈ names
  unindexed : f.accessors.head? ≠ some '['
  conversion : f.conversion ∈ [none, some 's', some 'r', some 'a']

/-- What a layout without fields or one with fields has to be. -/
inductive Field.Fits (names : List String) (f : Field) : Prop where
  | plain (closed : '\x7b' ∉ f.layout) (suits : Suits f.layout)
  | nested (opened : '\x7b' ∈ f.layout) (whole : (scan f.layout).2 = none)
      (takes : ∀ g ∈ fieldsOf f.layout, g.Takes names)
      (fits : ∀ g ∈ fieldsOf f.layout, '\x7b' ∉ g.layout ∧ Suits g.layout)
      (suits : ∀ values, Gives names values → ∀ s,
        renderText (valuesOf names values) 0 f.layout = .ok s → Suits s)

section

variable {names : List String} {values : List (String × String)} {f : Field}

theorem Layout.apply_ok_iff (l : Layout) (s : List Char) : (∃ t, l.apply s = .ok t) ↔ l.OfText := by
  constructor
  · rintro ⟨t, applied⟩
    unfold apply at applied
    have type : l.type = 's' := by
      by_contra other
      rw [if_pos other] at applied
      cases applied
    rw [if_neg (not_not.mpr type)] at applied
    cases sign : l.sign with
    | some c =>
      rw [sign] at applied
      cases applied
    | none =>
      rw [sign] at applied
      have unsignedZero : l.unsignedZero = false := by
        by_contra asked
        rw [if_pos (by simpa using asked)] at applied
        cases applied
      rw [if_neg (by simp [unsignedZero])] at applied
      have alternate : l.alternate = false := by
        by_contra asked
        rw [if_pos (by simpa using asked)] at applied
        cases applied
      rw [if_neg (by simp [alternate])] at applied
      have alignment : l.alignment ≠ .padded := by
        intro padded
        rw [if_pos padded] at applied
        cases applied
      exact ⟨type, sign, unsignedZero, alternate, alignment⟩
  · rintro ⟨type, sign, unsignedZero, alternate, alignment⟩
    simp [apply, type, sign, unsignedZero, alternate, alignment, pure, Except.pure]

theorem layOut_ok_iff (layout s : List Char) : (∃ t, layOut layout s = .ok t) ↔ Suits layout := by
  unfold layOut Suits
  cases layout with
  | nil => simp [pure, Except.pure]
  | cons c rest =>
    simp only [List.isEmpty_cons, Bool.false_eq_true, if_false, reduceCtorEq, false_or]
    constructor
    · rintro ⟨t, laid⟩
      obtain ⟨l, parsed, applied⟩ := bind_eq_ok.mp laid
      exact ⟨l, parsed, (l.apply_ok_iff s).mp ⟨t, applied⟩⟩
    · rintro ⟨l, parsed, ofText⟩
      obtain ⟨t, applied⟩ := (l.apply_ok_iff s).mpr ofText
      exact ⟨t, bind_eq_ok.mpr ⟨l, parsed, applied⟩⟩

theorem convert_ok_iff (conversion : Option Char) (s : String) :
    (∃ t, convert conversion s = .ok t) ↔ conversion ∈ [none, some 's', some 'r', some 'a'] := by
  unfold convert
  split <;> simp_all

/-- What follows a name is nothing, an attribute or an index. -/
theorem Field.accessors_cases (f : Field) :
    f.accessors = [] ∨ f.accessors.head? = some '.' ∨ f.accessors.head? = some '[' := by
  cases found : f.accessors with
  | nil => exact Or.inl rfl
  | cons c rest =>
    have opens := List.head?_dropWhile_not (!opensAccessor ·) f.name
    rw [← accessors, found] at opens
    have either : c = '.' ∨ c = '[' := by
      simpa [opensAccessor, or_iff_not_imp_left] using opens
    rcases either with rfl | rfl
    · exact Or.inr (Or.inl rfl)
    · exact Or.inr (Or.inr rfl)

/-- What a name stands for, if it is neither empty nor a number. -/
theorem resolve_of_named (nonempty : f.base ≠ []) (unnumbered : index? f.base = .ok none) :
    resolve values f.name =
      match values.lookup (String.ofList f.base) with
      | none => .error (.unknownName (String.ofList f.base))
      | some v => follow (f.accessors.length + 1) v f.accessors := by
  have named : f.base.isEmpty = false := by simpa using nonempty
  unfold resolve
  change (index? f.base >>= fun index => _) = _
  rw [unnumbered]
  change (if (f.base.isEmpty || false) = true then _ else _) = _
  rw [named]
  rfl

/-- A name stands for what its accessors find in the value in front of them. -/
theorem resolve_eq_ok {s : String} : resolve values f.name = .ok s ↔
    f.base ≠ [] ∧ index? f.base = .ok none ∧ ∃ v, values.lookup (String.ofList f.base) = some v ∧
      follow (f.accessors.length + 1) v f.accessors = .ok s := by
  constructor
  · intro resolved
    have positive : f.base ≠ [] ∧ index? f.base = .ok none := by
      unfold resolve at resolved
      change (index? f.base >>= fun index => if (f.base.isEmpty || index.isSome) = true then _ else _) =
        .ok s at resolved
      obtain ⟨index, indexed, resolved⟩ := bind_eq_ok.mp resolved
      by_cases positional : (f.base.isEmpty || index.isSome) = true
      · rw [if_pos positional] at resolved
        cases resolved
      · obtain ⟨nonempty, unnumbered⟩ : f.base ≠ [] ∧ index = none := by simpa using positional
        exact ⟨nonempty, unnumbered ▸ indexed⟩
    obtain ⟨nonempty, unnumbered⟩ := positive
    rw [resolve_of_named nonempty unnumbered] at resolved
    cases value : values.lookup (String.ofList f.base) with
    | none =>
      rw [value] at resolved
      cases resolved
    | some v =>
      rw [value] at resolved
      exact ⟨nonempty, unnumbered, v, rfl, resolved⟩
  · rintro ⟨nonempty, unnumbered, v, value, followed⟩
    rw [resolve_of_named nonempty unnumbered, value]
    exact followed

/-- A name that takes a value as a whole stands for it. -/
theorem Field.Takes.resolve (takes : f.Takes names) (unread : f.accessors.head? ≠ some '.')
    (given : Gives names values) : ∃ s, resolve values f.name = .ok s := by
  obtain ⟨v, value⟩ := Option.isSome_iff_exists.mp (given _ takes.declared)
  have whole : f.accessors = [] := by
    rcases f.accessors_cases with whole | member | index
    · exact whole
    · exact absurd member unread
    · exact absurd index takes.unindexed
  refine ⟨v, resolve_eq_ok.mpr ⟨takes.nonempty, takes.unnumbered, v, value, ?_⟩⟩
  rw [whole]
  rfl

/-- Every name has the empty text as its value. -/
def blanks (names : List String) : List (String × String) :=
  names.map fun n => (n, "")

theorem lookup_blanks (names : List String) (n : String) :
    (blanks names).lookup n = if n ∈ names then some "" else none := by
  induction names with
  | nil => rfl
  | cons m rest ih =>
    change List.lookup n ((m, "") :: blanks rest) = _
    rw [List.lookup_cons, ih]
    by_cases same : n = m
    · subst same
      simp
    · have other : (n == m) = false := by simpa using same
      rw [other]
      simp [same]

theorem gives_blanks (names : List String) : Gives names (blanks names) := by
  intro n hn
  rw [lookup_blanks, if_pos hn]
  rfl

theorem valuesOf_blanks (names : List String) : valuesOf names (blanks names) = blanks names := by
  apply List.filter_eq_self.mpr
  intro v hv
  obtain ⟨n, hn, rfl⟩ := List.mem_map.mp hv
  simpa using hn

theorem gives_valuesOf (given : Gives names values) : Gives names (valuesOf names values) := by
  intro n hn
  rw [valuesOf, lookup_filter_fst (by simpa using hn)]
  exact given n hn

/-- The empty text has no character to be read. -/
theorem follow_blank (turns : Nat) (rest : List Char) (s : String) :
    follow (turns + 1) "" ('[' :: rest) ≠ .ok s := by
  intro followed
  rw [follow] at followed
  cases closing : rest.dropWhile (· != ']') with
  | nil =>
    rw [closing] at followed
    cases followed
  | cons _ after =>
    rw [closing] at followed
    obtain ⟨index, -, followed⟩ := bind_eq_ok.mp followed
    by_cases unnamed : (rest.takeWhile (· != ']')).isEmpty = true
    · rw [if_pos unnamed] at followed
      cases followed
    · rw [if_neg unnamed] at followed
      cases index with
      | none => cases followed
      | some n => cases followed

/-- A field that can do with empty texts asks for a named value as a whole. -/
theorem takes_of_resolve {s : String} (resolved : resolve (blanks names) f.name = .ok s)
    (conversion : f.conversion ∈ [none, some 's', some 'r', some 'a']) : f.Takes names := by
  obtain ⟨nonempty, unnumbered, v, value, followed⟩ := resolve_eq_ok.mp resolved
  rw [lookup_blanks] at value
  by_cases declared : String.ofList f.base ∈ names
  · rw [if_pos declared] at value
    obtain rfl := Option.some.inj value
    refine ⟨nonempty, unnumbered, declared, ?_, conversion⟩
    intro indexed
    cases accessors : f.accessors with
    | nil => simp [accessors] at indexed
    | cons c rest =>
      obtain rfl : c = '[' := by simpa [accessors] using indexed
      rw [accessors] at followed
      exact follow_blank _ rest s followed
  · rw [if_neg declared] at value
    cases value

theorem renderField_eq (inner : List Char → Except RenderFault (List Char))
    (values : List (String × String)) (f : Field) : renderField inner values f =
      (resolve values f.name).mapError .path >>= fun value => convert f.conversion value >>= fun converted =>
        (if f.layout.contains '\x7b' then inner f.layout else .ok f.layout) >>= fun l =>
          (layOut l converted.toList).mapError .layout := by
  unfold renderField
  split <;> rfl

/-- A field is filled if its name is resolved, its conversion known, and its layout suits texts. -/
theorem renderField_ok_iff {inner : List Char → Except RenderFault (List Char)} :
    (∃ t, renderField inner values f = .ok t) ↔
      (∃ v, resolve values f.name = .ok v) ∧ f.conversion ∈ [none, some 's', some 'r', some 'a'] ∧
        ∃ l, (if f.layout.contains '\x7b' then inner f.layout else .ok f.layout) = .ok l ∧ Suits l := by
  rw [renderField_eq]
  constructor
  · rintro ⟨t, filled⟩
    obtain ⟨v, resolved, filled⟩ := bind_eq_ok.mp filled
    obtain ⟨s, converted, filled⟩ := bind_eq_ok.mp filled
    obtain ⟨l, nested, filled⟩ := bind_eq_ok.mp filled
    refine ⟨⟨v, mapError_eq_ok.mp resolved⟩, (convert_ok_iff _ v).mp ⟨s, converted⟩, l, nested, ?_⟩
    exact (layOut_ok_iff l s.toList).mp ⟨t, mapError_eq_ok.mp filled⟩
  · rintro ⟨⟨v, resolved⟩, known, l, nested, suits⟩
    obtain ⟨s, converted⟩ := (convert_ok_iff _ v).mpr known
    obtain ⟨t, laid⟩ := (layOut_ok_iff l s.toList).mpr suits
    refine ⟨t, bind_eq_ok.mpr ⟨v, mapError_eq_ok.mpr resolved, bind_eq_ok.mpr ⟨s, converted, ?_⟩⟩⟩
    exact bind_eq_ok.mpr ⟨l, nested, mapError_eq_ok.mpr laid⟩

theorem mem_fieldsOf {s : List Char} : f ∈ fieldsOf s ↔ .field f ∈ (scan s).1 := by
  constructor
  · intro hf
    obtain ⟨piece, hp, same⟩ := List.mem_filterMap.mp hf
    cases piece with
    | literal s => cases same
    | field g =>
      obtain rfl : g = f := Option.some.inj same
      exact hp
  · intro hf
    exact List.mem_filterMap.mpr ⟨.field f, hf, rfl⟩

theorem renderPieces_ok_iff {field : Field → Except RenderFault (List Char)} {pieces : List Piece} :
    (∃ t, renderPieces field pieces = .ok t) ↔ ∀ f, .field f ∈ pieces → ∃ t, field f = .ok t := by
  induction pieces with
  | nil => simp [renderPieces]
  | cons p rest ih =>
    cases p with
    | literal s =>
      have unfold_head : (∃ t, renderPieces field (.literal s :: rest) = .ok t) ↔
          ∃ t, renderPieces field rest = .ok t := by
        constructor
        · rintro ⟨t, rendered⟩
          obtain ⟨after, rendered, -⟩ := bind_eq_ok.mp rendered
          exact ⟨after, rendered⟩
        · rintro ⟨after, rendered⟩
          exact ⟨s ++ after, bind_eq_ok.mpr ⟨after, rendered, rfl⟩⟩
      rw [unfold_head, ih]
      simp
    | field g =>
      have unfold_head : (∃ t, renderPieces field (.field g :: rest) = .ok t) ↔
          (∃ t, field g = .ok t) ∧ ∃ t, renderPieces field rest = .ok t := by
        constructor
        · rintro ⟨t, rendered⟩
          obtain ⟨s, filled, rendered⟩ := bind_eq_ok.mp rendered
          obtain ⟨after, rendered, -⟩ := bind_eq_ok.mp rendered
          exact ⟨⟨s, filled⟩, after, rendered⟩
        · rintro ⟨⟨s, filled⟩, after, rendered⟩
          exact ⟨s ++ after, bind_eq_ok.mpr ⟨s, filled, bind_eq_ok.mpr ⟨after, rendered, rfl⟩⟩⟩
      rw [unfold_head, ih]
      constructor
      · rintro ⟨head, tail⟩ f hf
        rcases List.mem_cons.mp hf with same | hf
        · obtain rfl : f = g := Piece.field.inj same
          exact head
        · exact tail f hf
      · intro each
        exact ⟨each g List.mem_cons_self, fun f hf => each f (List.mem_cons_of_mem _ hf)⟩

theorem renderWith_ok_iff {field : Field → Except RenderFault (List Char)} {s : List Char} :
    (∃ t, renderWith field s = .ok t) ↔
      (scan s).2 = none ∧ ∀ f ∈ fieldsOf s, ∃ t, field f = .ok t := by
  have each : (∀ f ∈ fieldsOf s, ∃ t, field f = .ok t) ↔ ∃ t, renderPieces field (scan s).1 = .ok t := by
    rw [renderPieces_ok_iff]
    simp only [mem_fieldsOf]
  rw [each]
  constructor
  · rintro ⟨t, rendered⟩
    obtain ⟨text, pieces, rendered⟩ := bind_eq_ok.mp rendered
    cases fault : (scan s).2 with
    | none => exact ⟨rfl, text, pieces⟩
    | some e =>
      rw [fault] at rendered
      cases rendered
  · rintro ⟨whole, text, pieces⟩
    refine ⟨text, bind_eq_ok.mpr ⟨text, pieces, ?_⟩⟩
    rw [whole]
    rfl

/-- Fields in a layout are filled if the names are resolved and no field is nested in theirs. -/
theorem renderNested_ok_iff {s : List Char} : (∃ t, renderText values 0 s = .ok t) ↔
    (scan s).2 = none ∧ ∀ f ∈ fieldsOf s, (∃ v, resolve values f.name = .ok v) ∧
      f.conversion ∈ [none, some 's', some 'r', some 'a'] ∧ '\x7b' ∉ f.layout ∧ Suits f.layout := by
  rw [renderText, renderWith_ok_iff]
  refine and_congr_right fun _ => forall₂_congr fun f _ => ?_
  rw [renderField_ok_iff]
  refine and_congr_right fun _ => and_congr_right fun _ => ?_
  by_cases opened : '\x7b' ∈ f.layout
  · simp [opened]
  · simp [opened]

/-- A prompt has a rendering if the names have values and its text has one with them. -/
theorem render_ok_iff {p : Prompt} (given : Gives p.names values) :
    (∃ s, p.render values = .ok s) ↔
      ∃ t, renderText (valuesOf p.names values) nesting p.text.toList = .ok t := by
  have present : p.missing values = [] := missing_eq_nil given
  have unfolded : p.render values =
      (renderText (valuesOf p.names values) nesting p.text.toList).mapError .fault >>= fun t =>
        .ok (String.ofList t) := by
    rw [render, present]
    rfl
  rw [unfolded]
  constructor
  · rintro ⟨s, rendered⟩
    obtain ⟨t, rendered, -⟩ := bind_eq_ok.mp rendered
    exact ⟨t, mapError_eq_ok.mp rendered⟩
  · rintro ⟨t, rendered⟩
    exact ⟨String.ofList t, bind_eq_ok.mpr ⟨t, mapError_eq_ok.mpr rendered, rfl⟩⟩

theorem parse_eq_ok {s : List Char} {pieces : List Piece} :
    parse s = .ok pieces ↔ (scan s).1 = pieces ∧ (scan s).2 = none := by
  unfold parse
  generalize scan s = scanned
  obtain ⟨found, fault⟩ := scanned
  cases fault with
  | none => simp
  | some e => simp

/-- The text of a prompt that is made is a template. -/
theorem whole_of_make {id template : String} {declared : List String} {p : Prompt}
    (made : make id template declared = .ok p) : p.names = declared ∧ (scan p.text.toList).2 = none := by
  obtain ⟨pieces, parsed, made⟩ := bind_eq_ok.mp made
  have read := mapError_eq_ok.mp parsed
  by_cases same : sameNames declared (usedNames pieces) = true
  · rw [if_pos same] at made
    obtain rfl := Except.ok.inj made
    refine ⟨rfl, ?_⟩
    rw [String.toList_ofList]
    exact (parse_eq_ok.mp read).2
  · rw [if_neg same] at made
    cases made

/-- The fields of a template, and those in their layouts. -/
def allFields (s : List Char) : List Field :=
  fieldsOf s ++ (fieldsOf s).flatMap fun f => fieldsOf f.layout

/-- No field asks for an attribute of a value. -/
def ReadsNoAttribute (p : Prompt) : Prop :=
  ∀ f ∈ allFields p.text.toList, f.accessors.head? = some '.' → String.ofList f.base ∉ p.names

/-- Each field can do with any values. -/
def Sound (p : Prompt) : Prop :=
  ∀ f ∈ fieldsOf p.text.toList, f.Takes p.names ∧ f.Fits p.names

end

section

variable {p : Prompt}

theorem ReadsNoAttribute.outer (unread : p.ReadsNoAttribute) {f : Field} (hf : f ∈ fieldsOf p.text.toList)
    (takes : f.Takes p.names) : f.accessors.head? ≠ some '.' := fun asks =>
  unread f (List.mem_append_left _ hf) asks takes.declared

theorem ReadsNoAttribute.inner (unread : p.ReadsNoAttribute) {f g : Field}
    (hf : f ∈ fieldsOf p.text.toList) (hg : g ∈ fieldsOf f.layout) (takes : g.Takes p.names) :
    g.accessors.head? ≠ some '.' := fun asks =>
  unread g (List.mem_append_right _ (List.mem_flatMap.mpr ⟨f, hf, hg⟩)) asks takes.declared

/-- If the fields can do with any values, then with these. -/
theorem Sound.renderText (sound : p.Sound) (unread : p.ReadsNoAttribute)
    (whole : (scan p.text.toList).2 = none) {values : List (String × String)}
    (given : Gives p.names values) :
    ∃ t, renderText (valuesOf p.names values) nesting p.text.toList = .ok t := by
  have given_only := gives_valuesOf given
  rw [nesting, Prompt.renderText, renderWith_ok_iff]
  refine ⟨whole, fun f hf => renderField_ok_iff.mpr ?_⟩
  obtain ⟨takes, fits⟩ := sound f hf
  refine ⟨takes.resolve (unread.outer hf takes) given_only, takes.conversion, ?_⟩
  cases fits with
  | plain closed suits => exact ⟨f.layout, by simp [closed], suits⟩
  | nested opened nested_whole nested_takes nested_fits suits =>
    have filled_inside : ∃ l, Prompt.renderText (valuesOf p.names values) 0 f.layout = .ok l := by
      refine renderNested_ok_iff.mpr ⟨nested_whole, ?_⟩
      intro g hg
      have inner_takes := nested_takes g hg
      have resolved := inner_takes.resolve (unread.inner hf hg inner_takes) given_only
      exact ⟨resolved, inner_takes.conversion, nested_fits g hg⟩
    obtain ⟨l, filled⟩ := filled_inside
    exact ⟨l, by simpa [opened] using filled, suits values given l filled⟩

/-- If every values will do, then the fields can do with any. -/
theorem sound_of_renders (renders : ∀ values, Gives p.names values →
    ∃ t, renderText (valuesOf p.names values) nesting p.text.toList = .ok t) : p.Sound := by
  have filled {values : List (String × String)} (given : Gives p.names values) {f : Field}
      (hf : f ∈ fieldsOf p.text.toList) :=
    renderField_ok_iff.mp ((renderWith_ok_iff.mp (renders values given)).2 f hf)
  intro f hf
  -- Empty texts have no parts, so a field that can do with them asks for none.
  obtain ⟨⟨v, resolved⟩, conversion, l, laid, suits⟩ := filled (gives_blanks p.names) hf
  rw [valuesOf_blanks] at resolved laid
  refine ⟨takes_of_resolve resolved conversion, ?_⟩
  by_cases opened : '\x7b' ∈ f.layout
  · have contains : f.layout.contains '\x7b' = true := by simpa using opened
    rw [if_pos contains] at laid
    obtain ⟨whole, each⟩ := renderNested_ok_iff.mp ⟨l, laid⟩
    refine Field.Fits.nested opened whole ?_ (fun g hg => (each g hg).2.2) ?_
    · intro g hg
      obtain ⟨⟨w, resolved⟩, conversion, -⟩ := each g hg
      exact takes_of_resolve resolved conversion
    · intro values given s rendered
      obtain ⟨-, -, l, laid, suits⟩ := filled given hf
      rw [if_pos contains, rendered] at laid
      exact Except.ok.inj laid ▸ suits
  · have contains : f.layout.contains '\x7b' = false := by simpa using opened
    rw [contains] at laid
    exact Field.Fits.plain opened (Except.ok.inj laid ▸ suits)

/-- A prompt that is made has a rendering for all values of its names exactly if each of its fields can do with any. -/
theorem renders_iff_sound {id template : String} {declared : List String}
    (made : make id template declared = .ok p) (unread : p.ReadsNoAttribute) :
    (∀ values, Gives declared values → ∃ s, p.render values = .ok s) ↔ p.Sound := by
  obtain ⟨rfl, whole⟩ := whole_of_make made
  constructor
  · intro renders
    apply sound_of_renders
    intro values given
    exact (render_ok_iff given).mp (renders values given)
  · intro sound values given
    exact (render_ok_iff given).mpr (sound.renderText unread whole given)

/-- A text on the right of its field, in which the first character of another stands in front of it. -/
def leaders : Prompt where
  id := "leaders"
  names := ["text", "leader"]
  text := "\x7bleader\x7d \x7btext:\x7bleader:.1\x7d>5\x7d"

theorem renders_iff_sound_leaders :
    make leaders.id leaders.text leaders.names = .ok leaders ∧ leaders.ReadsNoAttribute ∧
      ((∀ values, Gives leaders.names values → ∃ s, leaders.render values = .ok s) ↔ leaders.Sound) := by
  have made : make leaders.id leaders.text leaders.names = .ok leaders := by decide +kernel
  have unread : leaders.ReadsNoAttribute := by
    unfold ReadsNoAttribute
    decide +kernel
  exact ⟨made, unread, renders_iff_sound made unread⟩

/-- A name that stands only in the layout of a field need not be declared, but the prompt has no rendering without it,
nor with it. -/
theorem undeclared_layout_name :
    make "p" "\x7ba:\x7bb\x7d\x7d" ["a"] = .ok ⟨"p", ["a"], "\x7ba:\x7bb\x7d\x7d"⟩ ∧
      Gives ["a"] [("a", "x"), ("b", ">3")] ∧
      render ⟨"p", ["a"], "\x7ba:\x7bb\x7d\x7d"⟩ [("a", "x"), ("b", ">3")] =
        .error (.fault (.path (.unknownName "b"))) := by
  refine ⟨by decide +kernel, ?_, by decide +kernel⟩
  intro n hn
  obtain rfl := List.mem_singleton.mp hn
  rfl

end

end Reckoner.Prompt
