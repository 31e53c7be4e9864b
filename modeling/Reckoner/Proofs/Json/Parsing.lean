import Reckoner.Proofs.Json.Grammar

namespace Reckoner.Json

open Reckoner.Text

theorem exists_gap (s : List Char) : ∃ g, Gap g ∧ s = g ++ skipGap s :=
  ⟨s.takeWhile isGap, fun _ hc => List.mem_takeWhile_imp hc, (List.takeWhile_append_dropWhile ..).symm⟩

theorem skipGap_append {g rest : List Char} (gap : Gap g) (ended : ∀ c ∈ rest.head?, isGap c = false) :
    skipGap (g ++ rest) = rest :=
  Arithmetic.dropWhile_of_stop gap ended

theorem skipGap_cons {g rest : List Char} {c : Char} (gap : Gap g) (ended : isGap c = false) :
    skipGap (g ++ c :: rest) = c :: rest :=
  skipGap_append gap (by rintro d ⟨⟩; exact ended)

/-- No gap goes on with a number. -/
theorem ends_of_gap {g rest : List Char} (gap : Gap g) (ends : Ends rest) : Ends (g ++ rest) := by
  cases g with
  | nil => exact ends
  | cons c g =>
    refine ends_of_head ?_ _
    have blank := gap c (List.mem_cons_self ..)
    simp only [isGap, Bool.or_eq_true, beq_iff_eq] at blank
    rcases blank with ((rfl | rfl) | rfl) | rfl <;> decide

section Steps

variable {digits steps depth : Nat} {s rest : List Char}

theorem readItems_eq_ok {items : List Value} : readItems digits (steps + 1) depth s = .ok (items, rest) ↔
    ∃ v r, readValue digits steps depth s = .ok (v, r) ∧
      (skipGap r = ']' :: rest ∧ items = [v] ∨
        ∃ r' others, skipGap r = ',' :: r' ∧ readItems digits steps depth (skipGap r') = .ok (others, rest) ∧
          items = v :: others) := by
  rw [readItems, bind_eq_ok]
  constructor
  · rintro ⟨⟨v, r⟩, read, next⟩
    refine ⟨v, r, read, ?_⟩
    dsimp only at next
    split at next
    · rename_i closing
      obtain ⟨rfl, rfl⟩ := Prod.mk.inj (Except.ok.inj next)
      exact Or.inl ⟨closing, rfl⟩
    · rename_i comma
      obtain ⟨⟨others, rest⟩, more, same⟩ := bind_eq_ok.mp next
      obtain ⟨rfl, rfl⟩ := Prod.mk.inj (Except.ok.inj same)
      exact Or.inr ⟨_, others, comma, more, rfl⟩
    · cases next
  · rintro ⟨v, r, read, next⟩
    refine ⟨(v, r), read, ?_⟩
    dsimp only
    rcases next with ⟨closing, rfl⟩ | ⟨r', others, comma, more, rfl⟩
    · rw [closing]
      rfl
    · rw [comma]
      exact bind_eq_ok.mpr ⟨(others, rest), more, rfl⟩

theorem readItems_eq_tooDeep {c : Container} :
    readItems digits (steps + 1) depth s = .error (.tooDeep c) ↔
      readValue digits steps depth s = .error (.tooDeep c) ∨
        ∃ v r r', readValue digits steps depth s = .ok (v, r) ∧ skipGap r = ',' :: r' ∧
          readItems digits steps depth (skipGap r') = .error (.tooDeep c) := by
  rw [readItems, bind_eq_error]
  refine or_congr_right ⟨?_, ?_⟩
  · rintro ⟨⟨v, r⟩, read, next⟩
    dsimp only at next
    split at next
    · cases next
    · rename_i comma
      rcases bind_eq_error.mp next with deep | ⟨_, _, same⟩
      · exact ⟨v, r, _, read, comma, deep⟩
      · cases same
    · cases next
  · rintro ⟨v, r, r', read, comma, deep⟩
    refine ⟨(v, r), read, ?_⟩
    dsimp only
    rw [comma]
    exact bind_eq_error.mpr (Or.inl deep)

/-- A name and a colon are read, and the value is next. -/
def Labelled (s : List Char) (name : String) (r : List Char) : Prop :=
  ∃ s' r₁ r₂, s = '"' :: s' ∧ readText s' = .ok (name, r₁) ∧ skipGap r₁ = ':' :: r₂ ∧ skipGap r₂ = r

theorem readMembers_eq_ok {members : List (String × Value)} :
    readMembers digits (steps + 1) depth s = .ok (members, rest) ↔
      ∃ name r v r', Labelled s name r ∧ readValue digits steps depth r = .ok (v, r') ∧
        (skipGap r' = '\x7d' :: rest ∧ members = [(name, v)] ∨
          ∃ r'' others, skipGap r' = ',' :: r'' ∧
            readMembers digits steps depth (skipGap r'') = .ok (others, rest) ∧ members = (name, v) :: others) := by
  constructor
  · intro h
    unfold readMembers at h
    split at h
    · rename_i quoted
      obtain ⟨rfl⟩ := quoted
      obtain ⟨⟨name, r₁⟩, named, next⟩ := bind_eq_ok.mp h
      dsimp only at next
      split at next
      · rename_i colon
        obtain ⟨⟨v, r'⟩, read, next⟩ := bind_eq_ok.mp next
        refine ⟨name, _, v, r', ⟨_, _, _, rfl, named, colon, rfl⟩, read, ?_⟩
        dsimp only at next
        split at next
        · rename_i closing
          obtain ⟨rfl, rfl⟩ := Prod.mk.inj (Except.ok.inj next)
          exact Or.inl ⟨closing, rfl⟩
        · rename_i comma
          obtain ⟨⟨others, rest⟩, more, same⟩ := bind_eq_ok.mp next
          obtain ⟨rfl, rfl⟩ := Prod.mk.inj (Except.ok.inj same)
          exact Or.inr ⟨_, others, comma, more, rfl⟩
        · cases next
      · cases next
    · cases h
  · rintro ⟨name, r, v, r', ⟨s', r₁, r₂, rfl, named, colon, rfl⟩, read, next⟩
    rw [readMembers, bind_eq_ok]
    refine ⟨(name, r₁), named, ?_⟩
    dsimp only
    rw [colon]
    refine bind_eq_ok.mpr ⟨(v, r'), read, ?_⟩
    dsimp only
    rcases next with ⟨closing, rfl⟩ | ⟨r'', others, comma, more, rfl⟩
    · rw [closing]
      rfl
    · rw [comma]
      exact bind_eq_ok.mpr ⟨(others, rest), more, rfl⟩

/-- The failure of a text is never its depth. -/
theorem readText_ne_tooDeep (s : List Char) (c : Container) : readText s ≠ .error (.tooDeep c) := by
  have units (start s : List Char) : readUnits start s ≠ .error (.tooDeep c) := by
    fun_induction readUnits start s with
    | case1 | case2 | case3 | case5 | case6 | case8 | case9 =>
      intro deep
      cases deep
    | case4 | case7 | case10 =>
      rename_i ih
      intro deep
      rcases bind_eq_error.mp deep with failed | ⟨_, _, same⟩
      · exact ih failed
      · cases same
  intro deep
  rcases bind_eq_error.mp deep with failed | ⟨_, _, next⟩
  · exact units _ _ failed
  · dsimp only at next
    split at next <;> cases next

theorem readMembers_eq_tooDeep {c : Container} :
    readMembers digits (steps + 1) depth s = .error (.tooDeep c) ↔ ∃ name r, Labelled s name r ∧
      (readValue digits steps depth r = .error (.tooDeep c) ∨
        ∃ v r' r'', readValue digits steps depth r = .ok (v, r') ∧ skipGap r' = ',' :: r'' ∧
          readMembers digits steps depth (skipGap r'') = .error (.tooDeep c)) := by
  constructor
  · intro h
    unfold readMembers at h
    split at h
    · rename_i quoted
      obtain ⟨rfl⟩ := quoted
      rcases bind_eq_error.mp h with failed | ⟨⟨name, r₁⟩, named, next⟩
      · exact absurd failed (readText_ne_tooDeep _ c)
      dsimp only at next
      split at next
      · rename_i colon
        refine ⟨name, _, ⟨_, _, _, rfl, named, colon, rfl⟩, ?_⟩
        rcases bind_eq_error.mp next with deep | ⟨⟨v, r'⟩, read, next⟩
        · exact Or.inl deep
        dsimp only at next
        split at next
        · cases next
        · rename_i comma
          rcases bind_eq_error.mp next with deep | ⟨_, _, same⟩
          · exact Or.inr ⟨v, r', _, read, comma, deep⟩
          · cases same
        · cases next
      · cases next
    · cases h
  · rintro ⟨name, r, ⟨s', r₁, r₂, rfl, named, colon, rfl⟩, next⟩
    rw [readMembers, bind_eq_error]
    refine Or.inr ⟨(name, r₁), named, ?_⟩
    dsimp only
    rw [colon]
    rcases next with deep | ⟨v, r', r'', read, comma, deep⟩
    · exact bind_eq_error.mpr (Or.inl deep)
    · refine bind_eq_error.mpr (Or.inr ⟨(v, r'), read, ?_⟩)
      dsimp only
      rw [comma]
      exact bind_eq_error.mpr (Or.inl deep)

theorem readScalar_ne_tooDeep (s : List Char) (c : Container) : readScalar digits s ≠ .error (.tooDeep c) := by
  have number : readNumber digits s ≠ .error (.tooDeep c) := by
    obtain ⟨negative, body, rfl, unsigned⟩ := exists_minus s
    rw [readNumber_minus digits unsigned, readUnsigned]
    dsimp only
    split
    · simp
    · split
      · split <;> simp
      · split <;> simp
  unfold readScalar
  split
  case h_8 => exact number
  case h_1 =>
    intro deep
    rcases bind_eq_error.mp deep with failed | ⟨_, _, same⟩
    · exact readText_ne_tooDeep _ c failed
    · cases same
  all_goals simp

theorem readValue_other (steps depth : Nat) (no_list : s.head? ≠ some '[') (no_object : s.head? ≠ some '\x7b') :
    readValue digits (steps + 1) depth s = readScalar digits s := by
  rw [readValue]
  all_goals
    intros
    subst_vars
    simp at no_list no_object

theorem readValue_list {r : List Char} : readValue digits (steps + 1) (depth + 1) ('[' :: r) =
    if (skipGap r).head? = some ']' then .ok (.list [], (skipGap r).tail)
    else do
      let (items, rest) ← readItems digits steps depth (skipGap r)
      return (.list items, rest) := by
  rw [readValue]
  split
  · rename_i closing
    rw [closing]
    rfl
  · rename_i others
    rw [if_neg]
    intro first
    obtain ⟨rest, closing⟩ := List.head?_eq_some_iff.mp first
    exact others rest closing

theorem readValue_object {r : List Char} : readValue digits (steps + 1) (depth + 1) ('\x7b' :: r) =
    if (skipGap r).head? = some '\x7d' then .ok (.object [], (skipGap r).tail)
    else do
      let (members, rest) ← readMembers digits steps depth (skipGap r)
      return (.object (Members.ofPairs members), rest) := by
  rw [readValue]
  split
  · rename_i closing
    rw [closing]
    rfl
  · rename_i others
    rw [if_neg]
    intro first
    obtain ⟨rest, closing⟩ := List.head?_eq_some_iff.mp first
    exact others rest closing

end Steps

section Sound

variable {digits : Nat}

theorem label_of_labelled {s r : List Char} {name : String} (h : Labelled s name r) :
    ∃ n, Label n name ∧ s = n ++ r := by
  obtain ⟨s', r₁, r₂, rfl, named, colon, rfl⟩ := h
  obtain ⟨x, rfl, quoted⟩ := readText_eq_ok.mp named
  obtain ⟨g, before, split⟩ := exists_gap r₁
  obtain ⟨h, behind, split'⟩ := exists_gap r₂
  rw [colon] at split
  refine ⟨'"' :: (x ++ (g ++ ':' :: h)), ⟨x, g, h, quoted, before, behind, rfl⟩, ?_⟩
  conv_lhs => rw [split, split']
  simp

theorem Spells.scalar {x : List Char} {v : Value} (h : Scalar digits x v) : ∀ depth, Spells digits depth x v
  | 0 => h
  | _ + 1 => Or.inl h

/-- What a reader finds behind an opening bracket: the closing one, or parts up to it. -/
theorem enclosed_of_head {α : Type} {P : List Char → α → Prop} {opening closing : Char} {r : List Char}
    (first : (skipGap r).head? = some closing) : ∃ x, opening :: r = x ++ (skipGap r).tail ∧
      Enclosed P opening closing x [] := by
  obtain ⟨rest, begins⟩ := List.head?_eq_some_iff.mp first
  obtain ⟨g, gap, split⟩ := exists_gap r
  refine ⟨opening :: (g ++ [closing]), ?_, .none gap⟩
  rw [begins] at split ⊢
  rw [split]
  simp

theorem enclosed_of_series {α : Type} {P : List Char → α → Prop} {opening closing : Char} {r y rest : List Char}
    {parts : List α} (series : Series P y parts) (split : skipGap r = y ++ closing :: rest) :
    ∃ x, opening :: r = x ++ rest ∧ Enclosed P opening closing x parts := by
  obtain ⟨g, gap, split'⟩ := exists_gap r
  rw [split] at split'
  exact ⟨opening :: (g ++ (y ++ [closing])), by rw [split']; simp, .some gap series⟩

/-- In so many steps the readers take only what is spelled. -/
structure Sound (digits steps : Nat) : Prop where
  value {depth : Nat} {s rest : List Char} {v : Value} (h : readValue digits steps depth s = .ok (v, rest)) :
    ∃ x, s = x ++ rest ∧ Spells digits depth x v
  items {depth : Nat} {s rest : List Char} {items : List Value}
    (h : readItems digits steps depth s = .ok (items, rest)) :
    ∃ y, s = y ++ ']' :: rest ∧ Series (Spells digits depth) y items
  members {depth : Nat} {s rest : List Char} {members : List (String × Value)}
    (h : readMembers digits steps depth s = .ok (members, rest)) :
    ∃ y, s = y ++ '\x7d' :: rest ∧ Series (Member (Spells digits depth)) y members

section Step

variable {steps : Nat} (sound : Sound digits steps) {depth : Nat} {s rest : List Char}

include sound

theorem Sound.list {r : List Char} {v : Value} (h : readValue digits (steps + 1) depth ('[' :: r) = .ok (v, rest)) :
    ∃ x, '[' :: r = x ++ rest ∧ Spells digits depth x v := by
  cases depth with
  | zero =>
    rw [readValue] at h
    cases h
  | succ depth =>
    rw [readValue_list] at h
    split at h
    · rename_i closing
      obtain ⟨rfl, rfl⟩ := Prod.mk.inj (Except.ok.inj h)
      obtain ⟨x, split, enclosed⟩ := enclosed_of_head closing
      exact ⟨x, split, Or.inr (Or.inl ⟨[], enclosed, rfl⟩)⟩
    · obtain ⟨⟨items, rest⟩, read, same⟩ := bind_eq_ok.mp h
      obtain ⟨rfl, rfl⟩ := Prod.mk.inj (Except.ok.inj same)
      obtain ⟨y, split, series⟩ := sound.items read
      obtain ⟨x, split, enclosed⟩ := enclosed_of_series series split
      exact ⟨x, split, Or.inr (Or.inl ⟨items, enclosed, rfl⟩)⟩

theorem Sound.object {r : List Char} {v : Value}
    (h : readValue digits (steps + 1) depth ('\x7b' :: r) = .ok (v, rest)) :
    ∃ x, '\x7b' :: r = x ++ rest ∧ Spells digits depth x v := by
  cases depth with
  | zero =>
    rw [readValue] at h
    cases h
  | succ depth =>
    rw [readValue_object] at h
    split at h
    · rename_i closing
      obtain ⟨rfl, rfl⟩ := Prod.mk.inj (Except.ok.inj h)
      obtain ⟨x, split, enclosed⟩ := enclosed_of_head closing
      exact ⟨x, split, Or.inr (Or.inr ⟨[], enclosed, rfl⟩)⟩
    · obtain ⟨⟨members, rest⟩, read, same⟩ := bind_eq_ok.mp h
      obtain ⟨rfl, rfl⟩ := Prod.mk.inj (Except.ok.inj same)
      obtain ⟨y, split, series⟩ := sound.members read
      obtain ⟨x, split, enclosed⟩ := enclosed_of_series series split
      exact ⟨x, split, Or.inr (Or.inr ⟨members, enclosed, rfl⟩)⟩

theorem Sound.step_value {v : Value} (h : readValue digits (steps + 1) depth s = .ok (v, rest)) :
    ∃ x, s = x ++ rest ∧ Spells digits depth x v := by
  by_cases list : s.head? = some '['
  · obtain ⟨r, rfl⟩ := List.head?_eq_some_iff.mp list
    exact sound.list h
  by_cases object : s.head? = some '\x7b'
  · obtain ⟨r, rfl⟩ := List.head?_eq_some_iff.mp object
    exact sound.object h
  rw [readValue_other steps depth list object] at h
  obtain ⟨x, split, scalar⟩ := scalar_of_readScalar h
  exact ⟨x, split, Spells.scalar scalar depth⟩

theorem Sound.step_items {items : List Value} (h : readItems digits (steps + 1) depth s = .ok (items, rest)) :
    ∃ y, s = y ++ ']' :: rest ∧ Series (Spells digits depth) y items := by
  obtain ⟨v, r, read, next⟩ := readItems_eq_ok.mp h
  obtain ⟨x, rfl, spelled⟩ := sound.value read
  obtain ⟨g, gap, split⟩ := exists_gap r
  rcases next with ⟨closing, rfl⟩ | ⟨r', others, comma, more, rfl⟩
  · rw [closing] at split
    exact ⟨x ++ g, by rw [split]; simp, .one spelled gap⟩
  · obtain ⟨h, behind, split'⟩ := exists_gap r'
    obtain ⟨y, spelled_others, series⟩ := sound.items more
    rw [comma] at split
    rw [spelled_others] at split'
    exact ⟨x ++ (g ++ ',' :: (h ++ y)), by rw [split, split']; simp, .more spelled gap behind series⟩

theorem Sound.step_members {members : List (String × Value)}
    (h : readMembers digits (steps + 1) depth s = .ok (members, rest)) :
    ∃ y, s = y ++ '\x7d' :: rest ∧ Series (Member (Spells digits depth)) y members := by
  obtain ⟨name, r, v, r', labelled, read, next⟩ := readMembers_eq_ok.mp h
  obtain ⟨n, label, rfl⟩ := label_of_labelled labelled
  obtain ⟨x, rfl, spelled⟩ := sound.value read
  have member : Member (Spells digits depth) (n ++ x) (name, v) := ⟨n, x, label, spelled, rfl⟩
  obtain ⟨g, gap, split⟩ := exists_gap r'
  rcases next with ⟨closing, rfl⟩ | ⟨r'', others, comma, more, rfl⟩
  · rw [closing] at split
    exact ⟨n ++ x ++ g, by rw [split]; simp, .one member gap⟩
  · obtain ⟨h, behind, split'⟩ := exists_gap r''
    obtain ⟨y, spelled_others, series⟩ := sound.members more
    rw [comma] at split
    rw [spelled_others] at split'
    exact ⟨n ++ x ++ (g ++ ',' :: (h ++ y)), by rw [split, split']; simp, .more member gap behind series⟩

end Step

theorem sound (digits steps : Nat) : Sound digits steps := by
  induction steps with
  | zero =>
    refine ⟨fun h => ?_, fun h => ?_, fun h => ?_⟩
    · rw [readValue] at h
      cases h
    · rw [readItems] at h
      cases h
    · rw [readMembers] at h
      · cases h
      · intro _ _ same
        cases same
  | succ steps ih => exact ⟨ih.step_value, ih.step_items, ih.step_members⟩

end Sound

/-- A value, or what opens one, begins with no gap and with no closing bracket. -/
def Starts (x : List Char) : Prop :=
  ∃ c tail, x = c :: tail ∧ isGap c = false ∧ c ≠ ']' ∧ c ≠ '\x7d'

theorem Starts.append {x : List Char} (h : Starts x) (rest : List Char) : Starts (x ++ rest) := by
  obtain ⟨c, tail, rfl, starts⟩ := h
  exact ⟨c, tail ++ rest, rfl, starts⟩

theorem Starts.no_gap {x : List Char} (h : Starts x) : ∀ c ∈ x.head?, isGap c = false := by
  obtain ⟨c, tail, rfl, blank, -⟩ := h
  rintro d ⟨⟩
  exact blank

theorem Starts.skipGap_append {g x : List Char} (h : Starts x) (gap : Gap g) : skipGap (g ++ x) = x :=
  Json.skipGap_append gap h.no_gap

section Complete

variable {digits : Nat}

theorem Scalar.starts {x : List Char} {v : Value} (h : Scalar digits x v) : Starts x := by
  cases h with
  | number spelled =>
    obtain ⟨c, tail, digit, rfl | rfl⟩ := spelled.head
    · refine ⟨c, tail, rfl, ?_, ?_, ?_⟩
      · by_contra blank
        simp only [isGap, Bool.or_eq_true, beq_iff_eq, Bool.not_eq_false] at blank
        rcases blank with ((rfl | rfl) | rfl) | rfl <;> revert digit <;> decide
      all_goals
        rintro rfl
        revert digit
        decide
    · exact ⟨'-', _, rfl, by decide, by decide, by decide⟩
  | null | yes | no | nan | infinite | minusInfinite | text => exact ⟨_, _, rfl, by decide, by decide, by decide⟩

theorem Enclosed.exists_cons {α : Type} {P : List Char → α → Prop} {opening closing : Char} {x : List Char}
    {parts : List α} (h : Enclosed P opening closing x parts) : ∃ tail, x = opening :: tail := by
  cases h <;> exact ⟨_, rfl⟩

theorem Spells.starts {depth : Nat} {x : List Char} {v : Value} (h : Spells digits depth x v) : Starts x := by
  cases depth with
  | zero => exact Scalar.starts h
  | succ depth =>
    rcases h with scalar | ⟨items, enclosed, -⟩ | ⟨members, enclosed, -⟩
    · exact scalar.starts
    · obtain ⟨tail, rfl⟩ := enclosed.exists_cons
      exact ⟨'[', tail, rfl, by decide, by decide, by decide⟩
    · obtain ⟨tail, rfl⟩ := enclosed.exists_cons
      exact ⟨'\x7b', tail, rfl, by decide, by decide, by decide⟩

theorem Label.starts {n : List Char} {name : String} (h : Label n name) : Starts n := by
  obtain ⟨x, g, h, -, -, -, rfl⟩ := h
  exact ⟨'"', _, rfl, by decide, by decide, by decide⟩

theorem Member.starts {P : List Char → Value → Prop} {y : List Char} {m : String × Value} (h : Member P y m) :
    Starts y := by
  obtain ⟨n, x, label, -, rfl⟩ := h
  exact label.starts.append x

theorem Series.starts {α : Type} {P : List Char → α → Prop} {y : List Char} {parts : List α} (h : Series P y parts)
    (each : ∀ x a, P x a → Starts x) : Starts y := by
  cases h with
  | one part => exact (each _ _ part).append _
  | more part => exact (each _ _ part).append _

theorem labelled_of_label {n r : List Char} {name : String} (h : Label n name) (ended : Starts r) :
    Labelled (n ++ r) name r := by
  obtain ⟨x, g, h, quoted, before, behind, rfl⟩ := h
  refine ⟨x ++ (g ++ ':' :: (h ++ r)), g ++ ':' :: (h ++ r), h ++ r, by simp, readText_eq_ok.mpr ⟨x, rfl, quoted⟩,
    skipGap_cons before (by decide), ended.skipGap_append behind⟩

/-- Values of this depth are read, whatever follows them that does not go on with a number. -/
def Reads (digits depth : Nat) : Prop :=
  ∀ {x v}, Spells digits depth x v → ∀ {steps rest}, 2 * x.length ≤ steps → Ends rest →
    readValue digits steps depth (x ++ rest) = .ok (v, rest)

theorem ends_of_closing {c : Char} (h : c = ',' ∨ c = ']' ∨ c = '\x7d') (rest : List Char) : Ends (c :: rest) := by
  refine ends_of_head ?_ rest
  rcases h with rfl | rfl | rfl <;> decide

section Parts

variable {depth : Nat} (reads : Reads digits depth)

include reads

theorem Reads.items {y : List Char} {items : List Value} (series : Series (Spells digits depth) y items)
    {steps : Nat} (soon : 2 * y.length < steps) (rest : List Char) :
    readItems digits steps depth (y ++ ']' :: rest) = .ok (items, rest) := by
  induction series generalizing steps with
  | @one x g v spelled gap =>
    obtain ⟨steps, rfl⟩ := Nat.exists_eq_succ_of_ne_zero (Nat.ne_zero_of_lt soon)
    rw [List.length_append] at soon
    have first := reads spelled (by omega : 2 * x.length ≤ steps)
      (ends_of_gap gap (ends_of_closing (Or.inr (Or.inl rfl)) rest))
    rw [List.append_assoc, readItems_eq_ok]
    exact ⟨v, _, first, Or.inl ⟨skipGap_cons gap (by decide), rfl⟩⟩
  | @more x g h y v others spelled before behind series ih =>
    obtain ⟨steps, rfl⟩ := Nat.exists_eq_succ_of_ne_zero (Nat.ne_zero_of_lt soon)
    simp only [List.length_append, List.length_cons] at soon
    have tail : x ++ (g ++ ',' :: (h ++ y)) ++ ']' :: rest = x ++ (g ++ ',' :: (h ++ (y ++ ']' :: rest))) := by simp
    have first := reads spelled (by omega : 2 * x.length ≤ steps)
      (ends_of_gap before (ends_of_closing (Or.inl rfl) (h ++ (y ++ ']' :: rest))))
    have later := ih (by omega : 2 * y.length < steps)
    have starts := (series.starts fun _ _ => Spells.starts).append (']' :: rest)
    rw [tail, readItems_eq_ok]
    refine ⟨v, _, first, Or.inr ⟨_, others, skipGap_cons before (by decide), ?_, rfl⟩⟩
    rw [starts.skipGap_append behind]
    exact later

theorem Reads.members {y : List Char} {members : List (String × Value)}
    (series : Series (Member (Spells digits depth)) y members) {steps : Nat} (soon : 2 * y.length < steps)
    (rest : List Char) : readMembers digits steps depth (y ++ '\x7d' :: rest) = .ok (members, rest) := by
  induction series generalizing steps with
  | @one x g m spelled gap =>
    obtain ⟨steps, rfl⟩ := Nat.exists_eq_succ_of_ne_zero (Nat.ne_zero_of_lt soon)
    obtain ⟨name, v⟩ := m
    obtain ⟨n, x, label, value, rfl⟩ := spelled
    simp only [List.length_append] at soon
    have first := reads value (by omega : 2 * x.length ≤ steps)
      (ends_of_gap gap (ends_of_closing (Or.inr (Or.inr rfl)) rest))
    rw [List.append_assoc, List.append_assoc, readMembers_eq_ok]
    exact ⟨name, _, v, _, labelled_of_label label (value.starts.append _), first,
      Or.inl ⟨skipGap_cons gap (by decide), rfl⟩⟩
  | @more x g h y m others spelled before behind series ih =>
    obtain ⟨steps, rfl⟩ := Nat.exists_eq_succ_of_ne_zero (Nat.ne_zero_of_lt soon)
    obtain ⟨name, v⟩ := m
    obtain ⟨n, x, label, value, rfl⟩ := spelled
    simp only [List.length_append, List.length_cons] at soon
    have tail : n ++ x ++ (g ++ ',' :: (h ++ y)) ++ '\x7d' :: rest =
        n ++ (x ++ (g ++ ',' :: (h ++ (y ++ '\x7d' :: rest)))) := by simp
    have first := reads value (by omega : 2 * x.length ≤ steps)
      (ends_of_gap before (ends_of_closing (Or.inl rfl) (h ++ (y ++ '\x7d' :: rest))))
    have later := ih (by omega : 2 * y.length < steps)
    have starts := (series.starts fun _ _ => Member.starts).append ('\x7d' :: rest)
    rw [tail, readMembers_eq_ok]
    refine ⟨name, _, v, _, labelled_of_label label (value.starts.append _), first,
      Or.inr ⟨_, others, skipGap_cons before (by decide), ?_, rfl⟩⟩
    rw [starts.skipGap_append behind]
    exact later

end Parts

/-- No scalar begins like a container. -/
theorem Scalar.unopened {x : List Char} {v : Value} (h : Scalar digits x v) (rest : List Char) :
    (x ++ rest).head? ≠ some '[' ∧ (x ++ rest).head? ≠ some '\x7b' := by
  cases h with
  | number spelled =>
    obtain ⟨c, tail, digit, rfl | rfl⟩ := spelled.head
    · constructor
      all_goals
        rintro ⟨⟩
        revert digit
        decide
    · exact ⟨nofun, nofun⟩
  | null | yes | no | nan | infinite | minusInfinite | text => exact ⟨nofun, nofun⟩

theorem readValue_scalar_spelled {x rest : List Char} {v : Value} (h : Scalar digits x v) (steps depth : Nat)
    (ends : Ends rest) : readValue digits (steps + 1) depth (x ++ rest) = .ok (v, rest) := by
  obtain ⟨no_list, no_object⟩ := h.unopened rest
  rw [readValue_other steps depth no_list no_object, readScalar_of_scalar ends h]

theorem Starts.head_ne {x : List Char} (h : Starts x) {c : Char} (closing : c = ']' ∨ c = '\x7d') :
    x.head? ≠ some c := by
  obtain ⟨d, tail, rfl, -, no_bracket, no_brace⟩ := h
  rintro ⟨⟩
  rcases closing with rfl | rfl
  · exact no_bracket rfl
  · exact no_brace rfl

theorem Reads.list {depth : Nat} (reads : Reads digits depth) {x : List Char} {items : List Value}
    (h : Enclosed (Spells digits depth) '[' ']' x items) {steps : Nat} (soon : 2 * x.length ≤ steps + 1)
    (rest : List Char) : readValue digits (steps + 1) (depth + 1) (x ++ rest) = .ok (.list items, rest) := by
  cases h with
  | @none g gap =>
    have closing : skipGap (g ++ [']'] ++ rest) = ']' :: rest := by
      rw [List.append_assoc]
      exact skipGap_cons gap (by decide)
    rw [List.cons_append, readValue_list, closing]
    rfl
  | @some g y _ gap series =>
    simp only [List.length_append, List.length_cons, List.length_nil] at soon
    have starts := (series.starts fun _ _ => Spells.starts).append (']' :: rest)
    have behind : skipGap (g ++ (y ++ [']']) ++ rest) = y ++ ']' :: rest := by
      rw [List.append_assoc, List.append_assoc]
      exact starts.skipGap_append gap
    rw [List.cons_append, readValue_list, behind, if_neg (starts.head_ne (Or.inl rfl)),
      reads.items series (by omega) rest]
    rfl

theorem Reads.object {depth : Nat} (reads : Reads digits depth) {x : List Char} {members : List (String × Value)}
    (h : Enclosed (Member (Spells digits depth)) '\x7b' '\x7d' x members) {steps : Nat}
    (soon : 2 * x.length ≤ steps + 1) (rest : List Char) :
    readValue digits (steps + 1) (depth + 1) (x ++ rest) = .ok (.object (Members.ofPairs members), rest) := by
  cases h with
  | @none g gap =>
    have closing : skipGap (g ++ ['\x7d'] ++ rest) = '\x7d' :: rest := by
      rw [List.append_assoc]
      exact skipGap_cons gap (by decide)
    rw [List.cons_append, readValue_object, closing]
    rfl
  | @some g y _ gap series =>
    simp only [List.length_append, List.length_cons, List.length_nil] at soon
    have starts := (series.starts fun _ _ => Member.starts).append ('\x7d' :: rest)
    have behind : skipGap (g ++ (y ++ ['\x7d']) ++ rest) = y ++ '\x7d' :: rest := by
      rw [List.append_assoc, List.append_assoc]
      exact starts.skipGap_append gap
    rw [List.cons_append, readValue_object, behind, if_neg (starts.head_ne (Or.inr rfl)),
      reads.members series (by omega) rest]
    rfl

theorem reads (digits : Nat) : ∀ depth, Reads digits depth := by
  intro depth
  induction depth with
  | zero =>
    intro x v spelled steps rest soon ends
    obtain ⟨c, tail, rfl, -⟩ := Spells.starts spelled
    obtain ⟨steps, rfl⟩ : ∃ n, steps = n + 1 := ⟨steps - 1, by rw [List.length_cons] at soon; omega⟩
    exact readValue_scalar_spelled spelled steps 0 ends
  | succ depth ih =>
    intro x v spelled steps rest soon ends
    obtain ⟨c, tail, begins, -⟩ := Spells.starts spelled
    obtain ⟨steps, rfl⟩ : ∃ n, steps = n + 1 := ⟨steps - 1, by rw [begins, List.length_cons] at soon; omega⟩
    rcases spelled with scalar | ⟨items, enclosed, rfl⟩ | ⟨members, enclosed, rfl⟩
    · exact readValue_scalar_spelled scalar steps (depth + 1) ends
    · exact ih.list enclosed soon rest
    · exact ih.object enclosed soon rest

end Complete

/-- The reading of a whole text, before its failures are given their places. -/
def readWhole (depth digits : Nat) (s : List Char) : Except Stop Value := do
  let (value, rest) ← readValue digits (2 * s.length + 1) depth (skipGap s)
  match skipGap rest with
  | [] => return value
  | rest => throw (.here rest)

theorem readWithin_eq (depth digits : Nat) (s : List Char) : readWithin depth digits s =
    match readWhole depth digits s with
    | .ok value => .ok value
    | .error (.here rest) => .error (.malformed (s.length - rest.length))
    | .error (.longNumber digits) => .error (.longNumber digits)
    | .error (.tooDeep container) => .error (.tooDeep container)
    | .error .halfPair => .error .halfPair :=
  rfl

theorem readWithin_eq_ok {depth digits : Nat} {s : List Char} {v : Value} :
    readWithin depth digits s = .ok v ↔ readWhole depth digits s = .ok v := by
  rw [readWithin_eq]
  split <;> simp_all

theorem readWithin_eq_tooDeep {depth digits : Nat} {s : List Char} {c : Container} :
    readWithin depth digits s = .error (.tooDeep c) ↔ readWhole depth digits s = .error (.tooDeep c) := by
  rw [readWithin_eq]
  split <;> simp_all

/-- A text is read as a value exactly if it is accepted as one. -/
theorem readWithin_ok_iff {depth digits : Nat} {s : List Char} {v : Value} :
    readWithin depth digits s = .ok v ↔ Accepted depth digits s v := by
  rw [readWithin_eq_ok, readWhole, bind_eq_ok]
  constructor
  · rintro ⟨⟨value, rest⟩, read, next⟩
    dsimp only at next
    split at next
    · rename_i nothing
      obtain rfl := Except.ok.inj next
      obtain ⟨x, split, spelled⟩ := (sound digits _).value read
      obtain ⟨g, before, split'⟩ := exists_gap s
      obtain ⟨h, behind, split''⟩ := exists_gap rest
      rw [nothing, List.append_nil] at split''
      rw [split, split''] at split'
      exact ⟨g, x, h, before, spelled, behind, split'⟩
    · cases next
  · rintro ⟨g, x, h, before, spelled, behind, rfl⟩
    have starts := spelled.starts.append h
    have ends : Ends h := by
      have ended := ends_of_gap behind ends_nil
      rwa [List.append_nil] at ended
    have nothing : skipGap h = [] := List.dropWhile_eq_nil_iff.mpr behind
    refine ⟨(v, h), ?_, ?_⟩
    · rw [starts.skipGap_append before]
      refine reads digits depth spelled ?_ ends
      simp only [List.length_append]
      omega
    · dsimp only
      rw [nothing]
      rfl

/-- What is put under another name is not found under this one. -/
theorem Members.get?_put_other (members : Members) {name other : String} (value : Value) (apart : other ≠ name) :
    (members.put other value).get? name = members.get? name := by
  have different : (name == other) = false := beq_false_of_ne apart.symm
  induction members with
  | nil => simp [put, get?, apart.symm]
  | cons p rest ih =>
    obtain ⟨n, v⟩ := p
    by_cases same : n = other
    · subst same
      simp [put, get?, List.lookup_cons, different]
    · simp only [put, same, if_false, get?, List.lookup_cons]
      split
      · rfl
      · exact ih

/-- Of several members of one name the last one counts. -/
theorem Members.get?_ofPairs (pairs : List (String × Value)) (name : String) :
    (Members.ofPairs pairs).get? name = pairs.reverse.lookup name := by
  induction pairs using List.reverseRecOn with
  | nil => rfl
  | append_singleton pairs p ih =>
    obtain ⟨n, v⟩ := p
    have built : Members.ofPairs (pairs ++ [(n, v)]) = (Members.ofPairs pairs).put n v := by
      simp [Members.ofPairs]
    rw [built, List.reverse_append]
    by_cases same : n = name
    · subst same
      rw [Members.get?_put_self]
      simp
    · have different : (name == n) = false := beq_false_of_ne (Ne.symm same)
      rw [Members.get?_put_other _ _ same, ih]
      simp [List.lookup_cons, different]

end Reckoner.Json
