import Reckoner.Proofs.Json.Parsing

namespace Reckoner.Json

open Reckoner.Text

section Leads

variable {digits : Nat}

/-- In so many steps the readers refuse for their depth only texts that lead into as many containers as may be. -/
structure Leads (digits steps : Nat) : Prop where
  value {depth : Nat} {s : List Char} {c : Container} (h : readValue digits steps depth s = .error (.tooDeep c)) :
    ∃ u rest, s = u ++ c.opening :: rest ∧ Opens digits depth u
  items {depth : Nat} {s : List Char} {c : Container} (h : readItems digits steps depth s = .error (.tooDeep c)) :
    ∃ y u rest, s = y ++ (u ++ c.opening :: rest) ∧ Begun (Spells digits depth) y ∧ Opens digits depth u
  members {depth : Nat} {s : List Char} {c : Container}
    (h : readMembers digits steps depth s = .error (.tooDeep c)) :
    ∃ y n name u rest, s = y ++ (n ++ (u ++ c.opening :: rest)) ∧ Begun (Member (Spells digits depth)) y ∧
      Label n name ∧ Opens digits depth u

section Step

variable {steps : Nat} (leads : Leads digits steps) {depth : Nat} {s : List Char} {c : Container}

include leads

theorem Leads.list {r : List Char} (h : readValue digits (steps + 1) depth ('[' :: r) = .error (.tooDeep c)) :
    ∃ u rest, '[' :: r = u ++ c.opening :: rest ∧ Opens digits depth u := by
  cases depth with
  | zero =>
    rw [readValue] at h
    obtain rfl := Stop.tooDeep.inj (Except.error.inj h)
    exact ⟨[], r, rfl, rfl⟩
  | succ depth =>
    rw [readValue_list] at h
    split at h
    · cases h
    · rcases bind_eq_error.mp h with deep | ⟨_, _, same⟩
      · obtain ⟨y, u, rest, split, begun, opens⟩ := leads.items deep
        obtain ⟨g, gap, split'⟩ := exists_gap r
        rw [split] at split'
        exact ⟨'[' :: (g ++ (y ++ u)), rest, by rw [split']; simp, Or.inl ⟨g, y, u, gap, begun, opens, rfl⟩⟩
      · cases same

theorem Leads.object {r : List Char} (h : readValue digits (steps + 1) depth ('\x7b' :: r) = .error (.tooDeep c)) :
    ∃ u rest, '\x7b' :: r = u ++ c.opening :: rest ∧ Opens digits depth u := by
  cases depth with
  | zero =>
    rw [readValue] at h
    obtain rfl := Stop.tooDeep.inj (Except.error.inj h)
    exact ⟨[], r, rfl, rfl⟩
  | succ depth =>
    rw [readValue_object] at h
    split at h
    · cases h
    · rcases bind_eq_error.mp h with deep | ⟨_, _, same⟩
      · obtain ⟨y, n, name, u, rest, split, begun, label, opens⟩ := leads.members deep
        obtain ⟨g, gap, split'⟩ := exists_gap r
        rw [split] at split'
        exact ⟨'\x7b' :: (g ++ (y ++ (n ++ u))), rest, by rw [split']; simp,
          Or.inr ⟨g, y, n, name, u, gap, begun, label, opens, rfl⟩⟩
      · cases same

theorem Leads.step_value (h : readValue digits (steps + 1) depth s = .error (.tooDeep c)) :
    ∃ u rest, s = u ++ c.opening :: rest ∧ Opens digits depth u := by
  by_cases list : s.head? = some '['
  · obtain ⟨r, rfl⟩ := List.head?_eq_some_iff.mp list
    exact leads.list h
  by_cases object : s.head? = some '\x7b'
  · obtain ⟨r, rfl⟩ := List.head?_eq_some_iff.mp object
    exact leads.object h
  rw [readValue_other steps depth list object] at h
  exact absurd h (readScalar_ne_tooDeep s c)

theorem Leads.step_items (h : readItems digits (steps + 1) depth s = .error (.tooDeep c)) :
    ∃ y u rest, s = y ++ (u ++ c.opening :: rest) ∧ Begun (Spells digits depth) y ∧ Opens digits depth u := by
  rcases readItems_eq_tooDeep.mp h with deep | ⟨v, r, r', read, comma, deep⟩
  · obtain ⟨u, rest, split, opens⟩ := leads.value deep
    exact ⟨[], u, rest, split, .none, opens⟩
  · obtain ⟨x, rfl, spelled⟩ := (sound digits steps).value read
    obtain ⟨g, before, split⟩ := exists_gap r
    obtain ⟨h, behind, split'⟩ := exists_gap r'
    obtain ⟨y, u, rest, split'', begun, opens⟩ := leads.items deep
    rw [comma] at split
    rw [split''] at split'
    exact ⟨x ++ (g ++ ',' :: (h ++ y)), u, rest, by rw [split, split']; simp, .more spelled before behind begun, opens⟩

theorem Leads.step_members (h : readMembers digits (steps + 1) depth s = .error (.tooDeep c)) :
    ∃ y n name u rest, s = y ++ (n ++ (u ++ c.opening :: rest)) ∧ Begun (Member (Spells digits depth)) y ∧
      Label n name ∧ Opens digits depth u := by
  obtain ⟨name, r, labelled, next⟩ := readMembers_eq_tooDeep.mp h
  obtain ⟨n, label, rfl⟩ := label_of_labelled labelled
  rcases next with deep | ⟨v, r', r'', read, comma, deep⟩
  · obtain ⟨u, rest, rfl, opens⟩ := leads.value deep
    exact ⟨[], n, name, u, rest, rfl, .none, label, opens⟩
  · obtain ⟨x, rfl, spelled⟩ := (sound digits steps).value read
    have member : Member (Spells digits depth) (n ++ x) (name, v) := ⟨n, x, label, spelled, rfl⟩
    obtain ⟨g, before, split⟩ := exists_gap r'
    obtain ⟨h, behind, split'⟩ := exists_gap r''
    obtain ⟨y, n', name', u, rest, split'', begun, label', opens⟩ := leads.members deep
    rw [comma] at split
    rw [split''] at split'
    exact ⟨n ++ x ++ (g ++ ',' :: (h ++ y)), n', name', u, rest, by rw [split, split']; simp,
      .more member before behind begun, label', opens⟩

end Step

theorem leads (digits steps : Nat) : Leads digits steps := by
  induction steps with
  | zero =>
    refine ⟨fun h => ?_, fun h => ?_, fun h => ?_⟩
    · rw [readValue] at h
      cases h
    · rw [readItems] at h
      cases h
    · rw [readMembers] at h
      · cases h
      · intro _ _ same
        cases same
  | succ steps ih => exact ⟨ih.step_value, ih.step_items, ih.step_members⟩

end Leads

section Refuses

variable {digits : Nat}

theorem Container.starts (c : Container) (rest : List Char) : Starts (c.opening :: rest) := by
  cases c <;> exact ⟨_, rest, rfl, by decide, by decide, by decide⟩

theorem Opens.starts {depth : Nat} {u : List Char} (h : Opens digits depth u) (c : Container) (rest : List Char) :
    Starts (u ++ c.opening :: rest) := by
  cases depth with
  | zero =>
    obtain rfl : u = [] := h
    exact c.starts rest
  | succ depth =>
    rcases h with ⟨g, y, inner, -, -, -, rfl⟩ | ⟨g, y, n, name, inner, -, -, -, -, rfl⟩
    · exact Container.list.starts _
    · exact Container.object.starts _

theorem Begun.starts {α : Type} {P : List Char → α → Prop} {y : List Char} (h : Begun P y)
    (each : ∀ x a, P x a → Starts x) {tail : List Char} (behind : Starts tail) : Starts (y ++ tail) := by
  cases h with
  | none => exact behind
  | more part =>
    rw [List.append_assoc]
    exact (each _ _ part).append _

/-- What leads into this many containers is refused at the bracket of one more. -/
def Refuses (digits depth : Nat) : Prop :=
  ∀ {u}, Opens digits depth u → ∀ {steps} (c : Container) (rest : List Char), 2 * u.length < steps →
    readValue digits steps depth (u ++ c.opening :: rest) = .error (.tooDeep c)

section Parts

variable {depth : Nat} (refuses : Refuses digits depth) {u : List Char} (opens : Opens digits depth u) (c : Container)

include refuses opens

theorem Refuses.items {y : List Char} (begun : Begun (Spells digits depth) y) {steps : Nat}
    (soon : 2 * y.length + 2 * u.length + 1 < steps) (rest : List Char) :
    readItems digits steps depth (y ++ (u ++ c.opening :: rest)) = .error (.tooDeep c) := by
  induction begun generalizing steps with
  | none =>
    obtain ⟨steps, rfl⟩ := Nat.exists_eq_succ_of_ne_zero (Nat.ne_zero_of_lt soon)
    exact readItems_eq_tooDeep.mpr (Or.inl (refuses opens c rest (by omega)))
  | @more x g h y v spelled before behind begun ih =>
    obtain ⟨steps, rfl⟩ := Nat.exists_eq_succ_of_ne_zero (Nat.ne_zero_of_lt soon)
    simp only [List.length_append, List.length_cons] at soon
    have first := reads digits depth spelled (by omega : 2 * x.length ≤ steps)
      (ends_of_gap before (ends_of_closing (Or.inl rfl) (h ++ (y ++ (u ++ c.opening :: rest)))))
    have later := ih (by omega : 2 * y.length + 2 * u.length + 1 < steps)
    have starts := begun.starts (fun _ _ => Spells.starts) (opens.starts c rest)
    have tail : x ++ (g ++ ',' :: (h ++ y)) ++ (u ++ c.opening :: rest) =
        x ++ (g ++ ',' :: (h ++ (y ++ (u ++ c.opening :: rest)))) := by simp
    rw [tail, readItems_eq_tooDeep]
    refine Or.inr ⟨v, _, _, first, skipGap_cons before (by decide), ?_⟩
    rw [starts.skipGap_append behind]
    exact later

theorem Refuses.members {y n : List Char} {name : String} (begun : Begun (Member (Spells digits depth)) y)
    (label : Label n name) {steps : Nat} (soon : 2 * y.length + 2 * u.length + 1 < steps) (rest : List Char) :
    readMembers digits steps depth (y ++ (n ++ (u ++ c.opening :: rest))) = .error (.tooDeep c) := by
  induction begun generalizing steps with
  | none =>
    obtain ⟨steps, rfl⟩ := Nat.exists_eq_succ_of_ne_zero (Nat.ne_zero_of_lt soon)
    rw [List.nil_append, readMembers_eq_tooDeep]
    exact ⟨name, _, labelled_of_label label (opens.starts c rest), Or.inl (refuses opens c rest (by omega))⟩
  | @more x g h y m spelled before behind begun ih =>
    obtain ⟨steps, rfl⟩ := Nat.exists_eq_succ_of_ne_zero (Nat.ne_zero_of_lt soon)
    obtain ⟨first_name, v⟩ := m
    obtain ⟨k, x, first_label, value, rfl⟩ := spelled
    simp only [List.length_append, List.length_cons] at soon
    have first := reads digits depth value (by omega : 2 * x.length ≤ steps)
      (ends_of_gap before (ends_of_closing (Or.inl rfl) (h ++ (y ++ (n ++ (u ++ c.opening :: rest))))))
    have later := ih (by omega : 2 * y.length + 2 * u.length + 1 < steps)
    have starts := begun.starts (fun _ _ => Member.starts) (label.starts.append (u ++ c.opening :: rest))
    have tail : k ++ x ++ (g ++ ',' :: (h ++ y)) ++ (n ++ (u ++ c.opening :: rest)) =
        k ++ (x ++ (g ++ ',' :: (h ++ (y ++ (n ++ (u ++ c.opening :: rest)))))) := by simp
    rw [tail, readMembers_eq_tooDeep]
    refine ⟨first_name, _, labelled_of_label first_label (value.starts.append _),
      Or.inr ⟨v, _, _, first, skipGap_cons before (by decide), ?_⟩⟩
    rw [starts.skipGap_append behind]
    exact later

end Parts

theorem refuses (digits : Nat) : ∀ depth, Refuses digits depth := by
  intro depth
  induction depth with
  | zero =>
    intro u opens steps c rest soon
    obtain rfl : u = [] := opens
    obtain ⟨steps, rfl⟩ := Nat.exists_eq_succ_of_ne_zero (Nat.ne_zero_of_lt soon)
    cases c <;> exact readValue.eq_def ..
  | succ depth ih =>
    intro u opens steps c rest soon
    obtain ⟨steps, rfl⟩ := Nat.exists_eq_succ_of_ne_zero (Nat.ne_zero_of_lt soon)
    rcases opens with ⟨g, y, inner, gap, begun, opens, rfl⟩ | ⟨g, y, n, name, inner, gap, begun, label, opens, rfl⟩
    · simp only [List.length_append, List.length_cons] at soon
      have starts := begun.starts (fun _ _ => Spells.starts) (opens.starts c rest)
      have behind : skipGap (g ++ (y ++ inner) ++ c.opening :: rest) = y ++ (inner ++ c.opening :: rest) := by
        rw [List.append_assoc, List.append_assoc]
        exact starts.skipGap_append gap
      rw [List.cons_append, readValue_list, behind, if_neg (starts.head_ne (Or.inl rfl)),
        ih.items opens c begun (by omega) rest]
      rfl
    · simp only [List.length_append, List.length_cons] at soon
      have starts := begun.starts (fun _ _ => Member.starts) (label.starts.append (inner ++ c.opening :: rest))
      have behind : skipGap (g ++ (y ++ (n ++ inner)) ++ c.opening :: rest) =
          y ++ (n ++ (inner ++ c.opening :: rest)) := by
        rw [List.append_assoc, List.append_assoc, List.append_assoc]
        exact starts.skipGap_append gap
      rw [List.cons_append, readValue_object, behind, if_neg (starts.head_ne (Or.inr rfl)),
        ih.members opens c begun label (by omega) rest]
      rfl

end Refuses

/-- A text is refused for its depth exactly if it opens one container more than may be open. -/
theorem readWithin_tooDeep_iff {depth digits : Nat} {s : List Char} {c : Container} :
    readWithin depth digits s = .error (.tooDeep c) ↔ TooDeep depth digits s c := by
  rw [readWithin_eq_tooDeep, readWhole, bind_eq_error]
  constructor
  · rintro (deep | ⟨⟨value, rest⟩, -, next⟩)
    · obtain ⟨u, rest, split, opens⟩ := (leads digits _).value deep
      obtain ⟨g, gap, split'⟩ := exists_gap s
      exact ⟨g, u, rest, gap, opens, by rw [← split]; exact split'⟩
    · dsimp only at next
      split at next <;> cases next
  · rintro ⟨g, u, rest, gap, opens, rfl⟩
    refine Or.inl ?_
    rw [(opens.starts c rest).skipGap_append gap]
    refine refuses digits depth opens c rest ?_
    simp only [List.length_append]
    omega

end Reckoner.Json
