namespace Reckoner

/-- Values kept under names, in the order in which the names came. -/
structure Table (α : Type) where
  entries : List (String × α)
  deriving Repr

namespace Table

variable {α : Type}

def empty : Table α := ⟨[]⟩

instance : Inhabited (Table α) := ⟨empty⟩

def get? (t : Table α) (name : String) : Option α :=
  t.entries.lookup name

def putEntry (name : String) (a : α) : List (String × α) → List (String × α)
  | [] => [(name, a)]
  | (n, b) :: rest => if n = name then (n, a) :: rest else (n, b) :: putEntry name a rest

def put (t : Table α) (name : String) (a : α) : Table α :=
  ⟨putEntry name a t.entries⟩

def erase (t : Table α) (name : String) : Table α :=
  ⟨t.entries.filter (·.1 != name)⟩

theorem lookup_putEntry (name other : String) (a : α) (l : List (String × α)) :
    (putEntry name a l).lookup other = if other = name then some a else l.lookup other := by
  induction l with
  | nil =>
    by_cases h : other = name
    · simp [putEntry, h]
    · have hb : (other == name) = false := by simpa using h
      simp [putEntry, List.lookup_cons, hb, h]
  | cons p rest ih =>
    obtain ⟨n, b⟩ := p
    by_cases h : n = name
    · subst h
      by_cases ho : other = n
      · simp [putEntry, ho]
      · have hb : (other == n) = false := by simpa using ho
        simp [putEntry, List.lookup_cons, hb, ho]
    · by_cases ho : other = n
      · subst ho; simp [putEntry, h]
      · have hb : (other == n) = false := by simpa using ho
        simp only [putEntry, h, if_false, List.lookup_cons, hb]
        exact ih

theorem get?_put (t : Table α) (name other : String) (a : α) :
    (t.put name a).get? other = if other = name then some a else t.get? other :=
  lookup_putEntry name other a t.entries

theorem putEntry_putEntry (name : String) (a b : α) (l : List (String × α)) :
    putEntry name b (putEntry name a l) = putEntry name b l := by
  induction l with
  | nil => simp [putEntry]
  | cons p rest ih =>
    obtain ⟨n, c⟩ := p
    by_cases h : n = name
    · simp [putEntry, h]
    · simp [putEntry, h, ih]

theorem put_put (t : Table α) (name : String) (a b : α) : (t.put name a).put name b = t.put name b :=
  congrArg Table.mk (putEntry_putEntry name a b t.entries)

theorem get?_erase (t : Table α) (name other : String) :
    (t.erase name).get? other = if other = name then none else t.get? other := by
  obtain ⟨l⟩ := t
  simp only [erase, get?]
  induction l with
  | nil => simp
  | cons p rest ih =>
    obtain ⟨n, b⟩ := p
    by_cases h : n = name
    · subst h
      by_cases ho : other = n
      · subst ho; simpa using ih
      · have hb : (other == n) = false := by simpa using ho
        simpa [List.lookup_cons, hb, ho] using ih
    · by_cases ho : other = n
      · subst ho; simp [h]
      · have hb : (other == n) = false := by simpa using ho
        simpa [List.lookup_cons, hb, h, ho] using ih

end Table

end Reckoner
