import Reckoner.Json.Printer
import Reckoner.Proofs.Json.Parsing
import Mathlib.Data.List.Nodup

namespace Reckoner.Json

open Reckoner.Text

mutual

/-- How deep containers are nested in a value. -/
def Value.depth : Value → Nat
  | .list items => depthOf items + 1
  | .object members => depthWithin members + 1
  | _ => 0

def Value.depthOf : List Value → Nat
  | [] => 0
  | v :: rest => max v.depth (depthOf rest)

def Value.depthWithin : Members → Nat
  | [] => 0
  | (_, v) :: rest => max v.depth (depthWithin rest)

end

/-- A value without doubles, and with one member of each name. -/
inductive Value.Plain : Value → Prop where
  | null : Plain .null
  | bool (b : Bool) : Plain (.bool b)
  | int (n : Int) : Plain (.int n)
  | text (s : String) : Plain (.text s)
  | list {items : List Value} (each : ∀ v ∈ items, Plain v) : Plain (.list items)
  | object {members : Members} (distinct : (members.map (·.1)).Nodup)
      (each : ∀ m ∈ members, Plain m.2) : Plain (.object members)

/-- What is written for a value. -/
def spelled (v : Value) : List Char :=
  (spell .unicode v).toList

/-- What is written for a text, from behind its opening quote. -/
def spelledText (s : String) : List Char :=
  s.toList.flatMap (escapeChar .unicode) ++ ['"']

def spelledMember (m : String × Value) : List Char :=
  '"' :: (spelledText m.1 ++ ':' :: ' ' :: spelled m.2)

/-- What stands between the brackets of a list or the braces of an object. -/
def separated (parts : List (List Char)) : List Char :=
  List.intercalate [',', ' '] parts

theorem separated_cons_cons (a b : List Char) (rest : List (List Char)) :
    separated (a :: b :: rest) = a ++ ',' :: ' ' :: separated (b :: rest) := by
  simp [separated, List.intercalate_cons_cons]

theorem separated_singleton (a : List Char) : separated [a] = a := by
  simp [separated]

theorem spelled_text (s : String) : spelled (.text s) = '"' :: spelledText s := by
  simp [spelled, spell, writeText, spelledText]

theorem spelled_list (items : List Value) :
    spelled (.list items) = '[' :: (separated (items.map spelled) ++ [']']) := by
  have each : (spellItems .unicode items).map String.toList = items.map spelled := by
    induction items with
    | nil => rfl
    | cons v rest ih => rw [spellItems, List.map_cons, ih]; rfl
  simp [spelled, spell, separated, String.toList_intercalate, each]

theorem spelled_object (members : Members) :
    spelled (.object members) = '\x7b' :: (separated (members.map spelledMember) ++ ['\x7d']) := by
  have each : (spellMembers .unicode members).map String.toList = members.map spelledMember := by
    induction members with
    | nil => rfl
    | cons m rest ih =>
      obtain ⟨name, v⟩ := m
      rw [spellMembers, List.map_cons, List.map_cons, ih]
      simp [spelledMember, spelledText, writeText, spelled]
  simp [spelled, spell, separated, String.toList_intercalate, each]

theorem spelled_int (n : Int) : spelled (.int n) = minus (decide (n < 0)) ++ Nat.toDigits 10 n.natAbs := by
  cases n with
  | ofNat m => exact Nat.toList_repr
  | negSucc m =>
    have negative : decide (Int.negSucc m < 0) = true := by simp
    show ("-" ++ (m + 1).repr).toList = _
    rw [String.toList_append, Nat.toList_repr, negative]
    rfl

theorem units_unitEscape {n : Nat} (small : n < 65536) {x : List Char} {units : List Nat} (more : Units x units) :
    Units (unitEscape n ++ x) (n :: units) := by
  have value : ((n / 16 / 16 / 16 % 16 * 16 + n / 16 / 16 % 16) * 16 + n / 16 % 16) * 16 + n % 16 = n := by
    omega
  have code := Units.code (hexValue?_hexDigit (n / 16 / 16 / 16)) (hexValue?_hexDigit (n / 16 / 16))
    (hexValue?_hexDigit (n / 16)) (hexValue?_hexDigit n) more
  rw [value] at code
  exact code

/-- What is written for a character stands for it. -/
theorem units_escapeChar (c : Char) {x : List Char} {units : List Nat} (more : Units x units) :
    Units (escapeChar .unicode c ++ x) (c.toNat :: units) := by
  have short {letter c : Char} (named : plainEscape? letter = some c) :
      Units (['\\', letter] ++ x) (c.toNat :: units) := .escape named more
  by_cases quote : c = '"'
  · subst quote
    exact short rfl
  by_cases backslash : c = '\\'
  · subst backslash
    exact short rfl
  simp only [escapeChar, beq_iff_eq, quote, backslash, or_self, Bool.or_eq_true, if_false]
  split
  · subst c
    exact short rfl
  split
  · subst c
    exact short rfl
  split
  · subst c
    exact short rfl
  split
  · subst c
    exact short rfl
  split
  · subst c
    exact short rfl
  split
  · rename_i control
    have small : c.toNat < 0x10000 := Nat.lt_trans control (by decide)
    rw [escapeUnits, if_pos small]
    exact units_unitEscape small more
  · rename_i printable
    exact .plain quote backslash (Nat.not_lt.mp printable) more

theorem quoted_spelledText (s : String) : Quoted (spelledText s) s := by
  have units (l : List Char) : Units (l.flatMap (escapeChar .unicode)) (l.map Char.toNat) := by
    induction l with
    | nil => exact .nil
    | cons c l ih => exact units_escapeChar c ih
  exact ⟨_, _, units s.toList, rfl, joinPairs_map s.toList⟩

theorem number_spelled {digits : Nat} {n : Int} (short : n.natAbs < 10 ^ digits) (some_digit : 0 < digits) :
    Number digits (spelled (.int n)) (.int n) := by
  have few : (Nat.toDigits 10 n.natAbs).length ≤ digits := Nat.toDigits_length 10 _ _ some_digit short
  have whole := Number.whole (decide (n < 0)) (canonical_toDigits n.natAbs) few
  have value : (if decide (n < 0) = true then -(n.natAbs : Int) else n.natAbs) = n := by
    split <;> rename_i sign <;> simp only [decide_eq_true_eq] at sign <;> omega
  rw [value] at whole
  rw [spelled_int]
  exact whole

/-- Parts with a comma and a space between them are a series. -/
theorem series_separated {α : Type} {P : List Char → α → Prop} {write : α → List Char} {a : α} {others : List α}
    (each : ∀ b ∈ a :: others, P (write b) b) : Series P (separated ((a :: others).map write)) (a :: others) := by
  have none : Gap [] := nofun
  have space : Gap [' '] := by simp [Gap, isGap]
  induction others generalizing a with
  | nil =>
    have one := Series.one (each a (by simp)) none
    rw [List.append_nil] at one
    rwa [List.map_singleton, separated_singleton]
  | cons b others ih =>
    have later := ih fun c hc => each c (List.mem_cons_of_mem a hc)
    rw [List.map_cons, List.map_cons, separated_cons_cons]
    exact .more (each a (by simp)) none space later

theorem enclosed_separated {α : Type} {P : List Char → α → Prop} {write : α → List Char} {parts : List α}
    (opening closing : Char) (each : ∀ b ∈ parts, P (write b) b) :
    Enclosed P opening closing (opening :: (separated (parts.map write) ++ [closing])) parts := by
  have none : Gap [] := nofun
  cases parts with
  | nil => exact .none none
  | cons a others => exact .some none (series_separated each)

/-- Members of different names are put one behind the other. -/
theorem ofPairs_of_nodup {members : Members} (distinct : (members.map (·.1)).Nodup) :
    Members.ofPairs members = members := by
  have put_new : ∀ (front : Members) (name : String) (v : Value), name ∉ front.map (·.1) →
      front.put name v = front ++ [(name, v)] := by
    intro front name v fresh
    induction front with
    | nil => rfl
    | cons m front ih =>
      obtain ⟨n, u⟩ := m
      have other := List.ne_of_not_mem_cons fresh
      rw [Members.put, if_neg (Ne.symm other), ih (List.not_mem_of_not_mem_cons fresh)]
      rfl
  have all : ∀ front : Members, ((front ++ members).map (·.1)).Nodup →
      members.foldl (fun front m => front.put m.1 m.2) front = front ++ members := by
    induction members with
    | nil => simp
    | cons m members ih =>
      intro front apart
      have fresh : m.1 ∉ front.map (·.1) := by
        intro old
        rw [List.map_append, List.nodup_append] at apart
        exact apart.2.2 m.1 old m.1 (by simp) rfl
      rw [List.append_cons] at apart
      rw [List.foldl_cons, put_new front m.1 m.2 fresh, ih (List.nodup_cons.mp distinct).2 _ apart,
        List.append_cons front m members]
  exact all [] distinct

theorem Value.depth_of_mem {items : List Value} {v : Value} (among : v ∈ items) : v.depth ≤ Value.depthOf items := by
  induction items with
  | nil => cases among
  | cons w items ih =>
    rw [depthOf]
    rcases List.mem_cons.mp among with rfl | later
    · exact Nat.le_max_left ..
    · exact Nat.le_trans (ih later) (Nat.le_max_right ..)

theorem Value.depth_of_member {members : Members} {m : String × Value} (among : m ∈ members) :
    m.2.depth ≤ Value.depthWithin members := by
  induction members with
  | nil => cases among
  | cons w members ih =>
    rw [depthWithin]
    rcases List.mem_cons.mp among with rfl | later
    · exact Nat.le_max_left ..
    · exact Nat.le_trans (ih later) (Nat.le_max_right ..)

theorem Value.wholes_of_mem {items : List Value} {v : Value} (among : v ∈ items) {n : Int} (hn : n ∈ v.wholes) :
    n ∈ Value.wholesOf items := by
  induction items with
  | nil => cases among
  | cons w items ih =>
    rw [wholesOf, List.mem_append]
    rcases List.mem_cons.mp among with rfl | later
    · exact Or.inl hn
    · exact Or.inr (ih later)

theorem Value.wholes_of_member {members : Members} {m : String × Value} (among : m ∈ members) {n : Int}
    (hn : n ∈ m.2.wholes) : n ∈ Value.wholesWithin members := by
  induction members with
  | nil => cases among
  | cons w members ih =>
    rw [wholesWithin, List.mem_append]
    rcases List.mem_cons.mp among with rfl | later
    · exact Or.inl hn
    · exact Or.inr (ih later)

/-- What is written for a value spells it, as deep as it is, if its numbers are no longer than may be read. -/
theorem spells_of_plain {v : Value} (plain : v.Plain) {digits depth : Nat} (some_digit : 0 < digits)
    (short : ∀ n ∈ v.wholes, n.natAbs < 10 ^ digits) (flat : v.depth ≤ depth) : Spells digits depth (spelled v) v := by
  induction plain generalizing depth with
  | null => exact Spells.scalar .null depth
  | bool b => cases b <;> exact Spells.scalar (by constructor) depth
  | int n => exact Spells.scalar (.number (number_spelled (short n (by simp [Value.wholes])) some_digit)) depth
  | text s =>
    rw [spelled_text]
    exact Spells.scalar (.text (quoted_spelledText s)) depth
  | @list items plain each =>
    rw [Value.depth] at flat
    obtain ⟨depth, rfl⟩ := Nat.exists_eq_succ_of_ne_zero (Nat.ne_zero_of_lt flat)
    rw [spelled_list]
    refine Or.inr (Or.inl ⟨items, enclosed_separated '[' ']' fun v hv => ?_, rfl⟩)
    exact each v hv (fun n hn => short n (Value.wholes_of_mem hv hn))
      (Nat.le_trans (Value.depth_of_mem hv) (Nat.le_of_succ_le_succ flat))
  | @object members distinct plain each =>
    rw [Value.depth] at flat
    obtain ⟨depth, rfl⟩ := Nat.exists_eq_succ_of_ne_zero (Nat.ne_zero_of_lt flat)
    rw [spelled_object]
    refine Or.inr (Or.inr ⟨members, enclosed_separated '\x7b' '\x7d' fun m hm => ?_,
      congrArg Value.object (ofPairs_of_nodup distinct).symm⟩)
    have value := each m hm (fun n hn => short n (Value.wholes_of_member hm hn))
      (Nat.le_trans (Value.depth_of_member hm) (Nat.le_of_succ_le_succ flat))
    refine ⟨'"' :: (spelledText m.1 ++ ':' :: [' ']), spelled m.2,
      ⟨spelledText m.1, [], [' '], quoted_spelledText m.1, nofun, by simp [Gap, isGap], rfl⟩, value, ?_⟩
    simp [spelledMember]

theorem isShort_iff {n : Int} : isShort n = true ↔ n.natAbs < 10 ^ Arithmetic.conversionLimit := by
  rw [isShort, decide_eq_true_eq, Nat.pow_eq]

/-- What is written is read back, by a reader that can go deep enough. -/
theorem read_spelled {v : Value} (plain : v.Plain) (short : v.wholes.all isShort = true) {depth : Nat}
    (flat : v.depth ≤ depth) : read depth (spelled v) = .ok v := by
  have few : ∀ n ∈ v.wholes, n.natAbs < 10 ^ Arithmetic.conversionLimit := fun n hn =>
    isShort_iff.mp (List.all_eq_true.mp short n hn)
  have spells := spells_of_plain plain (by decide) few flat
  exact readWithin_ok_iff.mpr ⟨[], _, [], nofun, spells, nofun, by simp⟩

/-- A character that ends a line. -/
def isBreak (c : Char) : Bool :=
  c == '\n' || c == '\r'

theorem hexDigit_no_break (n : Nat) : isBreak (hexDigit n) = false := by
  have each : ∀ k < 16, isBreak (Nat.digitChar k) = false := by decide
  exact each _ (Nat.mod_lt _ (by decide))

theorem escapeChar_no_break (c : Char) : ∀ d ∈ escapeChar .unicode c, isBreak d = false := by
  unfold escapeChar
  split
  · rename_i mark
    simp only [Bool.or_eq_true, beq_iff_eq] at mark
    rcases mark with rfl | rfl <;> simp [isBreak]
  split
  · simp [isBreak]
  rename_i no_feed
  split
  · simp [isBreak]
  rename_i no_return
  split
  · simp [isBreak]
  split
  · simp [isBreak]
  split
  · simp [isBreak]
  split
  · rename_i control
    have small : c.toNat < 0x10000 := Nat.lt_trans control (by decide)
    intro d hd
    simp only [escapeUnits, small, if_true, unitEscape, hexPad, List.nil_append, List.cons_append,
      List.mem_cons, List.not_mem_nil, or_false] at hd
    rcases hd with rfl | rfl | rfl | rfl | rfl | rfl
    · decide
    · decide
    all_goals exact hexDigit_no_break _
  · intro d hd
    obtain rfl := List.mem_singleton.mp hd
    simp only [isBreak, no_feed, no_return, Bool.or_self]

theorem spelledText_no_break (s : String) : ∀ c ∈ spelledText s, isBreak c = false := by
  intro c hc
  rcases List.mem_append.mp hc with text | quote
  · obtain ⟨d, -, among⟩ := List.mem_flatMap.mp text
    exact escapeChar_no_break d c among
  · obtain rfl := List.mem_singleton.mp quote
    decide

theorem separated_no_break (parts : List (List Char))
    (each : ∀ part ∈ parts, ∀ c ∈ part, isBreak c = false) :
    ∀ c ∈ separated parts, isBreak c = false := by
  induction parts with
  | nil => simp [separated]
  | cons a rest ih =>
    cases rest with
    | nil =>
      rw [separated_singleton]
      exact each a (by simp)
    | cons b rest =>
      have later := ih fun part h => each part (List.mem_cons_of_mem a h)
      rw [separated_cons_cons]
      intro c hc
      simp only [List.mem_append, List.mem_cons] at hc
      rcases hc with first | rfl | rfl | others
      · exact each a (by simp) c first
      · decide
      · decide
      · exact later c others

theorem digits_no_break (n : Nat) : ∀ c ∈ Nat.toDigits 10 n, isBreak c = false := by
  intro c hc
  have digit := isAsciiDigit_of_mem hc
  by_contra line
  simp only [isBreak, Bool.or_eq_true, beq_iff_eq, Bool.not_eq_false] at line
  rcases line with rfl | rfl <;> simp [isAsciiDigit] at digit

/-- Whatever a value holds, it is written on one line. -/
theorem spelled_no_break {v : Value} (h : v.Plain) : ∀ c ∈ spelled v, isBreak c = false := by
  induction h with
  | null => simp [spelled, spell, isBreak]
  | bool b => cases b <;> simp [spelled, spell, isBreak]
  | int n =>
    rw [spelled_int]
    intro c hc
    rcases List.mem_append.mp hc with sign | digit
    · obtain rfl : c = '-' := by
        cases hs : decide (n < 0) <;> simp_all [minus]
      decide
    · exact digits_no_break n.natAbs c digit
  | text s =>
    rw [spelled_text]
    simpa [isBreak] using spelledText_no_break s
  | @list items plain each =>
    have within := separated_no_break (items.map spelled) (List.forall_mem_map.mpr each)
    rw [spelled_list]
    intro c hc
    simp only [List.mem_cons, List.mem_append, List.not_mem_nil, or_false] at hc
    rcases hc with rfl | inside | rfl
    · decide
    · exact within c inside
    · decide
  | @object members distinct plain each =>
    have member : ∀ m ∈ members, ∀ c ∈ spelledMember m, isBreak c = false := by
      intro m hm c hc
      simp only [spelledMember, List.mem_cons, List.mem_append] at hc
      rcases hc with rfl | name | rfl | rfl | value
      · decide
      · exact spelledText_no_break m.1 c name
      · decide
      · decide
      · exact each m hm c value
    have within := separated_no_break (members.map spelledMember) (List.forall_mem_map.mpr member)
    rw [spelled_object]
    intro c hc
    simp only [List.mem_cons, List.mem_append, List.not_mem_nil, or_false] at hc
    rcases hc with rfl | inside | rfl
    · decide
    · exact within c inside
    · decide

end Reckoner.Json
