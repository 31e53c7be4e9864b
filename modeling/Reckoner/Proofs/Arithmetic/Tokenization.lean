import Reckoner.Proofs.Arithmetic.LongestMatch
import Reckoner.Proofs.Text.Trimming

namespace Reckoner.Arithmetic

open Reckoner.Text

/-- The text of a number. -/
def IsNumeral (x : List Char) : Prop :=
  ∃ n : Number, n.WellFormed ∧ n.chars = x

/-- A number that is no number any more with some of what follows it; other lexemes have one length only. -/
def Lexeme.Longest (l : Lexeme) (rest : List Char) : Prop :=
  l.isNumber = true → ∀ z, z ≠ [] → z <+: rest → ¬ IsNumeral (l.chars ++ z)

/-- Apart from its point a number is all digits. -/
theorem Number.WellFormed.digits {n : Number} (h : n.WellFormed) :
    (∀ c ∈ n.whole, isDigit c = true) ∧ ∀ f ∈ n.fraction, ∀ c ∈ f, isDigit c = true := by
  rcases h with ⟨-, whole, behind⟩ | ⟨none_before, g, hg, -, behind⟩
  · exact ⟨whole, behind⟩
  · refine ⟨by simp [none_before], ?_⟩
    intro f hf
    obtain rfl : g = f := Option.some.inj (hg.symm.trans hf)
    exact behind

/-- A number begins with a digit, or with a point and a digit. -/
theorem Number.WellFormed.begins {n : Number} (h : n.WellFormed) :
    (∃ c x, n.chars = c :: x ∧ isDigit c = true) ∨ ∃ d x, n.chars = '.' :: d :: x ∧ isDigit d = true := by
  rcases h with ⟨some_digit, digits, -⟩ | ⟨none_before, f, behind, some_digit, digits⟩
  · obtain ⟨c, w, hw⟩ := List.exists_cons_of_ne_nil some_digit
    exact Or.inl ⟨c, w ++ pointChars n.fraction, by rw [Number.chars, hw]; rfl, digits c (by simp [hw])⟩
  · obtain ⟨d, f, rfl⟩ := List.exists_cons_of_ne_nil some_digit
    exact Or.inr ⟨d, f, by rw [Number.chars, none_before, behind]; rfl, digits d (List.mem_cons_self ..)⟩

theorem count_point_of_digits {x : List Char} (digits : ∀ c ∈ x, isDigit c = true) : x.count '.' = 0 := by
  rw [List.count_eq_zero]
  intro point
  have digit := digits '.' point
  revert digit
  decide

/-- A number has the point of its fraction and no other. -/
theorem Number.count_point {n : Number} (h : n.WellFormed) :
    n.chars.count '.' = if n.fraction.isSome then 1 else 0 := by
  rw [Number.chars, List.count_append, count_point_of_digits h.digits.1, Nat.zero_add]
  cases hf : n.fraction with
  | none => rfl
  | some f => simp [pointChars, count_point_of_digits (h.digits.2 f hf)]

theorem Number.mem_chars {n : Number} (h : n.WellFormed) {c : Char} (hc : c ∈ n.chars) :
    isDigit c = true ∨ c = '.' := by
  rcases List.mem_append.mp hc with hc | hc
  · exact Or.inl (h.digits.1 c hc)
  · cases hf : n.fraction with
    | none => simp [hf, pointChars] at hc
    | some f =>
      rw [hf] at hc
      rcases List.mem_cons.mp hc with point | hc
      · exact Or.inr point
      · exact Or.inl (h.digits.2 f hf c hc)

/-- A number stops before a character that is neither a digit nor, if it has none yet, its point. -/
theorem Number.longest {n : Number} {rest : List Char}
    (ends : ∀ c ∈ rest.head?, isDigit c = false ∧ (n.fraction = none → c ≠ '.')) :
    n.WellFormed → (Lexeme.number n).Longest rest := by
  rintro h - z some_char start ⟨m, hm, longer⟩
  obtain ⟨c, z, rfl⟩ := List.exists_cons_of_ne_nil some_char
  obtain ⟨tail, rfl⟩ := start
  obtain ⟨undigit, pointed⟩ := ends c (by simp)
  have inside : c ∈ m.chars := by
    rw [longer]
    simp
  rcases Number.mem_chars hm inside with digit | rfl
  · rw [undigit] at digit
    cases digit
  · have has_point : n.fraction.isSome = true := Option.isSome_iff_ne_none.mpr fun h => pointed h rfl
    have one : n.chars.count '.' = 1 := by rw [Number.count_point h, if_pos has_point]
    have two : 2 ≤ m.chars.count '.' := by
      rw [longer, List.count_append, List.count_cons_self]
      change 2 ≤ n.chars.count '.' + (z.count '.' + 1)
      omega
    have most : m.chars.count '.' ≤ 1 := by
      rw [Number.count_point hm]
      split <;> omega
    omega

theorem takePoint_ends {s : List Char} (ends : ∀ c ∈ s.head?, isDigit c = false) :
    ∀ c ∈ (takePoint s).2.head?, isDigit c = false ∧ ((takePoint s).1 = none → c ≠ '.') := by
  intro c hc
  unfold takePoint at hc ⊢
  split at hc
  · exact ⟨head?_dropWhile _ _ c hc, by simp⟩
  · rename_i unpointed
    refine ⟨ends c hc, ?_⟩
    rintro - rfl
    obtain ⟨t, ht⟩ := List.head?_eq_some_iff.mp hc
    exact unpointed t ht

/-- Where the text of a number stands, a number is taken. -/
theorem Lexeme.exists_next? {n : Number} (h : n.WellFormed) (t : List Char) :
    ∃ m rest, next? (n.chars ++ t) = some (.number m, rest) ∧
      ∀ c ∈ rest.head?, isDigit c = false ∧ (m.fraction = none → c ≠ '.') := by
  rcases h.begins with ⟨c, x, split, digit⟩ | ⟨d, x, split, digit⟩
  · rw [split]
    exact ⟨_, _, next?_digit digit (x ++ t), takePoint_ends (head?_dropWhile _ _)⟩
  · rw [split]
    refine ⟨_, _, next?_point digit (x ++ t), ?_⟩
    intro c hc
    exact ⟨head?_dropWhile _ _ c hc, by simp⟩

theorem Number.chars_injective {n m : Number} (hn : n.WellFormed) (hm : m.WellFormed)
    (same : n.chars = m.chars) : n = m := by
  have first := Lexeme.next?_number hn stops_nil
  have second := Lexeme.next?_number hm stops_nil
  rw [same, second] at first
  simpa using first.symm

theorem Lexeme.longest_of_next? {s rest : List Char} {l : Lexeme} (h : next? s = some (l, rest)) :
    l.Longest rest := by
  cases l with
  | operator o | opening | closing =>
    intro number
    cases number
  | number n =>
    have formed : n.WellFormed := wellFormed_of_next? h
    obtain ⟨m, rest', taken, ends⟩ := exists_next? formed rest
    have whole : n.chars ++ rest = s := next?_append h
    rw [whole, h] at taken
    obtain ⟨rfl, rfl⟩ : n = m ∧ rest = rest' := by simpa using taken
    exact Number.longest ends formed

/-- The token that is taken at the start of a text is the one of the grammar's that stands there and cannot
be made longer. -/
theorem Lexeme.next?_iff {s rest : List Char} {l : Lexeme} :
    next? s = some (l, rest) ↔ l.WellFormed ∧ s = l.chars ++ rest ∧ l.Longest rest := by
  constructor
  · intro h
    exact ⟨wellFormed_of_next? h, (next?_append h).symm, longest_of_next? h⟩
  · rintro ⟨formed, rfl, longest⟩
    cases l with
    | operator o => exact next?_operator o rest
    | opening | closing => rfl
    | number n =>
      obtain ⟨m, rest', taken, -⟩ := exists_next? formed rest
      have formed' : m.WellFormed := wellFormed_of_next? taken
      have longest' := longest_of_next? taken
      have whole : m.chars ++ rest' = n.chars ++ rest := next?_append taken
      -- The two numbers begin one text, so one of them would prolong the other.
      have same : n.chars = m.chars ∧ rest = rest' := by
        rcases List.append_eq_append_iff.mp whole with ⟨z, hn, hr⟩ | ⟨z, hm, hr⟩
        · have none_left : z = [] := by
            by_contra some_char
            exact longest' rfl z some_char ⟨rest, hr.symm⟩ ⟨n, formed, hn⟩
          subst none_left
          simpa using And.intro hn hr.symm
        · have none_left : z = [] := by
            by_contra some_char
            exact longest rfl z some_char ⟨rest', hr.symm⟩ ⟨m, formed', hm⟩
          subst none_left
          simpa using And.intro hm.symm hr
      obtain ⟨rfl, rfl⟩ : n = m ∧ rest = rest' :=
        ⟨Number.chars_injective formed formed' same.1, same.2⟩
      exact taken

/-- No token is taken exactly where none of the grammar's stands. -/
theorem Lexeme.next?_eq_none_iff {s : List Char} :
    next? s = none ↔ ∀ l : Lexeme, l.WellFormed → ¬ l.chars <+: s := by
  constructor
  · rintro nothing l formed ⟨t, rfl⟩
    cases l with
    | operator o =>
      have taken := next?_operator o t
      rw [show (Lexeme.operator o).chars ++ t = o.symbol :: t from rfl, taken] at nothing
      cases nothing
    | opening | closing => cases nothing
    | number n =>
      obtain ⟨m, rest, taken, -⟩ := exists_next? formed t
      rw [show (Lexeme.number n).chars = n.chars from rfl, taken] at nothing
      cases nothing
  · intro nothing
    cases h : next? s with
    | none => rfl
    | some taken =>
      obtain ⟨l, rest⟩ := taken
      exact absurd ⟨rest, next?_append h⟩ (nothing l (wellFormed_of_next? h))

/-- Tokens as a split of a text from a position on, with another text behind it: their texts make it up, each
stands where it says, each is one of the grammar's, and no number could be longer. -/
structure Splits (start : Nat) (ts : List Token) (x behind : List Char) : Prop where
  whole : ts.flatMap (·.lexeme.chars) = x
  placed : ∀ us t vs, ts = us ++ t :: vs → t.position = start + (us.flatMap (·.lexeme.chars)).length
  formed : ∀ t ∈ ts, t.lexeme.WellFormed
  longest : ∀ us t vs, ts = us ++ t :: vs → t.lexeme.Longest (vs.flatMap (·.lexeme.chars) ++ behind)

theorem splits_nil (start : Nat) (behind : List Char) : Splits start [] [] behind where
  whole := rfl
  placed := by simp
  formed := by simp
  longest := by simp

section Splits

variable {start : Nat} {t : Token} {ts : List Token} {x y s : List Char}

theorem Splits.cons (h : Splits (start + t.lexeme.chars.length) ts x y) (position : t.position = start)
    (formed : t.lexeme.WellFormed) (longest : t.lexeme.Longest (x ++ y)) :
    Splits start (t :: ts) (t.lexeme.chars ++ x) y where
  whole := by rw [List.flatMap_cons, h.whole]
  placed := by
    intro us k vs split
    rcases List.cons_eq_append_iff.mp split with ⟨rfl, first⟩ | ⟨us, rfl, rest⟩
    · obtain ⟨rfl, -⟩ := List.cons.inj first
      exact position
    · rw [h.placed us k vs rest, List.flatMap_cons, List.length_append, Nat.add_assoc]
  formed := by
    intro k hk
    rcases List.mem_cons.mp hk with rfl | hk
    · exact formed
    · exact h.formed k hk
  longest := by
    intro us k vs split
    rcases List.cons_eq_append_iff.mp split with ⟨rfl, first⟩ | ⟨us, rfl, rest⟩
    · obtain ⟨rfl, rfl⟩ := List.cons.inj first
      rw [h.whole]
      exact longest
    · exact h.longest us k vs rest

/-- The first token of a split, and the split behind it. -/
theorem Splits.uncons (h : Splits start (t :: ts) s y) : t.position = start ∧ t.lexeme.WellFormed ∧
    ∃ x, s = t.lexeme.chars ++ x ∧ t.lexeme.Longest (x ++ y) ∧
      Splits (start + t.lexeme.chars.length) ts x y := by
  refine ⟨h.placed [] t ts rfl, h.formed t (List.mem_cons_self ..), _, h.whole.symm,
    h.longest [] t ts rfl, rfl, ?_, ?_, ?_⟩
  · rintro us k vs rfl
    rw [h.placed (t :: us) k vs rfl, List.flatMap_cons, List.length_append, Nat.add_assoc]
  · exact fun k hk => h.formed k (List.mem_cons_of_mem t hk)
  · rintro us k vs rfl
    exact h.longest (t :: us) k vs rfl

/-- Where a token says that it stands, its text does. -/
theorem Splits.mem (h : Splits start ts x y) (ht : t ∈ ts) :
    t.lexeme.chars ≠ [] ∧ ∃ u v, x = u ++ (t.lexeme.chars ++ v) ∧ t.position = start + u.length := by
  obtain ⟨us, vs, rfl⟩ := List.append_of_mem ht
  have taken := Lexeme.next?_iff.mpr ⟨h.formed t ht, rfl, h.longest us t vs rfl⟩
  refine ⟨Lexeme.chars_ne_nil taken, _, vs.flatMap (·.lexeme.chars), ?_, h.placed us t vs rfl⟩
  rw [← h.whole, List.flatMap_append, List.flatMap_cons]

/-- Cut off behind its tokens, a text has the same split. -/
theorem Splits.cut (h : Splits start ts x y) : Splits start ts x [] where
  whole := h.whole
  placed := h.placed
  formed := h.formed
  longest := by
    intro us t vs split number z some_char begins
    rw [List.append_nil] at begins
    exact h.longest us t vs split number z some_char (begins.trans (List.prefix_append _ y))

/-- Every text splits up to its end or to a character with which no token starts. -/
theorem exists_splits (start : Nat) (s : List Char) :
    ∃ ts x y, s = x ++ y ∧ Splits start ts x y ∧ Lexeme.next? y = none := by
  fun_induction tokensFrom start s with
  | case1 start => exact ⟨[], [], [], rfl, splits_nil start [], rfl⟩
  | case2 start c s nothing => exact ⟨[], [], c :: s, rfl, splits_nil start _, nothing⟩
  | case3 start c s l rest taken ih =>
    obtain ⟨ts, x, y, rfl, split, nothing⟩ := ih
    obtain ⟨formed, whole, longest⟩ := Lexeme.next?_iff.mp taken
    refine ⟨⟨l, start⟩ :: ts, l.chars ++ x, y, ?_, split.cons rfl formed longest, nothing⟩
    rw [whole, List.append_assoc]

/-- The tokens of a split are taken first, then those of the text behind it. -/
theorem tokensFrom_of_splits (h : Splits start ts x y) :
    tokensFrom start (x ++ y) = (tokensFrom (start + x.length) y).map (ts ++ ·) := by
  induction ts generalizing start x with
  | nil =>
    obtain rfl : [] = x := h.whole
    cases hy : tokensFrom start y <;> simp [hy, Except.map]
  | cons t ts ih =>
    obtain ⟨position, formed, x, rfl, longest, rest⟩ := h.uncons
    have taken : Lexeme.next? (t.lexeme.chars ++ (x ++ y)) = some (t.lexeme, x ++ y) :=
      Lexeme.next?_iff.mpr ⟨formed, rfl, longest⟩
    have token : (⟨t.lexeme, start⟩ : Token) = t := by rw [← position]
    rw [List.append_assoc, tokensFrom_of_next? start taken, ih rest, List.length_append, Nat.add_assoc, token]
    cases tokensFrom (start + (t.lexeme.chars.length + x.length)) y <;> rfl

theorem tokensFrom_of_none {c : Char} (nothing : Lexeme.next? (c :: s) = none) :
    tokensFrom start (c :: s) = .error (.unexpectedCharacter c start) := by
  rw [tokensFrom]
  split
  · rfl
  · rename_i taken
    rw [nothing] at taken
    cases taken

/-- The tokens of a text are its one split. -/
theorem tokens_ok_iff : tokens s = .ok ts ↔ Splits 0 ts s [] := by
  constructor
  · intro read
    obtain ⟨us, x, y, rfl, split, nothing⟩ := exists_splits 0 s
    rw [tokens, tokensFrom_of_splits split] at read
    cases y with
    | nil =>
      obtain rfl : us = ts := by simpa [tokensFrom, Except.map] using read
      rw [List.append_nil]
      exact split
    | cons c y =>
      rw [tokensFrom_of_none nothing] at read
      cases read
  · intro split
    have read := tokensFrom_of_splits split
    rw [List.append_nil, tokensFrom] at read
    rw [tokens, read, Except.map, List.append_nil]

/-- No tokens are found exactly if a character behind a split starts none: the first such character is told. -/
theorem tokens_error_iff {f : Fault} : tokens s = .error f ↔
    ∃ ts x c y, s = x ++ c :: y ∧ Splits 0 ts x (c :: y) ∧ Lexeme.next? (c :: y) = none ∧
      f = .unexpectedCharacter c x.length := by
  constructor
  · intro read
    obtain ⟨us, x, y, rfl, split, nothing⟩ := exists_splits 0 s
    rw [tokens, tokensFrom_of_splits split] at read
    cases y with
    | nil => simp [tokensFrom, Except.map] at read
    | cons c y =>
      rw [tokensFrom_of_none nothing, Nat.zero_add] at read
      exact ⟨us, x, c, y, rfl, split, nothing, (Except.error.inj read).symm⟩
  · rintro ⟨ts, x, c, y, rfl, split, nothing, rfl⟩
    rw [tokens, tokensFrom_of_splits split, tokensFrom_of_none nothing, Nat.zero_add]
    rfl

end Splits

/-- The characters of operators and parentheses. -/
def signs : List Char := ['+', '-', '*', '/', '(', ')']

theorem Lexeme.exists_sign {c : Char} (h : c ∈ signs) : ∃ l : Lexeme, l.WellFormed ∧ l.chars = [c] := by
  simp only [signs, List.mem_cons, List.not_mem_nil, or_false] at h
  rcases h with rfl | rfl | rfl | rfl | rfl | rfl
  · exact ⟨.operator .add, trivial, rfl⟩
  · exact ⟨.operator .sub, trivial, rfl⟩
  · exact ⟨.operator .mul, trivial, rfl⟩
  · exact ⟨.operator .div, trivial, rfl⟩
  · exact ⟨.opening, trivial, rfl⟩
  · exact ⟨.closing, trivial, rfl⟩

theorem Lexeme.sign_of_not_number {l : Lexeme} (h : l.isNumber = false) : ∃ c ∈ signs, l.chars = [c] := by
  cases l with
  | number n => cases h
  | operator o => exact ⟨o.symbol, by cases o <;> decide, rfl⟩
  | opening => exact ⟨'(', by decide, rfl⟩
  | closing => exact ⟨')', by decide, rfl⟩

/-- No token starts with a character that is neither a digit nor a sign, nor with a point before no digit. -/
theorem Lexeme.next?_cons_eq_none_iff {c : Char} {y : List Char} : next? (c :: y) = none ↔
    isDigit c = false ∧ c ∉ signs ∧ (c = '.' → ∀ d ∈ y.head?, isDigit d = false) := by
  constructor
  · intro nothing
    refine ⟨?_, ?_, ?_⟩
    · by_contra digit
      rw [next?_digit ((Bool.not_eq_false _).mp digit)] at nothing
      cases nothing
    · intro sign
      obtain ⟨l, formed, single⟩ := exists_sign sign
      exact next?_eq_none_iff.mp nothing l formed (single ▸ ⟨y, rfl⟩)
    · rintro rfl d hd
      obtain ⟨y, rfl⟩ := List.head?_eq_some_iff.mp hd
      by_contra digit
      rw [next?_point ((Bool.not_eq_false _).mp digit)] at nothing
      cases nothing
  · rintro ⟨undigit, unsigned, unfollowed⟩
    rw [next?_eq_none_iff]
    rintro l formed ⟨t, whole⟩
    cases number : l.isNumber with
    | false =>
      obtain ⟨d, sign, single⟩ := sign_of_not_number number
      rw [single] at whole
      obtain ⟨rfl, -⟩ := List.cons.inj whole
      exact unsigned sign
    | true =>
      obtain ⟨n, rfl⟩ : ∃ n, l = .number n := by cases l <;> simp_all [isNumber]
      have numeral : n.chars ++ t = c :: y := whole
      rcases Number.WellFormed.begins formed with ⟨d, x, split, digit⟩ | ⟨d, x, split, digit⟩
      · rw [split] at numeral
        obtain ⟨rfl, -⟩ := List.cons.inj numeral
        rw [undigit] at digit
        cases digit
      · rw [split] at numeral
        obtain ⟨rfl, rfl⟩ := List.cons.inj numeral
        rw [unfollowed rfl d rfl] at digit
        cases digit

/-- The tokens of a text that are found with at most so many looks for one, or nothing if these do not get to
an end. -/
def tokensWithin : Nat → Nat → List Char → Option (Except Fault (List Token))
  | _, _, [] => some (.ok [])
  | 0, _, _ :: _ => none
  | looks + 1, position, c :: rest =>
    match Lexeme.next? (c :: rest) with
    | none => some (.error (.unexpectedCharacter c position))
    | some (lexeme, after) =>
      (tokensWithin looks (position + lexeme.chars.length) after).map (Except.map (⟨lexeme, position⟩ :: ·))

/-- Every look but the last takes a character or more, so as many looks as characters are enough. -/
theorem tokensWithin_eq {looks start : Nat} {s : List Char} (enough : s.length ≤ looks) :
    tokensWithin looks start s = some (tokensFrom start s) := by
  induction looks generalizing start s with
  | zero =>
    obtain rfl : s = [] := List.length_eq_zero_iff.mp (Nat.le_zero.mp enough)
    rw [tokensWithin, tokensFrom]
  | succ looks ih =>
    cases s with
    | nil => rw [tokensWithin, tokensFrom]
    | cons c s =>
      rw [tokensWithin]
      cases taken : Lexeme.next? (c :: s) with
      | none => rw [tokensFrom_of_none taken]
      | some found =>
        obtain ⟨l, rest⟩ := found
        have shorter := Lexeme.next?_shorter taken
        have left : rest.length ≤ looks := by omega
        rw [tokensFrom_of_next? start taken]
        show (tokensWithin looks (start + l.chars.length) rest).map _ = _
        rw [ih left]
        rfl

/-- A split of a text stops at a character: all before it is split, and no token starts with it. -/
structure StopsAt (s : List Char) (c : Char) (p : Nat) : Prop where
  stands : ∃ inside : p < s.length, s[p] = c
  before : ∃ ts, tokens (s.take p) = .ok ts ∧ Splits 0 ts (s.take p) (s.drop p)
  none_starts : ∀ l : Lexeme, l.WellFormed → ¬ l.chars <+: s.drop p
  undigit : isDigit c = false
  unsigned : c ∉ signs
  unfollowed : c = '.' → ∀ d ∈ s[p + 1]?, isDigit d = false

theorem getElem?_behind (x : List Char) (c : Char) (y : List Char) : (x ++ c :: y)[x.length + 1]? = y.head? := by
  rw [List.getElem?_append_right (Nat.le_add_right x.length 1), Nat.add_sub_cancel_left,
    List.getElem?_cons_succ, List.head?_eq_getElem?]

theorem stopsAt_iff {s : List Char} {c : Char} {p : Nat} : StopsAt s c p ↔
    ∃ ts x y, s = x ++ c :: y ∧ p = x.length ∧ Splits 0 ts x (c :: y) ∧ Lexeme.next? (c :: y) = none := by
  constructor
  · rintro ⟨⟨inside, rfl⟩, ⟨ts, -, split⟩, none_starts, -, -, -⟩
    have there : s.drop p = s[p] :: s.drop (p + 1) := List.drop_eq_getElem_cons inside
    rw [there] at split none_starts
    refine ⟨ts, s.take p, s.drop (p + 1), ?_, ?_, split, Lexeme.next?_eq_none_iff.mpr none_starts⟩
    · rw [← there, List.take_append_drop]
    · rw [List.length_take, Nat.min_eq_left (Nat.le_of_lt inside)]
  · rintro ⟨ts, x, y, rfl, rfl, split, nothing⟩
    obtain ⟨undigit, unsigned, unfollowed⟩ := Lexeme.next?_cons_eq_none_iff.mp nothing
    refine ⟨⟨by simp, by simp⟩, ⟨ts, ?_⟩, ?_, undigit, unsigned, ?_⟩
    · rw [List.take_left, List.drop_left]
      exact ⟨tokens_ok_iff.mpr split.cut, split⟩
    · rw [List.drop_left]
      exact Lexeme.next?_eq_none_iff.mp nothing
    · rw [getElem?_behind]
      exact unfollowed

/-- A text has exactly the tokens that split it with no number shorter than it could be. It is refused exactly
for the character at which such a split stops. As many looks for a token as it has characters find which. -/
theorem tokens_partition (s : List Char) :
    (∀ ts, tokens s = .ok ts ↔ Splits 0 ts s []) ∧
    (∀ f, tokens s = .error f ↔ ∃ c p, f = .unexpectedCharacter c p ∧ StopsAt s c p) ∧
    tokensWithin s.length 0 s = some (tokens s) := by
  refine ⟨fun ts => tokens_ok_iff, fun f => ?_, tokensWithin_eq (Nat.le_refl _)⟩
  rw [tokens_error_iff]
  constructor
  · rintro ⟨ts, x, c, y, whole, split, nothing, told⟩
    exact ⟨c, x.length, told, stopsAt_iff.mpr ⟨ts, x, y, whole, rfl, split, nothing⟩⟩
  · rintro ⟨c, p, told, stops⟩
    obtain ⟨ts, x, y, whole, rfl, split, nothing⟩ := stopsAt_iff.mp stops
    exact ⟨ts, x, c, y, whole, split, nothing, told⟩

end Reckoner.Arithmetic
