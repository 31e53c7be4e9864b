import Reckoner.Proofs.Arithmetic.Display
import Reckoner.Proofs.Arithmetic.WholeNumbers

namespace Reckoner.Arithmetic

open Reckoner.Decimal Reckoner.Schema Reckoner.Text

/-- Why an evaluation stops: the expression is at fault, or something else breaks. -/
inductive Stop where
  | fault (f : Fault)
  | broken (b : Breakage)

/-- Signs that count as digits without being decimal, such as superscripts: the first of each run, and how many
there are. -/
def digitSigns : List (Nat × Nat) := [
  (0xb2, 2), (0xb9, 1), (0x1369, 9), (0x19da, 1), (0x2070, 1), (0x2074, 6), (0x2080, 10), (0x2460, 9),
  (0x2474, 9), (0x2488, 9), (0x24ea, 1), (0x24f5, 9), (0x24ff, 1), (0x2776, 9), (0x2780, 9), (0x278a, 9),
  (0x10a40, 4), (0x10e60, 9), (0x11052, 9), (0x1f100, 11)]

/-- Does a character open the text of a number? Digits in the widest sense do, and the point. -/
def opensNumber (c : Char) : Bool :=
  isDigit c || digitSigns.any (fun r => r.1 ≤ c.toNat && c.toNat < r.1 + r.2) || c == '.'

/-- Takes a token by its text where an operand is due. What is neither a minus sign nor an opening parenthesis
is read as a number if it opens like one. -/
def State.take (t : Token) : State Float → Except Stop (State Float)
  | .operand level outer =>
    match t.lexeme.chars with
    | [] => .error (.broken (.noText t.position))
    | ['-'] => .ok (.operand { level with minuses := level.minuses + 1 } outer)
    | ['('] => .ok (.operand .fresh ((t.position, level) :: outer))
    | c :: rest =>
      if opensNumber c then do
        let x ← (readDecimal (c :: rest)).mapError .broken
        (finish doubles level outer x.toFloat).mapError .fault
      else .error (.fault (.unexpectedToken t.text t.position))
  | s => (step doubles t s).mapError .fault

def State.takeAll : State Float → List Token → Except Stop (State Float)
  | s, [] => .ok s
  | s, t :: rest => do takeAll (← take t s) rest

/-- What the text of a token tells of it: it is read as a number exactly if it is one, and what is neither read
nor an opening parenthesis is an operator or a closing one. -/
structure Token.Told (t : Token) : Prop where
  some_char : t.lexeme.chars ≠ []
  number : ∀ c ∈ t.lexeme.chars.head?, opensNumber c = true →
    ∃ n, t.lexeme = .number n ∧ readDecimal t.lexeme.chars = .ok n.toDouble
  other : ∀ c ∈ t.lexeme.chars.head?, opensNumber c = false → t.lexeme.chars ≠ ['('] →
    (∃ o, t.lexeme = .operator o) ∨ t.lexeme = .closing

/-- Only the text of a number opens like one. -/
theorem Lexeme.opens {l : Lexeme} (h : l.WellFormed) :
    ∃ c rest, l.chars = c :: rest ∧ opensNumber c = l.isNumber := by
  cases l with
  | number n =>
    rcases h with ⟨some_whole, all, -⟩ | ⟨empty, f, hf, -⟩
    · obtain ⟨c, rest, split⟩ := List.exists_cons_of_ne_nil some_whole
      have digit : isDigit c = true := all c (by simp [split])
      exact ⟨c, _, by rw [chars, Number.chars, split]; rfl, by simp [opensNumber, digit, isNumber]⟩
    · exact ⟨'.', f, by rw [chars, Number.chars, empty, hf]; rfl, (by decide : opensNumber '.' = true)⟩
  | operator o => exact ⟨o.symbol, [], rfl, by cases o <;> decide⟩
  | opening => exact ⟨'(', [], rfl, by decide⟩
  | closing => exact ⟨')', [], rfl, by decide⟩

theorem Token.told {t : Token} (h : t.lexeme.WellFormed) : t.Told := by
  obtain ⟨c, rest, split, same⟩ := Lexeme.opens h
  have first : ∀ d ∈ t.lexeme.chars.head?, opensNumber d = t.lexeme.isNumber := by
    intro d hd
    obtain rfl : c = d := by simpa [split] using hd
    exact same
  refine ⟨by simp [split], ?_, ?_⟩
  · intro d hd opens
    rw [first d hd] at opens
    cases hl : t.lexeme with
    | number n =>
      have formed : (Lexeme.number n).WellFormed := hl ▸ h
      exact ⟨n, rfl, readDecimal_number formed⟩
    | operator | opening | closing => simp [hl, Lexeme.isNumber] at opens
  · intro d hd closed no_opening
    rw [first d hd] at closed
    cases hl : t.lexeme with
    | number n => simp [hl, Lexeme.isNumber] at closed
    | operator o => exact Or.inl ⟨o, rfl⟩
    | opening => exact absurd (congrArg Lexeme.chars hl) no_opening
    | closing => exact Or.inr rfl

namespace State

/-- Taken by its text, a token of the grammar makes the step that its lexeme does. -/
theorem take_eq {t : Token} (h : t.lexeme.WellFormed) (s : State Float) :
    take t s = (step doubles t s).mapError .fault := by
  cases s with
  | operator sum term outer => rfl
  | operand level outer =>
    obtain ⟨lexeme, position⟩ := t
    cases lexeme with
    | number n =>
      obtain ⟨c, rest, split, opens⟩ := Lexeme.opens h
      have text : (Lexeme.number n).chars = c :: rest := split
      have opens : opensNumber c = true := opens
      have read : readDecimal (c :: rest) = .ok n.toDouble := text ▸ readDecimal_number h
      have no_minus : c ≠ '-' := by
        rintro rfl
        exact absurd opens (by decide)
      have no_opening : c ≠ '(' := by
        rintro rfl
        exact absurd opens (by decide)
      simp [take, step, text, opens, read, no_minus, no_opening, bind, Except.bind, Except.mapError, doubles]
    | operator o => cases o <;> rfl
    | opening | closing => rfl

theorem takeAll_eq {ts : List Token} (h : ∀ t ∈ ts, t.lexeme.WellFormed) (s : State Float) :
    takeAll s ts = (run doubles s ts).mapError .fault := by
  induction ts generalizing s with
  | nil => rfl
  | cons t ts ih =>
    rw [takeAll, take_eq (h t (List.mem_cons_self ..)), run]
    cases step doubles t s with
    | ok s' => exact ih (fun u hu => h u (List.mem_cons_of_mem t hu)) s'
    | error f => rfl

end State

def State.result (s : State Float) : Except Stop Double :=
  ((s.value doubles).map Double.ofFloat).mapError .fault

/-- A success as it is accepted when it is put together. -/
def Success.accept (s : Success) : Except Stop Report :=
  (Report.check s.toMembers).mapError fun issues => .broken (.rejected issues)

def takeText (s : List Char) : Except Stop Double := do
  match ← (tokens s).mapError .fault with
  | [] => .error (.fault .empty)
  | ts => (← State.start.takeAll ts).result

def attemptDouble (e : String) (s : List Char) : Except Stop Report := do
  let x ← takeText s
  if !x.isFinite then .error (.fault .notFinite)
  else
    let formatted ← (showNumber x.unsignZero).mapError .broken
    Success.accept ⟨e, .number x.unsignZero, formatted⟩

def attemptOperation (e : String) (o : Operation) : Except Stop Report := do
  let left ← (readWhole o.left).mapError .broken
  let right ← (readWhole o.right).mapError .broken
  if o.operator = .div && right = 0 then .error (.fault .exactDivisionByZero)
  else
    let result ← (applyWhole o.operator left right).mapError .broken
    let text ← (writeWhole result).mapError .broken
    Success.accept ⟨e, .digits text, text⟩

def attemptDigits (e : String) (s : List Char) : Except Stop Report :=
  match Operation.ofChars? s with
  | none => .error (.fault .unsupported)
  | some o => attemptOperation e o

def attemptChars (e : String) (s : List Char) : Except Stop Report :=
  if s.isEmpty then .error (.fault .empty)
  else if lengthLimit < s.length then .error (.fault (.tooLong lengthLimit))
  else if hasLongRun s then attemptDigits e s
  else attemptDouble e s

/-- The evaluation of an expression. A fault becomes a report, which has to be accepted as well. -/
def attempt (e : String) : Except Breakage Report :=
  match attemptChars e (withoutBlanks e) with
  | .ok r => .ok r
  | .error (.fault f) => (Report.check (Report.failure e f.message).toMembers).mapError .rejected
  | .error (.broken b) => .error b

/-- What is put together from a finite number or from digits is accepted as it is. -/
theorem Report.check_success {s : Success} (finite : s.value.isFinite = true) :
    check s.toMembers = .ok (.success s) := by
  have value : required s.toMembers "value" Outcome.check = .ok s.value := by
    obtain ⟨expression, value, formatted⟩ := s
    cases value <;> rfl
  have expression : required s.toMembers "expression" Schema.text = .ok s.expression := rfl
  have exact_flag : optional s.toMembers "exact" false bool = .ok s.value.isExact := rfl
  have formatted : required s.toMembers "formatted" Schema.text = .ok s.formatted := rfl
  have whole : checkSuccess s.toMembers = .ok (.success s) := by
    simp [checkSuccess, value, expression, exact_flag, formatted, both, require, finite, bind, Except.bind,
      pure, Except.pure]
  show under (.member successTag) (checkSuccess s.toMembers) = _
  rw [whole]
  rfl

theorem Report.check_failure (e message : String) :
    check (failure e message).toMembers = .ok (.failure e message) := rfl

theorem Success.accept_eq {s : Success} (finite : s.value.isFinite = true) :
    s.accept = .ok (.success s) := by
  rw [accept, Report.check_success finite]
  rfl

theorem wellFormed_of_tokens {s : List Char} {ts : List Token} (h : tokens s = .ok ts) :
    ∀ t ∈ ts, t.lexeme.WellFormed := by
  intro t ht
  exact (spells_of_tokensFrom h).1 t.lexeme (List.mem_map_of_mem ht)

theorem takeText_eq (s : List Char) : takeText s = (readDouble s).mapError .fault := by
  rw [takeText, readDouble, read]
  cases h : tokens s with
  | error f => rfl
  | ok ts =>
    cases ts with
    | nil => rfl
    | cons t ts =>
      show (do (← State.start.takeAll (t :: ts)).result) = _
      rw [State.takeAll_eq (wellFormed_of_tokens h)]
      show _ = ((do (← State.run doubles .start (t :: ts)).value doubles).map Double.ofFloat).mapError Stop.fault
      cases State.run doubles .start (t :: ts) <;> rfl

theorem wellFormed_of_readDouble {s : List Char} {x : Double} (h : readDouble s = .ok x) : x.WellFormed := by
  rw [readDouble] at h
  cases hr : read doubles s with
  | error f => simp [hr, Except.map] at h
  | ok y =>
    obtain rfl : Double.ofFloat y = x := by simpa [hr, Except.map] using h
    exact Double.wellFormed_ofFloat y

/-- A fault or a result, as an evaluation reports it. -/
def reported (e : String) (r : Except Fault (Outcome × String)) : Except Stop Report :=
  (r.map fun p => .success ⟨e, p.1, p.2⟩).mapError .fault

theorem attemptDouble_eq (e : String) (s : List Char) :
    attemptDouble e s = reported e (evaluateDouble s) := by
  rw [attemptDouble, takeText_eq, evaluateDouble]
  cases h : readDouble s with
  | error f => rfl
  | ok x =>
    cases x with
    | nan | infinite => rfl
    | finite negative m k =>
      have shown := showNumber_unsignZero (wellFormed_of_readDouble h)
      have accepted : Success.accept ⟨e, .number (Double.finite negative m k).unsignZero,
          displayFinite negative m k⟩ = .ok (.success _) := Success.accept_eq rfl
      show (do
        let formatted ← (showNumber (Double.finite negative m k).unsignZero).mapError Stop.broken
        Success.accept ⟨e, .number (Double.finite negative m k).unsignZero, formatted⟩) = _
      rw [shown]
      exact accepted

/-- An operation without a conversion beyond the limit has operands and a result within it. -/
theorem Operation.fits {o : Operation} (h : o.oversize? = none) :
    o.left.length ≤ conversionLimit ∧ o.right.length ≤ conversionLimit ∧
      ∀ n, o.result? = some n → writeWhole n = .ok (toString n) := by
  unfold oversize? at h
  split at h
  · cases h
  rename_i left
  split at h
  · cases h
  rename_i right
  refine ⟨Nat.not_lt.mp left, Nat.not_lt.mp right, ?_⟩
  intro n hn
  rw [hn] at h
  dsimp only at h
  split at h
  · cases h
  rename_i small
  exact if_neg small

theorem attemptOperation_eq (e : String) {s : List Char} {o : Operation}
    (h : Operation.ofChars? s = some o) (fits : o.oversize? = none) :
    attemptOperation e o = match o.result? with
      | none => .error (.fault .exactDivisionByZero)
      | some n => .ok (.success ⟨e, .digits (toString n), toString n⟩) := by
  obtain ⟨⟨left_some, left_digits⟩, ⟨right_some, right_digits⟩, -⟩ := ofChars?_iff.mp h
  obtain ⟨left_few, right_few, written⟩ := Operation.fits fits
  have left := readWhole_digits left_some left_digits left_few
  have right := readWhole_digits right_some right_digits right_few
  simp only [attemptOperation, left, right, Except.mapError, bind, Except.bind]
  by_cases zero : o.operator = .div ∧ numberOf o.right = 0
  · have no_result : o.result? = none := by simp [Operation.result?, zero]
    rw [no_result, if_pos (by simpa using zero)]
  · have result : o.result? = some (applyExact o.operator (numberOf o.left) (numberOf o.right)) := by
      simp [Operation.result?, zero]
    have applied : applyWhole o.operator (numberOf o.left) (numberOf o.right) =
        .ok (applyExact o.operator (numberOf o.left) (numberOf o.right)) := by
      rw [applyWhole, if_neg (by simpa using zero)]
    rw [result, if_neg (by simpa using zero), applied]
    simp only [written _ result]
    exact Success.accept_eq rfl

theorem attemptDigits_eq (e : String) {s : List Char} (short : s.length ≤ 200) :
    attemptDigits e s = reported e (evaluateDigits s) := by
  rw [attemptDigits, evaluateDigits, evaluateExact]
  cases h : Operation.ofChars? s with
  | none => rfl
  | some o =>
    have whole := congrArg List.length (ofChars?_iff.mp h).2.2
    simp only [List.length_append, List.length_cons] at whole
    have limit : conversionLimit = 4300 := rfl
    refine (attemptOperation_eq e h (Operation.oversize?_eq_none (by omega))).trans ?_
    dsimp only
    cases o.result? <;> rfl

theorem attemptChars_eq (e : String) (s : List Char) :
    attemptChars e s = reported e (evaluateChars lengthLimit s) := by
  have limit : lengthLimit = 200 := rfl
  unfold attemptChars evaluateChars
  by_cases empty : s.isEmpty = true
  · rw [if_pos empty, if_pos empty]
    rfl
  rw [if_neg empty, if_neg empty]
  by_cases long : lengthLimit < s.length
  · rw [if_pos long, if_pos long]
    rfl
  rw [if_neg long, if_neg long]
  by_cases run : hasLongRun s = true
  · rw [if_pos run, if_pos run]
    exact attemptDigits_eq e (by omega)
  · rw [if_neg run, if_neg run]
    exact attemptDouble_eq e s

/-- Nothing breaks: an evaluation has a report, that of `evaluate`. -/
theorem attempt_eq (e : String) : attempt e = .ok (Report.of (evaluate e)) := by
  rw [attempt, attemptChars_eq, evaluate, evaluateWithin]
  cases evaluateChars lengthLimit (withoutBlanks e) with
  | ok p => rfl
  | error f =>
    show (Report.check (Report.failure e f.message).toMembers).mapError Breakage.rejected = _
    rw [Report.check_failure]
    rfl

theorem evaluateDigits_result {s : List Char} {value : Outcome} {formatted : String}
    (h : evaluateDigits s = .ok (value, formatted)) :
    ∃ n : Int, value = .digits formatted ∧ Writes formatted.toList n := by
  cases hr : evaluateExact s with
  | error f => simp [evaluateDigits, hr, bind, Except.bind] at h
  | ok n =>
    obtain ⟨rfl, rfl⟩ : Outcome.digits (toString n) = value ∧ toString n = formatted := by
      simpa [evaluateDigits, hr, bind, Except.bind, pure, Except.pure] using h
    exact ⟨n, rfl, writes_toString n⟩

theorem evaluateDouble_result {s : List Char} {value : Outcome} {formatted : String}
    (h : evaluateDouble s = .ok (value, formatted)) :
    ∃ x : Double, value = .number x ∧ x.isFinite = true ∧ (∀ k, x ≠ .finite true 0 k) ∧
      showNumber x = .ok formatted := by
  cases hr : readDouble s with
  | error f => simp [evaluateDouble, hr, bind, Except.bind] at h
  | ok x =>
    cases x with
    | finite negative m k =>
      obtain ⟨rfl, rfl⟩ : Outcome.number (Double.finite negative m k).unsignZero = value ∧
          displayFinite negative m k = formatted := by
        simpa [evaluateDouble, hr, bind, Except.bind, pure, Except.pure] using h
      refine ⟨_, rfl, rfl, ?_, showNumber_unsignZero (wellFormed_of_readDouble hr)⟩
      rintro l zero
      obtain ⟨sign, rfl, -⟩ := Double.finite.inj zero
      simp at sign
    | nan | infinite =>
      simp [evaluateDouble, hr, bind, Except.bind, throw, throwThe, MonadExceptOf.throw] at h

/-- A success has the digits of a whole number, which are its display too, or a finite number without a
negative zero among them, and its display. -/
theorem evaluate_result {e : String} {s : Success} (h : evaluate e = .ok s) : s.expression = e ∧
    ((∃ n : Int, s.value = .digits s.formatted ∧ Writes s.formatted.toList n) ∨
      ∃ x : Double, s.value = .number x ∧ x.isFinite = true ∧ (∀ k, x ≠ .finite true 0 k) ∧
        showNumber x = .ok s.formatted) := by
  unfold evaluate evaluateWithin at h
  split at h
  · rename_i value formatted hc
    obtain rfl := Except.ok.inj h
    refine ⟨rfl, ?_⟩
    unfold evaluateChars at hc
    split at hc
    · cases hc
    split at hc
    · cases hc
    split at hc
    · exact Or.inl (evaluateDigits_result hc)
    · exact Or.inr (evaluateDouble_result hc)
  · cases h

/-- What a success is shown as is not empty. -/
theorem formatted_ne_empty {e : String} {s : Success} (h : evaluate e = .ok s) : s.formatted ≠ "" := by
  obtain ⟨-, ⟨n, -, writes⟩ | ⟨x, -, -, -, shown⟩⟩ := evaluate_result h
  · intro empty
    rw [empty] at writes
    exact writes.ne_nil rfl
  · exact showNumber_ne_empty shown

/-- No expression breaks its evaluation: no conversion is beyond its limit, every token is what its text says,
and what is put together is accepted. A success is exact with the digits of a whole number, shown as they are,
or it has a finite number that is no negative zero, shown as numbers are. -/
theorem evaluation_unfailing (e : String) :
    attempt e = .ok (Report.of (evaluate e)) ∧
    oversize? lengthLimit e = none ∧
    (∀ ts, tokens (withoutBlanks e) = .ok ts → ∀ t ∈ ts, t.Told) ∧
    ∀ s, evaluate e = .ok s →
      s.expression = e ∧ Report.check s.toMembers = .ok (.success s) ∧
      ((s.value.isExact = true ∧ ∃ n : Int, s.value = .digits s.formatted ∧ Writes s.formatted.toList n) ∨
        (s.value.isExact = false ∧ ∃ x : Double, s.value = .number x ∧ x.isFinite = true ∧
          (∀ k, x ≠ .finite true 0 k) ∧ showNumber x = .ok s.formatted)) := by
  refine ⟨attempt_eq e, oversize?_eq_none e, ?_, ?_⟩
  · intro ts h t ht
    exact Token.told (wellFormed_of_tokens h t ht)
  · intro s h
    obtain ⟨same, result⟩ := evaluate_result h
    rcases result with ⟨n, value, writes⟩ | ⟨x, value, finite, no_negative_zero, shown⟩
    · have accepted : Report.check s.toMembers = .ok (.success s) :=
        Report.check_success (by rw [value]; rfl)
      exact ⟨same, accepted, Or.inl ⟨by rw [value]; rfl, n, value, writes⟩⟩
    · have accepted : Report.check s.toMembers = .ok (.success s) :=
        Report.check_success (by rw [value]; exact finite)
      exact ⟨same, accepted, Or.inr ⟨by rw [value]; rfl, x, value, finite, no_negative_zero, shown⟩⟩

end Reckoner.Arithmetic
