namespace Reckoner.Text

/-- Does the first text stand somewhere in the second, its characters adjacent? -/
def occursIn (needle : List Char) : List Char → Bool
  | [] => needle.isEmpty
  | c :: rest => needle.isPrefixOf (c :: rest) || occursIn needle rest

theorem occursIn_iff {needle hay : List Char} : occursIn needle hay = true ↔ needle <:+: hay := by
  induction hay with
  | nil => simp [occursIn]
  | cons c rest ih =>
    rw [occursIn, Bool.or_eq_true, ih, List.isPrefixOf_iff_prefix, List.infix_cons_iff]

/-- The pieces between the characters of a class: always one more than there are such characters. -/
def splitAtAll (p : Char → Bool) : List Char → List (List Char)
  | [] => [[]]
  | c :: rest =>
    match splitAtAll p rest with
    | piece :: more => if p c then [] :: piece :: more else (c :: piece) :: more
    | [] => [[c]]

/-- What stands before the first character of a class, and what after it if there is one. -/
def cutAt (p : Char → Bool) : List Char → List Char × Option (List Char)
  | [] => ([], none)
  | c :: rest =>
    if p c then ([], some rest)
    else ((c :: (cutAt p rest).1), (cutAt p rest).2)

end Reckoner.Text
