import Reckoner.Text.Encoding

namespace Reckoner.Text

theorem toList_loop (bytes : ByteArray) (i : Nat) (front : List UInt8) :
    ByteArray.toList.loop bytes i front = front.reverse ++ bytes.data.toList.drop i := by
  fun_induction ByteArray.toList.loop bytes i front with
  | case1 i front inside ih =>
    have bound : i < bytes.data.toList.length := by simpa using inside
    have here : bytes.get! i = bytes.data.toList[i] := by
      simp only [ByteArray.get!, Array.getElem_toList]
      exact getElem!_pos bytes.data i (by simpa using inside)
    rw [ih, List.drop_eq_getElem_cons bound, here]
    simp
  | case2 i front outside =>
    have bound : bytes.data.toList.length ≤ i := by simpa using outside
    rw [List.drop_eq_nil_of_le bound, List.append_nil]

theorem bytesOf_eq (s : String) : bytesOf s = s.toList.flatMap String.utf8EncodeChar := by
  have bytes : s.toUTF8 = (s.toList.flatMap String.utf8EncodeChar).toByteArray :=
    String.utf8Encode_toList.symm
  rw [bytesOf, bytes, ByteArray.toList, toList_loop, List.reverse_nil, List.nil_append, List.drop_zero,
    List.data_toByteArray, List.toList_toArray]

theorem char?_eq_some {n : Nat} {c : Char} : char? n = some c ↔ n = c.toNat := by
  rw [char?, Option.dite_none_right_eq_some]
  constructor
  · rintro ⟨valid, same⟩
    obtain rfl := Option.some.inj same
    rfl
  · rintro rfl
    exact ⟨c.valid, rfl⟩

theorem charOf_toNat (c : Char) : charOf c.toNat = c := by
  rw [charOf, char?_eq_some.mpr rfl, Option.getD_some]

/-- Code points are those of a text, if none of them is half of a surrogate pair. -/
theorem chars?_eq_some {codes : List Nat} {s : List Char} : chars? codes = some s ↔ codes = s.map Char.toNat := by
  induction codes generalizing s with
  | nil =>
    rw [chars?, Option.some.injEq, eq_comm, eq_comm (a := []), List.map_eq_nil_iff]
  | cons n codes ih =>
    rw [chars?]
    constructor
    · intro h
      split at h
      · rename_i c tail first later
        obtain rfl := Option.some.inj h
        rw [List.map_cons, char?_eq_some.mp first, ih.mp later]
      · cases h
    · intro h
      cases s with
      | nil => cases h
      | cons c s =>
        obtain ⟨rfl, later⟩ := List.cons.inj h
        rw [char?_eq_some.mpr rfl, ih.mpr later]

theorem toNat_ofNat {n : Nat} (small : n < 256) : (UInt8.ofNat n).toNat = n := by
  simp [Nat.mod_eq_of_lt small]

/-- A byte that continues a character carries six bits of it. -/
theorem toNat_carrier (n : Nat) : (UInt8.ofNat (n % 64 + 128)).toNat = n % 64 + 128 :=
  toNat_ofNat (by omega)

section

variable {p : Strict} {n : Nat} (low : p.low ≤ n % 64 + 128) (high : n % 64 + 128 ≤ p.high)
  (rest : Bytes)

include low high

theorem lenientFrom_more {k : Nat} (missing : p.missing = k + 2) :
    lenientFrom (some p) (UInt8.ofNat (n % 64 + 128) :: rest) =
      lenientFrom (some ⟨k + 1, 64 * p.value + n % 64, 0x80, 0xBF⟩) rest := by
  have more : ¬ k + 2 ≤ 1 := by omega
  simp only [lenientFrom, toNat_carrier, low, high, decide_true, Bool.and_self, if_true, missing, more,
    if_false, Nat.add_sub_cancel, Nat.add_succ_sub_one]

theorem lenientFrom_last (missing : p.missing = 1) :
    lenientFrom (some p) (UInt8.ofNat (n % 64 + 128) :: rest) =
      charOf (64 * p.value + n % 64) :: lenientFrom none rest := by
  simp only [lenientFrom, toNat_carrier, low, high, decide_true, Bool.and_self, if_true, missing,
    Nat.le_refl, Nat.add_sub_cancel]

end

/-- The bytes of a character are read as this character. -/
theorem lenientFrom_char (c : Char) (rest : Bytes) :
    lenientFrom none (String.utf8EncodeChar c ++ rest) = c :: lenientFrom none rest := by
  have valid : c.toNat < 0xD800 ∨ 0xDFFF < c.toNat ∧ c.toNat < 0x110000 := c.valid
  have back := charOf_toNat c
  have same : c.val.toNat = c.toNat := rfl
  have begun : ∀ b rest, lenientFrom none (b :: rest) =
      (beginStrict b.toNat).1 ++ lenientFrom (beginStrict b.toNat).2 rest := fun _ _ => rfl
  unfold String.utf8EncodeChar
  rw [same]
  generalize c.toNat = n at valid back
  dsimp only
  -- One case for each number of bytes.
  split
  · rw [List.singleton_append, begun, toNat_ofNat (by omega), beginStrict, if_pos (by omega), back]
    rfl
  split
  · have value : 64 * (n / 64 % 32 + 192 - 0xC0) + n % 64 = n := by omega
    rw [List.cons_append, List.singleton_append, begun, toNat_ofNat (by omega), beginStrict,
      if_neg (by omega), if_neg (by omega), if_pos (by omega), List.nil_append,
      lenientFrom_last (by dsimp only; omega) (by dsimp only; omega) rest rfl, value, back]
  split
  · have value : 64 * (64 * (n / 4096 % 16 + 224 - 0xE0) + n / 64 % 64) + n % 64 = n := by omega
    rw [List.cons_append, List.cons_append, List.singleton_append, begun, toNat_ofNat (by omega),
      beginStrict, if_neg (by omega), if_neg (by omega), if_neg (by omega), if_pos (by omega),
      List.nil_append, lenientFrom_more (by dsimp only; split <;> omega) (by dsimp only; split <;> omega) _ rfl,
      lenientFrom_last (by dsimp only; omega) (by dsimp only; omega) rest rfl, value, back]
  · have value : 64 * (64 * (64 * (n / 262144 % 8 + 240 - 0xF0) + n / 4096 % 64) + n / 64 % 64) + n % 64 =
        n := by omega
    rw [List.cons_append, List.cons_append, List.cons_append, List.singleton_append, begun,
      toNat_ofNat (by omega), beginStrict, if_neg (by omega), if_neg (by omega), if_neg (by omega),
      if_neg (by omega), if_pos (by omega), List.nil_append,
      lenientFrom_more (by dsimp only; split <;> omega) (by dsimp only; split <;> omega) _ rfl,
      lenientFrom_more (by dsimp only; omega) (by dsimp only; omega) _ rfl,
      lenientFrom_last (by dsimp only; omega) (by dsimp only; omega) rest rfl, value, back]

/-- The bytes of a text are read as this text, and what follows is read on its own. -/
theorem decodeLeniently_append (s : String) (rest : Bytes) :
    decodeLeniently (bytesOf s ++ rest) = s.toList ++ decodeLeniently rest := by
  rw [bytesOf_eq, decodeLeniently, decodeLeniently]
  induction s.toList with
  | nil => rfl
  | cons c l ih => rw [List.flatMap_cons, List.append_assoc, lenientFrom_char, ih, List.cons_append]

end Reckoner.Text
