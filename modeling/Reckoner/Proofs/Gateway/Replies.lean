import Reckoner.Gateway.Reply
import Reckoner.Proofs.Json.Depth

namespace Reckoner.Gateway

open Reckoner.Arithmetic (conversionLimit)
open Reckoner.Json Reckoner.Text

/-- The characters that a body spells, in whichever form of Unicode. -/
def Decodes (body : Bytes) (s : List Char) : Prop :=
  decodeMarked body = some (s.map Char.toNat)

/-- A body that is an object whose last response is a text, with gaps around the object. With it, containers are
nested no deeper than so many levels. -/
def Gives (depth : Nat) (body : Bytes) (s : String) : Prop :=
  ∃ g x h members within, Decodes body (g ++ (x ++ h)) ∧ Gap g ∧ Gap h ∧ depth = within + 1 ∧
    Enclosed (Member (Spells conversionLimit within)) '\x7b' '\x7d' x members ∧
    members.reverse.lookup "response" = some (.text s)

/-- A body that opens one container more than may be open. -/
def BodyTooDeep (depth : Nat) (body : Bytes) : Prop :=
  ∃ s c, Decodes body s ∧ TooDeep depth conversionLimit s c

section Body

variable {depth : Nat} {body : Bytes}

theorem readBytes_of_decodes {s : List Char} (h : Decodes body s) : readBytes depth body = read depth s := by
  rw [readBytes, h]
  dsimp only
  rw [chars?_eq_some.mpr rfl]

/-- A body whose characters cannot be told is not read at all. -/
theorem readBytes_cases (depth : Nat) (body : Bytes) : (∃ s, Decodes body s) ∨
    readBytes depth body = .error .undecodable ∨ readBytes depth body = .error .halfPair := by
  unfold readBytes Decodes
  cases decoded : decodeMarked body with
  | none => exact Or.inr (Or.inl rfl)
  | some codes =>
    cases whole : chars? codes with
    | none => exact Or.inr (Or.inr (by simp [whole]))
    | some s => exact Or.inl ⟨s, congrArg some (chars?_eq_some.mp whole)⟩

theorem readBytes_ok_iff {v : Value} : readBytes depth body = .ok v ↔
    ∃ s, Decodes body s ∧ Accepted depth conversionLimit s v := by
  constructor
  · intro ok
    rcases readBytes_cases depth body with ⟨s, decodes⟩ | failed | failed
    · rw [readBytes_of_decodes decodes] at ok
      exact ⟨s, decodes, readWithin_ok_iff.mp ok⟩
    · rw [failed] at ok
      cases ok
    · rw [failed] at ok
      cases ok
  · rintro ⟨s, decodes, accepted⟩
    rw [readBytes_of_decodes decodes]
    exact readWithin_ok_iff.mpr accepted

theorem readBytes_tooDeep_iff : (∃ c, readBytes depth body = .error (.tooDeep c)) ↔ BodyTooDeep depth body := by
  constructor
  · rintro ⟨c, deep⟩
    rcases readBytes_cases depth body with ⟨s, decodes⟩ | failed | failed
    · rw [readBytes_of_decodes decodes] at deep
      exact ⟨s, c, decodes, readWithin_tooDeep_iff.mp deep⟩
    · rw [failed] at deep
      cases deep
    · rw [failed] at deep
      cases deep
  · rintro ⟨s, c, decodes, deep⟩
    refine ⟨c, ?_⟩
    rw [readBytes_of_decodes decodes]
    exact readWithin_tooDeep_iff.mpr deep

theorem generated?_eq_some {v : Value} {s : String} : generated? v = some s ↔
    ∃ members : Members, v = .object members ∧ members.lookup "response" = some (.text s) := by
  unfold generated?
  split
  · split <;> simp_all
  · simp_all

/-- An object is spelled between braces. -/
theorem spells_object_iff {x : List Char} {members : Members} :
    Spells conversionLimit depth x (.object members) ↔ ∃ pairs within, depth = within + 1 ∧
      Enclosed (Member (Spells conversionLimit within)) '\x7b' '\x7d' x pairs ∧ members = Members.ofPairs pairs := by
  have no_scalar : ¬ Scalar conversionLimit x (.object members) := by
    intro scalar
    cases scalar with
    | number spelled => cases spelled
  cases depth with
  | zero =>
    refine iff_of_false no_scalar ?_
    rintro ⟨_, _, ⟨⟩, -⟩
  | succ within =>
    constructor
    · rintro (scalar | ⟨_, -, same⟩ | ⟨pairs, enclosed, same⟩)
      · exact absurd scalar no_scalar
      · cases same
      · exact ⟨pairs, within, rfl, enclosed, Value.object.inj same⟩
    · rintro ⟨pairs, _, same, enclosed, rfl⟩
      obtain rfl := Nat.succ.inj same
      exact Or.inr (Or.inr ⟨pairs, enclosed, rfl⟩)

theorem ofBody_eq (depth : Nat) (body : Bytes) : ofBody depth body = match readBytes depth body with
    | .error (.tooDeep c) => .error (.tooDeep c)
    | .error .halfPair => .error .halfPair
    | .error _ => .error (.gateway notJson)
    | .ok v =>
      match generated? v with
      | some s => .ok s
      | none => .error (.gateway noText) :=
  rfl

theorem ofBody_ok_iff {s : String} : ofBody depth body = .ok s ↔ Gives depth body s := by
  have read : ofBody depth body = .ok s ↔ ∃ v, readBytes depth body = .ok v ∧ generated? v = some s := by
    rw [ofBody_eq]
    split
    · simp_all
    · simp_all
    · simp_all
    · split <;> simp_all
  rw [read]
  constructor
  · rintro ⟨v, ok, generated⟩
    obtain ⟨members, rfl, response⟩ := generated?_eq_some.mp generated
    obtain ⟨_, decodes, g, x, h, before, spelled, behind, rfl⟩ := readBytes_ok_iff.mp ok
    obtain ⟨pairs, within, deep, enclosed, rfl⟩ := spells_object_iff.mp spelled
    exact ⟨g, x, h, pairs, within, decodes, before, behind, deep, enclosed,
      (Members.get?_ofPairs pairs _).symm.trans response⟩
  · rintro ⟨g, x, h, pairs, within, decodes, before, behind, deep, enclosed, response⟩
    refine ⟨.object (Members.ofPairs pairs), readBytes_ok_iff.mpr ⟨_, decodes, g, x, h, before, ?_, behind, rfl⟩,
      generated?_eq_some.mpr ⟨_, rfl, (Members.get?_ofPairs pairs _).trans response⟩⟩
    exact spells_object_iff.mpr ⟨pairs, within, deep, enclosed, rfl⟩

/-- A body that can be read, or is refused for another reason, gives a text or is reported as unusable. -/
theorem ofBody_cases (whole : ofBody depth body ≠ .error .halfPair) (flat : ¬ BodyTooDeep depth body) :
    (∃ s, ofBody depth body = .ok s) ∨ ∃ m, ofBody depth body = .error (.gateway (.response m)) := by
  rw [ofBody_eq] at whole ⊢
  split
  · rename_i c deep
    exact absurd (readBytes_tooDeep_iff.mp ⟨c, deep⟩) flat
  · rename_i half
    rw [half] at whole
    exact absurd rfl whole
  · exact Or.inr ⟨_, rfl⟩
  · split
    · exact Or.inl ⟨_, rfl⟩
    · exact Or.inr ⟨_, rfl⟩

theorem ofBody_tooDeep (deep : BodyTooDeep depth body) : ∃ c, ofBody depth body = .error (.tooDeep c) := by
  obtain ⟨c, failed⟩ := readBytes_tooDeep_iff.mpr deep
  exact ⟨c, by rw [ofBody_eq, failed]⟩

end Body

/-- A reply is told as what it is: the failure of the connection, the status, an unusable body, or the text. -/
structure Classified (depth : Nat) (r : Reply) : Prop where
  unavailable : (∃ m, r.text depth = .error (.gateway (.unavailable m))) ↔ r = .unreachable
  status (n : Int) : r.text depth = .error (.gateway (.status n)) ↔
    ∃ body, r = .answer n body ∧ ¬ (200 ≤ n ∧ n < 300)
  response : (∃ m, r.text depth = .error (.gateway (.response m))) ↔
    ∃ n body, r = .answer n body ∧ (200 ≤ n ∧ n < 300) ∧ ∀ s, ¬ Gives depth body s
  text (s : String) : r.text depth = .ok s ↔
    ∃ n body, r = .answer n body ∧ (200 ≤ n ∧ n < 300) ∧ Gives depth body s
  nothing_else (f : ReadFailure) : r.text depth = .error f → (∃ m, f = .gateway (.unavailable m)) ∨
    (∃ n, f = .gateway (.status n)) ∨ ∃ m, f = .gateway (.response m)
  alive : r.isAlive = false ↔ r = .unreachable ∨ ∃ n body, r = .answer n body ∧ ¬ (200 ≤ n ∧ n < 300)

theorem isSuccess_iff {n : Int} : isSuccess n = true ↔ 200 ≤ n ∧ n < 300 := by
  simp [isSuccess]

section

variable {depth : Nat}

theorem classified_unreachable : Classified depth .unreachable := by
  refine ⟨?_, ?_, ?_, ?_, ?_, ?_⟩ <;>
    simp [Reply.text, Reply.isAlive, GatewayFailure.unreachable]

/-- A status that is no success is all that is told, whatever the body. -/
theorem classified_failure {n : Int} (failed : ¬ (200 ≤ n ∧ n < 300)) (body : Bytes) :
    Classified depth (.answer n body) := by
  have text : (Reply.answer n body).text depth = .error (.gateway (.status n)) :=
    if_neg (mt isSuccess_iff.mp failed)
  have alive : (Reply.answer n body).isAlive = false := Bool.eq_false_iff.mpr (mt isSuccess_iff.mp failed)
  refine ⟨?_, fun k => ?_, ?_, fun s => ?_, fun f hf => ?_, iff_of_true alive (Or.inr ⟨n, body, rfl, failed⟩)⟩
  · simp [text]
  · rw [text]
    constructor
    · rintro ⟨⟩
      exact ⟨body, rfl, failed⟩
    · rintro ⟨_, ⟨⟩, -⟩
      rfl
  · rw [text]
    refine iff_of_false (by simp) ?_
    rintro ⟨_, _, ⟨⟩, success, -⟩
    exact failed success
  · rw [text]
    refine iff_of_false (by simp) ?_
    rintro ⟨_, _, ⟨⟩, success, -⟩
    exact failed success
  · rw [text] at hf
    obtain rfl := Except.error.inj hf
    exact Or.inr (Or.inl ⟨n, rfl⟩)

/-- Of a success the body decides, if it is not refused for its depth. -/
theorem classified_success {n : Int} (success : 200 ≤ n ∧ n < 300) {body : Bytes}
    (whole : ofBody depth body ≠ .error .halfPair) (flat : ¬ BodyTooDeep depth body) :
    Classified depth (.answer n body) := by
  have text : (Reply.answer n body).text depth = ofBody depth body := if_pos (isSuccess_iff.mpr success)
  have alive : (Reply.answer n body).isAlive = true := isSuccess_iff.mpr success
  have unread : (∃ m, ofBody depth body = .error (.gateway (.response m))) ↔ ∀ s, ¬ Gives depth body s := by
    constructor
    · rintro ⟨m, failed⟩ s gives
      rw [ofBody_ok_iff.mpr gives] at failed
      cases failed
    · intro none_given
      rcases ofBody_cases whole flat with ⟨s, given⟩ | failed
      · exact absurd (ofBody_ok_iff.mp given) (none_given s)
      · exact failed
  have unusable (f : ReadFailure) (failed : ofBody depth body = .error f) : ∃ m, f = .gateway (.response m) := by
    rcases ofBody_cases whole flat with ⟨s, given⟩ | ⟨m, told⟩
    · rw [given] at failed
      cases failed
    · rw [told] at failed
      exact ⟨m, (Except.error.inj failed).symm⟩
  refine ⟨?_, fun k => ?_, ?_, fun s => ?_, fun f hf => ?_, ?_⟩
  · refine iff_of_false ?_ nofun
    rintro ⟨m, failed⟩
    obtain ⟨_, ⟨⟩⟩ := unusable _ (text ▸ failed)
  · refine iff_of_false ?_ ?_
    · intro failed
      obtain ⟨_, ⟨⟩⟩ := unusable _ (text ▸ failed)
    · rintro ⟨_, ⟨⟩, failed⟩
      exact failed success
  · rw [text, unread]
    constructor
    · intro none_given
      exact ⟨n, body, rfl, success, none_given⟩
    · rintro ⟨_, _, ⟨⟩, -, none_given⟩
      exact none_given
  · rw [text, ofBody_ok_iff]
    constructor
    · intro gives
      exact ⟨n, body, rfl, success, gives⟩
    · rintro ⟨_, _, ⟨⟩, -, gives⟩
      exact gives
  · exact Or.inr (Or.inr (unusable f (text ▸ hf)))
  · refine iff_of_false (by simp [alive]) ?_
    rintro (unreachable | ⟨_, _, ⟨⟩, failed⟩)
    · cases unreachable
    · exact failed success

theorem text_tooDeep {n : Int} (success : 200 ≤ n ∧ n < 300) {body : Bytes} (deep : BodyTooDeep depth body) :
    ∃ c, (Reply.answer n body).text depth = .error (.tooDeep c) := by
  obtain ⟨c, failed⟩ := ofBody_tooDeep deep
  exact ⟨c, (if_pos (isSuccess_iff.mpr success)).trans failed⟩

end

/-- Every reply is told as what it is, but for a success whose body is nested too deep to be read; replies with half of
a surrogate pair in them are beyond what texts here can hold. -/
theorem classified_iff (depth : Nat) (r : Reply) (unicode : r.text depth ≠ .error .halfPair) : Classified depth r ↔
    ¬ ∃ n body, r = .answer n body ∧ (200 ≤ n ∧ n < 300) ∧ BodyTooDeep depth body := by
  constructor
  · rintro classified ⟨n, body, rfl, success, deep⟩
    obtain ⟨c, text⟩ := text_tooDeep success deep
    rcases classified.nothing_else _ text with ⟨_, ⟨⟩⟩ | ⟨_, ⟨⟩⟩ | ⟨_, ⟨⟩⟩
  · intro flat
    cases r with
    | unreachable => exact classified_unreachable
    | answer n body =>
      by_cases success : 200 ≤ n ∧ n < 300
      · have text : (Reply.answer n body).text depth = ofBody depth body := if_pos (isSuccess_iff.mpr success)
        exact classified_success success (text ▸ unicode) fun deep => flat ⟨n, body, rfl, success, deep⟩
      · exact classified_failure success body

/-- A response that is written with the escapes of a surrogate pair. -/
theorem classified_pair :
    let r := Reply.answer 200 (bytesOf "\x7b\"response\": \"\\ud83d\\ude00\"\x7d")
    r.text 1 = .ok "😀" ∧ r.text 1 ≠ .error .halfPair ∧ Classified 1 r := by
  intro r
  have told : r.text 1 = .ok "😀" := by decide +kernel
  have unicode : r.text 1 ≠ .error .halfPair := by
    rw [told]
    exact nofun
  refine ⟨told, unicode, (classified_iff 1 r unicode).mpr ?_⟩
  rintro ⟨n, body, same, success, deep⟩
  obtain ⟨c, failed⟩ := text_tooDeep success deep
  rw [← same, told] at failed
  cases failed

theorem opens_lists (digits depth : Nat) : Opens digits depth (List.replicate depth '[') := by
  induction depth with
  | zero => rfl
  | succ depth ih => exact Or.inl ⟨[], [], _, nofun, .none, ih, rfl⟩

/-- Bytes of ASCII are its characters. -/
theorem utf8From_ascii {bytes : Bytes} (ascii : ∀ b ∈ bytes, b.toNat < 0x80) :
    utf8From none bytes = some (bytes.map UInt8.toNat) := by
  induction bytes with
  | nil => rfl
  | cons b bytes ih =>
    have here := ascii b (List.mem_cons_self ..)
    rw [utf8From, lead, if_pos here]
    dsimp only
    rw [ih fun d hd => ascii d (List.mem_cons_of_mem b hd)]
    rfl

/-- Lists in lists are ASCII, with no zeros and no mark in front. -/
theorem decodes_lists {n : Nat} (long : 4 ≤ n) :
    Decodes (List.replicate n 0x5B ++ List.replicate n 0x5D) (List.replicate n '[' ++ List.replicate n ']') := by
  have ascii : ∀ b ∈ List.replicate n (0x5B : UInt8) ++ List.replicate n 0x5D, b.toNat < 0x80 := by
    intro b hb
    rcases List.mem_append.mp hb with opening | closing
    · obtain rfl := List.eq_of_mem_replicate opening
      decide
    · obtain rfl := List.eq_of_mem_replicate closing
      decide
  have plain : decodeMarked (List.replicate n 0x5B ++ List.replicate n 0x5D) =
      utf8From none (List.replicate n 0x5B ++ List.replicate n 0x5D) := by
    obtain ⟨more, rfl⟩ := Nat.exists_eq_add_of_le' long
    rfl
  rw [Decodes, plain, utf8From_ascii ascii]
  simp

theorem bodyTooDeep_lists {depth n : Nat} (few : depth < n) (long : 4 ≤ n) :
    BodyTooDeep depth (List.replicate n 0x5B ++ List.replicate n 0x5D) := by
  obtain ⟨more, rfl⟩ := Nat.exists_eq_add_of_lt few
  have split : List.replicate (depth + more + 1) '[' =
      List.replicate depth '[' ++ '[' :: List.replicate more '[' := by
    rw [Nat.add_assoc, List.replicate_add]
    rfl
  refine ⟨_, .list, decodes_lists long, [], List.replicate depth '[',
    List.replicate more '[' ++ List.replicate (depth + more + 1) ']', nofun, opens_lists _ depth, ?_⟩
  rw [split, List.append_assoc]
  rfl

/-- A server answers a probe, but its reply of 12000 nested lists is told as none of these by any reader that goes less
deep. -/
theorem deep_body_escapes :
    let r := Reply.answer 200 (List.replicate 12000 0x5B ++ List.replicate 12000 0x5D)
    r.isAlive = true ∧
      ∀ depth < 12000, (∃ c, r.text depth = .error (.tooDeep c)) ∧ ¬ Classified depth r := by
  intro r
  refine ⟨rfl, ?_⟩
  intro depth few
  obtain ⟨c, told⟩ := text_tooDeep (n := 200) (by decide) (bodyTooDeep_lists few (by omega))
  refine ⟨⟨c, told⟩, fun classified => ?_⟩
  rcases classified.nothing_else _ told with ⟨_, ⟨⟩⟩ | ⟨_, ⟨⟩⟩ | ⟨_, ⟨⟩⟩

end Reckoner.Gateway
