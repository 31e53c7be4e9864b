import Reckoner.Feed.Stream
import Reckoner.Proofs.Json.RoundTrip

namespace Reckoner.Feed

open Reckoner.Arithmetic (Oversize conversionLimit)
open Reckoner.Json Reckoner.Text

/-- An event as a client gets it, with its id if one was given. -/
structure Received where
  id : Option String
  kind : String
  data : String

/-- The data as a value, read with containers nested no deeper than so many levels. -/
def Received.value? (depth : Nat) (r : Received) : Option Value :=
  (Json.read depth r.data.toList).toOption

namespace EventStream

/-- The lines of a text. A line ends with a line feed, a carriage return, or one behind the other; what comes
after the last of them is no line. The first argument is what the current line has been so far. -/
def linesFrom (line : List Char) : List Char → List (List Char)
  | [] => []
  | '\r' :: '\n' :: rest => line :: linesFrom [] rest
  | '\r' :: rest => line :: linesFrom [] rest
  | '\n' :: rest => line :: linesFrom [] rest
  | c :: rest => linesFrom (line ++ [c]) rest

/-- The name of a field, and its value: what is behind the first colon, but for one space. -/
def fieldOf (line : List Char) : List Char × List Char :=
  let name := line.takeWhile (· != ':')
  match line.dropWhile (· != ':') with
  | ':' :: ' ' :: value => (name, value)
  | ':' :: value => (name, value)
  | _ => (name, [])

/-- The fields since the last blank line. -/
structure Block where
  id : Option (List Char)
  kind : List Char
  data : List (List Char)

namespace Block

def empty : Block := ⟨none, [], []⟩

/-- Takes one more line. An id with a zero in it is ignored, and so are other fields and comments, which
are fields without a name. -/
def take (b : Block) (line : List Char) : Block :=
  let field := fieldOf line
  if field.1 = "id".toList then if '\x00' ∈ field.2 then b else { b with id := some field.2 }
  else if field.1 = "event".toList then { b with kind := field.2 }
  else if field.1 = "data".toList then { b with data := b.data ++ [field.2] }
  else b

/-- The event at a blank line, if there are data; its kind is `message` unless another is given. -/
def event? (b : Block) : Option Received :=
  if b.data.isEmpty then none
  else
    some ⟨b.id.map String.ofList, if b.kind.isEmpty then "message" else String.ofList b.kind,
      String.ofList (List.intercalate ['\n'] b.data)⟩

end Block

def eventsFrom (b : Block) : List (List Char) → List Received
  | [] => []
  | [] :: rest => b.event?.toList ++ eventsFrom .empty rest
  | line :: rest => eventsFrom (b.take line) rest

/-- A byte order mark at the beginning is no part of the stream. -/
def unmarked : List Char → List Char
  | '\ufeff' :: rest => rest
  | s => s

/-- The events of a stream. -/
def events (bytes : Bytes) : List Received :=
  eventsFrom .empty (linesFrom [] (unmarked (decodeLeniently bytes)))

end EventStream

/-- A frame of a kind that fits on a line, with data that have no doubles and one member of each name. -/
structure Frame.Plain (f : Frame) : Prop where
  named : f.kind ≠ ""
  oneLine : ∀ c ∈ f.kind.toList, isBreak c = false
  plain : f.data.Plain

/-- A frame whose id and whose data have whole numbers of no more digits than may be written. -/
structure Frame.Short (f : Frame) : Prop where
  id : ∀ n, f.id = some n → n.natAbs < 10 ^ conversionLimit
  data : ∀ n ∈ f.data.wholes, n.natAbs < 10 ^ conversionLimit

namespace EventStream

section

variable {rest : List Char}

/-- A line is taken up to its line feed. -/
theorem linesFrom_line (front : List Char) {line : List Char} (h : ∀ c ∈ line, isBreak c = false)
    (rest : List Char) : linesFrom front (line ++ '\n' :: rest) = (front ++ line) :: linesFrom [] rest := by
  induction line generalizing front with
  | nil => simp [linesFrom]
  | cons c line ih =>
    have here := h c (List.mem_cons_self ..)
    simp only [isBreak, Bool.or_eq_false_iff, beq_eq_false_iff_ne] at here
    rw [List.cons_append, linesFrom, ih _ fun d hd => h d (List.mem_cons_of_mem c hd),
      List.append_assoc, List.singleton_append]
    all_goals simp [here]

end

/-- The lines of a frame, each from its first character. -/
def frameLines (f : Frame) : List (List Char) :=
  (match f.id with
    | some n => ['i' :: 'd' :: ':' :: ' ' :: (toString n).toList]
    | none => []) ++
  ['e' :: 'v' :: 'e' :: 'n' :: 't' :: ':' :: ' ' :: f.kind.toList,
    'd' :: 'a' :: 't' :: 'a' :: ':' :: ' ' :: spelled f.data]

/-- The text of a frame, whatever the length of its numbers. -/
def frameText (f : Frame) : String :=
  String.ofList ((frameLines f).flatMap (· ++ ['\n']) ++ ['\n'])

theorem idLines_of_short {n : Int} (short : n.natAbs < 10 ^ conversionLimit) :
    Frame.idLines (some n) = .ok ["id: " ++ toString n] := by
  rw [Frame.idLines, writeWhole, if_pos (isShort_iff.mpr short)]
  rfl

/-- A frame whose numbers are short is sent as its lines. -/
theorem bytes_of_short {f : Frame} (h : f.Short) : f.bytes = .ok (bytesOf (frameText f)) := by
  have data : write .unicode f.data = .ok (spell .unicode f.data) :=
    if_pos (List.all_eq_true.mpr fun n hn => isShort_iff.mpr (h.data n hn))
  have id : Frame.idLines f.id = .ok (match f.id with
      | some n => ["id: " ++ toString n]
      | none => []) := by
    cases hi : f.id with
    | none => rfl
    | some n => exact idLines_of_short (h.id n hi)
  have text : "\n".intercalate ((match f.id with
      | some n => ["id: " ++ toString n]
      | none => []) ++ ["event: " ++ f.kind, "data: " ++ spell .unicode f.data]) ++ "\n\n" = frameText f := by
    refine String.toList_inj.mp ?_
    cases hi : f.id <;> simp [frameText, frameLines, hi, spelled]
  rw [Frame.bytes, Frame.text, Frame.lines, id, data]
  exact congrArg (fun t => Except.ok (bytesOf t)) text

/-- A frame with a longer number cannot be sent. -/
theorem short_of_bytes {f : Frame} {sent : Bytes} (h : f.bytes = .ok sent) : f.Short := by
  unfold Frame.bytes Frame.text Frame.lines at h
  cases hi : Frame.idLines f.id with
  | error o => simp [hi, bind, Except.bind, Except.map] at h
  | ok id =>
    cases hd : write .unicode f.data with
    | error o => simp [hi, hd, bind, Except.bind, Except.map] at h
    | ok data =>
      constructor
      · intro n hn
        rw [hn, Frame.idLines, writeWhole] at hi
        split at hi
        · rename_i short
          exact isShort_iff.mp short
        · cases hi
      · intro n hn
        unfold write at hd
        split at hd
        · rename_i short
          exact isShort_iff.mp (List.all_eq_true.mp short n hn)
        · cases hd

theorem linesFrom_lines {lines : List (List Char)} (h : ∀ line ∈ lines, ∀ c ∈ line, isBreak c = false)
    (rest : List Char) : linesFrom [] (lines.flatMap (· ++ ['\n']) ++ '\n' :: rest) =
      lines ++ [] :: linesFrom [] rest := by
  induction lines with
  | nil => simp [linesFrom]
  | cons line lines ih =>
    have here := linesFrom_line [] (h line (List.mem_cons_self ..))
      (lines.flatMap (· ++ ['\n']) ++ '\n' :: rest)
    have later := ih fun l hl => h l (List.mem_cons_of_mem line hl)
    rw [List.nil_append, later] at here
    simpa using here

theorem id_no_break (n : Int) : ∀ c ∈ (toString n).toList, isBreak c = false ∧ c ≠ '\x00' := by
  have whole : (toString n).toList = minus (decide (n < 0)) ++ Nat.toDigits 10 n.natAbs := spelled_int n
  rw [whole]
  intro c hc
  rcases List.mem_append.mp hc with sign | digit
  · cases hs : decide (n < 0) <;> simp_all [minus, isBreak]
  · refine ⟨digits_no_break _ c digit, ?_⟩
    rintro rfl
    have common := isAsciiDigit_of_mem digit
    simp [isAsciiDigit] at common

theorem frameLines_no_break {f : Frame} (h : f.Plain) :
    ∀ line ∈ frameLines f, ∀ c ∈ line, isBreak c = false := by
  intro line hl
  rcases List.mem_append.mp hl with id | rest
  · cases hi : f.id with
    | none => simp [hi] at id
    | some n =>
      rw [hi] at id
      obtain rfl := List.mem_singleton.mp id
      have digits : ∀ c ∈ (toString n).toList, isBreak c = false := fun c hc => (id_no_break n c hc).1
      simpa [isBreak] using digits
  · have kind := h.oneLine
    have data := spelled_no_break h.plain
    rcases List.mem_pair.mp rest with rfl | rfl
    · simpa [isBreak] using kind
    · simpa [isBreak] using data

/-- What is received of a frame. -/
def receivedOf (f : Frame) : Received :=
  ⟨f.id.map toString, f.kind, spell .unicode f.data⟩

theorem take_id (b : Block) {value : List Char} (h : '\x00' ∉ value) :
    b.take ('i' :: 'd' :: ':' :: ' ' :: value) = { b with id := some value } :=
  if_neg h

theorem take_kind (b : Block) (value : List Char) :
    b.take ('e' :: 'v' :: 'e' :: 'n' :: 't' :: ':' :: ' ' :: value) = { b with kind := value } := rfl

theorem take_data (b : Block) (value : List Char) :
    b.take ('d' :: 'a' :: 't' :: 'a' :: ':' :: ' ' :: value) = { b with data := b.data ++ [value] } := rfl

/-- The lines of a frame make one event. -/
theorem eventsFrom_frameLines {f : Frame} (named : f.kind ≠ "") (rest : List (List Char)) :
    eventsFrom .empty (frameLines f ++ [] :: rest) = receivedOf f :: eventsFrom .empty rest := by
  have some_kind : f.kind.toList.isEmpty = false := by simpa using named
  have whole : List.intercalate ['\n'] [spelled f.data] = spelled f.data := List.intercalate_singleton
  cases hi : f.id with
  | none =>
    simp only [frameLines, hi, List.nil_append, List.cons_append, eventsFrom, take_kind, take_data,
      Block.empty, Block.event?, some_kind, whole]
    simp [receivedOf, hi, spelled]
  | some n =>
    have no_zero : '\x00' ∉ (toString n).toList := fun zero => (id_no_break n _ zero).2 rfl
    simp only [frameLines, hi, List.nil_append, List.cons_append, eventsFrom, take_id _ no_zero, take_kind,
      take_data, Block.empty, Block.event?, some_kind, whole]
    simp [receivedOf, hi, spelled]

theorem frameText_toList (f : Frame) :
    (frameText f).toList = (frameLines f).flatMap (· ++ ['\n']) ++ ['\n'] :=
  String.toList_ofList

/-- Frames are received one by one. -/
theorem eventsFrom_frames {frames : List Frame} (plain : ∀ f ∈ frames, f.Plain) :
    eventsFrom .empty (linesFrom [] (frames.flatMap fun f => (frameText f).toList)) = frames.map receivedOf := by
  induction frames with
  | nil => rfl
  | cons f frames ih =>
    have here := plain f (List.mem_cons_self ..)
    have lines := linesFrom_lines (frameLines_no_break here) (frames.flatMap fun f => (frameText f).toList)
    rw [List.flatMap_cons, frameText_toList, List.append_assoc, List.singleton_append, lines,
      eventsFrom_frameLines here.named, ih fun g hg => plain g (List.mem_cons_of_mem f hg), List.map_cons]

theorem decoded_frames (frames : List Frame) :
    decodeLeniently (frames.flatMap fun f => bytesOf (frameText f)) = frames.flatMap fun f => (frameText f).toList := by
  induction frames with
  | nil => rfl
  | cons f frames ih => rw [List.flatMap_cons, List.flatMap_cons, decodeLeniently_append, ih]

/-- No frame begins with a byte order mark. -/
theorem unmarked_frames (frames : List Frame) :
    unmarked (frames.flatMap fun f => (frameText f).toList) = frames.flatMap fun f => (frameText f).toList := by
  cases frames with
  | nil => rfl
  | cons f frames =>
    rw [List.flatMap_cons, frameText_toList]
    cases hi : f.id <;> simp [frameLines, hi, unmarked]

theorem events_frames {frames : List Frame} (plain : ∀ f ∈ frames, f.Plain) :
    events (frames.flatMap fun f => bytesOf (frameText f)) = frames.map receivedOf := by
  rw [events, decoded_frames, unmarked_frames, eventsFrom_frames plain]

theorem value?_receivedOf {f : Frame} (plain : f.data.Plain) (short : f.Short) {depth : Nat}
    (flat : f.data.depth ≤ depth) : (receivedOf f).value? depth = some f.data := by
  have few : f.data.wholes.all isShort = true :=
    List.all_eq_true.mpr fun n hn => isShort_iff.mpr (short.data n hn)
  exact congrArg Except.toOption (read_spelled plain few flat)

/-- Several frames can be sent exactly if each of them can. -/
theorem mapM_bytes_ok {frames : List Frame} {sent : List Bytes} :
    frames.mapM Frame.bytes = .ok sent ↔
      (∀ f ∈ frames, f.Short) ∧ sent = frames.map fun f => bytesOf (frameText f) := by
  induction frames generalizing sent with
  | nil => simp [pure, Except.pure, eq_comm]
  | cons f frames ih =>
    rw [List.mapM_cons, bind_eq_ok]
    constructor
    · rintro ⟨first, hf, next⟩
      obtain ⟨others, later, same⟩ := bind_eq_ok.mp next
      obtain rfl := Except.ok.inj same
      have short := short_of_bytes hf
      obtain ⟨all, rfl⟩ := ih.mp later
      obtain rfl := Except.ok.inj ((bytes_of_short short).symm.trans hf)
      exact ⟨List.forall_mem_cons.mpr ⟨short, all⟩, rfl⟩
    · rintro ⟨all, rfl⟩
      obtain ⟨short, later⟩ := List.forall_mem_cons.mp all
      exact ⟨_, bytes_of_short short, bind_eq_ok.mpr ⟨_, ih.mpr ⟨later, rfl⟩, rfl⟩⟩

end EventStream

/-- Frames are sent exactly if their ids and the whole numbers in their data have no more digits than may be written.
Whatever they are, a client gets exactly these: their ids, their kinds and their data, in their order. -/
theorem frames_received (depth : Nat) (frames : List Frame) (plain : ∀ f ∈ frames, f.Plain)
    (flat : ∀ f ∈ frames, f.data.depth ≤ depth) :
    ((∃ sent, frames.mapM Frame.bytes = .ok sent) ↔ ∀ f ∈ frames, f.Short) ∧
    ∀ sent, frames.mapM Frame.bytes = .ok sent →
      (EventStream.events sent.flatten).map (fun r => (r.id, r.kind, r.value? depth)) =
        frames.map fun f => (f.id.map toString, f.kind, some f.data) := by
  constructor
  · constructor
    · rintro ⟨sent, ok⟩
      exact (EventStream.mapM_bytes_ok.mp ok).1
    · intro short
      exact ⟨_, EventStream.mapM_bytes_ok.mpr ⟨short, rfl⟩⟩
  · intro sent ok
    obtain ⟨short, rfl⟩ := EventStream.mapM_bytes_ok.mp ok
    rw [← List.flatMap_def, EventStream.events_frames plain, List.map_map]
    refine List.map_congr_left ?_
    intro f hf
    have value := EventStream.value?_receivedOf (plain f hf).plain (short f hf) (flat f hf)
    simp only [Function.comp_apply, value]
    rfl

/-- Line ends, quotes, colons and blank lines in the data, and a colon in the kind. -/
theorem frames_received_awkward :
    let frames : List Frame := [
      ⟨some (-1), "reply: now", .object [("id: 2\n\n", .text "\"\r\n\x00\\: é\u2028"),
        ("data", .list [.int (-12), .null, .object []])]⟩,
      ⟨none, "ready", .object []⟩]
    (∀ f ∈ frames, f.Plain) ∧ (∀ f ∈ frames, f.data.depth ≤ 3) ∧
      ∃ sent, frames.mapM Frame.bytes = .ok sent ∧
        (EventStream.events sent.flatten).map (fun r => (r.id, r.kind, r.value? 3)) =
          frames.map fun f => (f.id.map toString, f.kind, some f.data) := by
  intro frames
  have items : (Value.list [.int (-12), .null, .object []]).Plain := by
    refine .list ?_
    simp [Value.Plain.int, Value.Plain.null, Value.Plain.object]
  have plain : ∀ f ∈ frames, f.Plain := by
    refine List.forall_mem_cons.mpr ⟨⟨by decide, by simp [isBreak], .object (by decide) ?_⟩, ?_⟩
    · simp [Value.Plain.text, items]
    · refine List.forall_mem_cons.mpr ⟨⟨by decide, by simp [isBreak], .object (by decide) (by simp)⟩, by simp⟩
  have flat : ∀ f ∈ frames, f.data.depth ≤ 3 := by
    refine List.forall_mem_cons.mpr ⟨by decide +kernel, List.forall_mem_cons.mpr ⟨by decide +kernel, by simp⟩⟩
  have room : 10 ^ 2 ≤ 10 ^ conversionLimit := Nat.pow_le_pow_right (by decide) (by decide)
  have few {m : Nat} (small : m < 10 ^ 2) : m < 10 ^ conversionLimit := Nat.lt_of_lt_of_le small room
  have short : ∀ f ∈ frames, f.Short := by
    have nothing : Frame.Short ⟨none, "ready", .object []⟩ := ⟨by simp, by simp [Value.wholes, Value.wholesWithin]⟩
    refine List.forall_mem_cons.mpr ⟨⟨?_, ?_⟩, List.forall_mem_cons.mpr ⟨nothing, by simp⟩⟩
    · rintro _ ⟨⟩
      exact few (by decide)
    · intro n hn
      obtain rfl : n = -12 := by simpa [Value.wholes, Value.wholesWithin, Value.wholesOf] using hn
      exact few (by decide)
  obtain ⟨sent, ok⟩ := (frames_received 3 frames plain flat).1.mpr short
  exact ⟨plain, flat, sent, ok, (frames_received 3 frames plain flat).2 sent ok⟩

/-- A frame whose data have a whole number of 4301 digits, and one with such an id: neither is sent. -/
theorem long_number_unsent :
    let long : Int := 10 ^ conversionLimit
    let numbered : Frame := ⟨some long, "reply", .object []⟩
    let holding : Frame := ⟨none, "reply", .object [("n", .int long)]⟩
    (numbered.Plain ∧ [numbered].mapM Frame.bytes = .error .writing) ∧
      holding.Plain ∧ [holding].mapM Frame.bytes = .error .writing := by
  intro long numbered holding
  have least (k : Nat) : ¬ ((10 : Int) ^ k).natAbs < 10 ^ k := by
    rw [Int.natAbs_pow]
    exact Nat.lt_irrefl _
  have too_long : isShort long = false := Bool.eq_false_iff.mpr (mt isShort_iff.mp (least conversionLimit))
  have one_line : ∀ c ∈ "reply".toList, isBreak c = false := by simp [isBreak]
  have unnumbered : Frame.idLines (some long) = .error .writing := by
    rw [Frame.idLines, writeWhole, too_long]
    rfl
  have unwritten : write .unicode (.object [("n", .int long)]) = .error .writing := by
    rw [write]
    simp [Value.wholes, Value.wholesWithin, too_long]
  refine ⟨⟨⟨by decide, one_line, .object (by simp) (by simp)⟩, ?_⟩,
    ⟨by decide, one_line, .object (by simp) (by simp [Value.Plain.int])⟩, ?_⟩
  · rw [List.mapM_cons, Frame.bytes, Frame.text, Frame.lines, unnumbered]
    rfl
  · rw [List.mapM_cons, Frame.bytes, Frame.text, Frame.lines, unwritten]
    rfl

end Reckoner.Feed
