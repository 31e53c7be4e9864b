import Reckoner.Proofs.Chat.TurnRecord
import Reckoner.Proofs.Feed.Delivery

namespace Reckoner.Chat

open Reckoner.Feed Reckoner.Feed.Desk

/-- The mark of an event. -/
def markOf (e : Event) : Option Mark :=
  Mark.of? e.kind e.data

namespace Books

section

variable {b : Books} {f : Feed}

theorem issued_emit (f : Feed) (t kind node : String) (data : Json.Members) (s : String) :
    ((f.emit t kind node data).1.channel s).issued =
      (f.channel s).issued + if t = s then 1 else 0 := by
  rw [Feed.emit, Feed.channel_set]
  by_cases same : s = t
  · subst same
    rw [if_pos rfl, if_pos rfl]
    dsimp only [Channel.emit]
    split <;> rfl
  · rw [if_neg same, if_neg (Ne.symm same)]
    rfl

theorem issued_clear (f : Feed) (t s : String) :
    ((f.clear t).2.channel s).issued = (f.channel s).issued := by
  rw [Feed.clear, Feed.channel_drain, Function.update_apply]
  split
  · rename_i same
    subst same
    rfl
  · rfl

/-- An effect numbers what it tells, beginning after the last number issued. -/
theorem numbers_after (fed : b.feed = some f) (x : Effect) (s : String) :
    ∃ f', (b.after x).feed = some f' ∧
      (f'.channel s).issued = (f.channel s).issued + (ofSession s (b.told? x).toList).length ∧
      (ofSession s (b.told? x).toList).map (·.sequence) =
        List.range' ((f.channel s).issued + 1) (ofSession s (b.told? x).toList).length := by
  cases x with
  | tell t kind node data =>
    refine ⟨(f.emit t kind node data).1, by rw [after, fed]; rfl, ?_⟩
    have told : (b.told? (.tell t kind node data)).toList =
        [⟨t, (f.channel t).issued + 1, kind, node, data⟩] := by
      rw [told?, fed]
      rfl
    rw [issued_emit, told]
    by_cases same : t = s
    · subst same
      simp [ofSession]
    · simp [ofSession, same]
  | forget t =>
    refine ⟨(f.clear t).2, by rw [after, fed]; rfl, ?_⟩
    rw [issued_clear]
    exact ⟨rfl, rfl⟩
  | hold t | save c | leave t => exact ⟨f, fed, rfl, rfl⟩

theorem numbers_toldAll (fed : b.feed = some f) (effects : List Effect) (s : String) :
    (ofSession s (b.toldAll effects)).map (·.sequence) =
      List.range' ((f.channel s).issued + 1) (ofSession s (b.toldAll effects)).length := by
  induction effects generalizing b f with
  | nil => rfl
  | cons x rest ih =>
    obtain ⟨f', fed', issued, first⟩ := numbers_after fed x s
    have later := ih fed'
    rw [issued] at later
    rw [toldAll, ofSession_append, List.map_append, List.length_append, first, later,
      Nat.add_right_comm, List.range'_append_1]

/-- The events of a session tell what its effects tell. -/
theorem markOf_toldAll (fed : b.feed = some f) (effects : List Effect) (s : String) :
    (ofSession s (b.toldAll effects)).map markOf = marksFor s effects := by
  induction effects generalizing b f with
  | nil => rfl
  | cons x rest ih =>
    obtain ⟨f', fed', -⟩ := numbers_after fed x s
    have first : (ofSession s (b.told? x).toList).map markOf = (Effect.mark? s x).toList := by
      cases x with
      | tell t kind node data =>
        rw [told?, fed]
        by_cases same : t = s
        · simp [ofSession, Feed.emit, Channel.emit, Effect.mark?, markOf, same]
        · simp [ofSession, Feed.emit, Channel.emit, Effect.mark?, same]
      | _ => rfl
    rw [toldAll, ofSession_append, List.map_append, first, ih fed']
    show _ = List.filterMap (Effect.mark? s) (x :: rest)
    rw [List.filterMap_cons]
    cases Effect.mark? s x <;> rfl

end

end Books

namespace Switchboard

/-- Where the gateway answers or reports its failures, the events of each session are numbered from one on
without a gap, and tell one word for each exchange of its log and the beginning of a word for the question
in flight. A reply is told of when it is the last message that is stored. All this holds also if the
steps of different sessions are interleaved, effect by effect. -/
theorem events_spell_turns (limit : Nat) (manner : Solver.Manner) (showStages : Bool)
    (actions : List Action) (reported : ∀ x ∈ actions, x.isReported = true) (effects : List Effect)
    (shuffled : ∀ s, effectsOf s effects =
      effectsOf s ((new (some (.new limit)) manner showStages).journal actions)) :
    let w := new (some (.new limit)) manner showStages
    let books := w.assistant.books
    let events := fun s => ofSession s (books.toldAll effects)
    let log := fun s => Log.ofDeeds s (w.saidIn actions)
    (w.run actions).assistant.books = books.afterAll (w.journal actions) ∧
    (∀ s, (events s).map (·.sequence) = List.range' 1 (events s).length) ∧
    (∀ s, ∃ underway, Spells s (log s).exchanges underway ((events s).map markOf) ∧
      ((log s).asked = none → underway = []) ∧
      ∀ m, (log s).asked = some m → ∃ rest, rest ≠ [] ∧
        Word (!s.isEmpty) (Classifier.isQuestion m.content) (underway ++ rest)) ∧
    (∀ s, (log s).asked.isSome = true ↔ s ∈ (w.run actions).talking) ∧
    (∀ before after s node data, effects = before ++ .tell s replyKind node data :: after →
      ∃ c m, (books.afterAll before).store.get? s = some c ∧ c.messages.getLast? = some m ∧
        m.role = .assistant ∧ data = Assistant.replyData m) := by
  intro w books events log
  have recorded := (recorded_new (some (.new limit)) manner showStages).run actions reported
  have announced := (wellKept_new (some (.new limit)) manner showStages).announces_run actions
  refine ⟨books_run w actions, ?_, ?_, recorded.asked, ?_⟩
  · intro s
    exact Books.numbers_toldAll (b := books) (f := .new limit) rfl effects s
  · intro s
    have told : (events s).map markOf = marksFor s effects := Books.markOf_toldAll rfl effects s
    rw [told, ← marksFor_effectsOf, shuffled, marksFor_effectsOf]
    exact recorded.spelled s
  · intro before after s node data split
    exact announced.shuffled shuffled split rfl

/-- One session is answered between the failed stage of the other's question and its reply; then it is
forgotten, and asks again. -/
theorem events_spell_turns_overlapping :
    let w := new (some (.new 4)) ⟨.whole 0, .whole 0⟩ true
    let actions : List Action := [.respond .unbound "a" "2 + 2" none,
      .respond .unbound "b" "Who are you?" none, .reply 0 (.error (.gateway silence)),
      .reply 0 (.ok "An assistant."), .reset "b", .respond .unbound "b" "Hello?" none]
    let all := w.journal actions
    let rest := all.drop 6
    let effects := all.take 6 ++ ((rest.drop 3).take 2 ++ (rest.take 3 ++ (rest.drop 3).drop 2))
    let events := fun s => ofSession s (w.assistant.books.toldAll effects)
    (∀ x ∈ actions, x.isReported = true) ∧
    (∀ s, effectsOf s effects = effectsOf s all) ∧
    (∀ s, (events s).map (·.sequence) = List.range' 1 (events s).length) ∧
    (∀ s, ∃ underway,
      Spells s (Log.ofDeeds s (w.saidIn actions)).exchanges underway ((events s).map markOf)) ∧
    (events "a").map markOf = [some (.running 1), some (.error 1), some .reply] ∧
    (events "b").map markOf = [some .reply] := by
  intro w actions all rest effects events
  have reported : ∀ x ∈ actions, x.isReported = true := by decide
  have apart : ∀ x ∈ rest.take 3, ∀ y ∈ (rest.drop 3).take 2, x.sessionId ≠ y.sessionId := by
    decide
  have shuffled : ∀ s, effectsOf s effects = effectsOf s all := by
    intro s
    rw [effectsOf_swap apart, List.take_append_drop, List.take_append_drop, List.take_append_drop]
  obtain ⟨-, numbered, spelled, -, -⟩ :=
    events_spell_turns 4 ⟨.whole 0, .whole 0⟩ true actions reported effects shuffled
  refine ⟨reported, shuffled, numbered, ?_, by decide, by decide⟩
  intro s
  obtain ⟨underway, words, -, -⟩ := spelled s
  exact ⟨underway, words⟩

/-- A session without a name is told of the reply to a question, but not of its stages. -/
theorem unnamed_session_untold_of_stages :
    let w := new (some (.new 4)) ⟨.whole 0, .whole 0⟩ true
    let actions : List Action :=
      [.respond .unbound "" "2 + 2" none, .reply 0 (.error (.gateway silence))]
    let events := ofSession "" (w.assistant.books.toldAll (w.journal actions))
    let log := Log.ofDeeds "" (w.saidIn actions)
    (∀ x ∈ actions, x.isReported = true) ∧
    ¬ ∃ words, List.Forall₂ (fun e word => Word true (Classifier.isQuestion e.1.content) word)
        log.exchanges words ∧ events.map markOf = words.flatten.map some := by
  intro w actions events log
  have marks : events.map markOf = [some .reply] := by decide
  have questions : log.exchanges.map (fun e => Classifier.isQuestion e.1.content) = [true] := by
    decide
  refine ⟨by decide, ?_⟩
  rintro ⟨words, each, spelled⟩
  obtain ⟨e, exchanges, question⟩ := List.map_eq_singleton_iff.mp questions
  rw [exchanges] at each
  obtain ⟨word, rest, own, last, rfl⟩ := List.forall₂_cons_left_iff.mp each
  obtain rfl := List.forall₂_nil_left_iff.mp last
  have alone : word = [.reply] := by simpa [marks] using spelled.symm
  rw [question, alone] at own
  cases own

end Switchboard

end Reckoner.Chat
