import Reckoner.Proofs.Chat.InFlight
import Reckoner.Proofs.Solver.Replay

namespace Reckoner.Chat

open Reckoner.Feed Reckoner.Gateway

/-- What is done to the store or told to the listeners. A journal lists it in the order in which it is done, so it
shows each moment of a run, also those within a step. -/
inductive Effect where
  | hold (sessionId : String)
  | save (c : Conversation)
  | tell (sessionId kind node : String) (data : Json.Members)
  | leave (sessionId : String)
  | forget (sessionId : String)

/-- The session that an effect is of. -/
def Effect.sessionId : Effect → String
  | .hold s | .leave s | .forget s => s
  | .save c => c.sessionId
  | .tell s .. => s

/-- The effects of a session. -/
def effectsOf (s : String) (effects : List Effect) : List Effect :=
  effects.filter (·.sessionId = s)

/-- Effects of different sessions may change places. -/
theorem effectsOf_swap {mine yours : List Effect}
    (apart : ∀ x ∈ mine, ∀ y ∈ yours, x.sessionId ≠ y.sessionId) (before after : List Effect)
    (s : String) : effectsOf s (before ++ (yours ++ (mine ++ after))) =
      effectsOf s (before ++ (mine ++ (yours ++ after))) := by
  have swapped : effectsOf s yours ++ effectsOf s mine = effectsOf s mine ++ effectsOf s yours := by
    by_cases own : effectsOf s mine = []
    · simp [own]
    · obtain ⟨x, hx⟩ := List.exists_mem_of_ne_nil _ own
      have session := List.mem_filter.mp hx
      have none_yours : effectsOf s yours = [] := by
        refine List.filter_eq_nil_iff.mpr ?_
        intro y hy
        have other := apart x session.1 y hy
        have here : x.sessionId = s := by simpa using session.2
        simpa [← here] using Ne.symm other
      simp [none_yours]
  simp only [effectsOf, List.filter_append] at swapped ⊢
  rw [← List.append_assoc (List.filter _ yours), swapped, List.append_assoc]

/-- What effects change. -/
structure Books where
  store : Store
  feed : Option Feed

namespace Books

def after (b : Books) : Effect → Books
  | .hold s => { b with store := b.store.hold s }
  | .save c => { b with store := b.store.save c }
  | .tell s kind node data => { b with feed := b.feed.map fun f => (f.emit s kind node data).1 }
  | .leave s => { b with store := b.store.leave s }
  | .forget s => ⟨b.store.forget s, b.feed.map fun f => (f.clear s).2⟩

def afterAll (b : Books) (effects : List Effect) : Books :=
  effects.foldl after b

/-- The event that an effect emits. -/
def told? (b : Books) : Effect → Option Event
  | .tell s kind node data => b.feed.map fun f => (f.emit s kind node data).2
  | _ => none

/-- The events that effects emit, one after the other. -/
def toldAll (b : Books) : List Effect → List Event
  | [] => []
  | x :: rest => (b.told? x).toList ++ toldAll (b.after x) rest

/-- A message that is told of as a reply is the last one of its session's stored history. -/
def Announces (b : Books) : Effect → Prop
  | .tell s kind _ data => kind = replyKind → ∃ c m, b.store.get? s = some c ∧
      c.messages.getLast? = some m ∧ m.role = .assistant ∧ data = Assistant.replyData m
  | _ => True

def AnnouncesAll (b : Books) : List Effect → Prop
  | [] => True
  | x :: rest => b.Announces x ∧ AnnouncesAll (b.after x) rest

theorem afterAll_append (b : Books) (x y : List Effect) :
    b.afterAll (x ++ y) = (b.afterAll x).afterAll y :=
  List.foldl_append

theorem announcesAll_append (b : Books) (x y : List Effect) :
    b.AnnouncesAll (x ++ y) ↔ b.AnnouncesAll x ∧ (b.afterAll x).AnnouncesAll y := by
  induction x generalizing b with
  | nil => simp [AnnouncesAll, afterAll]
  | cons e rest ih =>
    rw [List.cons_append, AnnouncesAll, AnnouncesAll, ih, and_assoc]
    rfl

theorem get?_after_other (b : Books) {x : Effect} {s : String} (other : x.sessionId ≠ s) :
    (b.after x).store.get? s = b.store.get? s := by
  cases x with
  | save c =>
    rw [after, Store.get?_save]
    exact if_neg (Ne.symm other)
  | forget s' =>
    rw [after, Store.get?_forget]
    exact if_neg (Ne.symm other)
  | hold s' | tell s' | leave s' => rfl

theorem get?_after_congr {b b' : Books} {s : String} (same : b.store.get? s = b'.store.get? s)
    (x : Effect) : (b.after x).store.get? s = (b'.after x).store.get? s := by
  cases x with
  | save c => rw [after, after, Store.get?_save, Store.get?_save, same]
  | forget s' => rw [after, after, Store.get?_forget, Store.get?_forget, same]
  | hold s' | tell s' | leave s' => exact same

/-- What is stored of a session is up to its own effects. -/
theorem get?_afterAll_effectsOf {b b' : Books} {s : String}
    (same : b.store.get? s = b'.store.get? s) (effects : List Effect) :
    (b.afterAll effects).store.get? s = (b'.afterAll (effectsOf s effects)).store.get? s := by
  induction effects generalizing b b' with
  | nil => exact same
  | cons x rest ih =>
    by_cases own : x.sessionId = s
    · have kept : effectsOf s (x :: rest) = x :: effectsOf s rest := by simp [effectsOf, own]
      rw [kept]
      exact ih (get?_after_congr same x)
    · have gone : effectsOf s (x :: rest) = effectsOf s rest := by simp [effectsOf, own]
      rw [gone]
      exact ih ((b.get?_after_other own).trans same)

/-- Each effect of a list is announced where it happens. -/
theorem AnnouncesAll.at {b : Books} {before after : List Effect} {x : Effect}
    (h : b.AnnouncesAll (before ++ x :: after)) : (b.afterAll before).Announces x :=
  ((announcesAll_append b before (x :: after)).mp h).2.1

/-- Effects that each session has in the same order announce the same. -/
theorem AnnouncesAll.shuffled {b : Books} {x y : List Effect} (h : b.AnnouncesAll x)
    (shuffled : ∀ s, effectsOf s y = effectsOf s x) {before after : List Effect} {e : Effect}
    (split : y = before ++ e :: after) : (b.afterAll before).Announces e := by
  cases e with
  | tell s kind node data =>
    intro reply
    -- The same is told in the other order, where its session has had the same before.
    have own : effectsOf s x = effectsOf s before ++ .tell s kind node data :: effectsOf s after := by
      rw [← shuffled, split]
      simp [effectsOf, Effect.sessionId]
    obtain ⟨first, second, rfl, before', told⟩ := List.filter_eq_append_iff.mp own
    obtain ⟨others, later, rfl, none_own, -, -⟩ := List.filter_eq_cons_iff.mp told
    rw [← List.append_assoc] at h
    obtain ⟨c, m, stored, rest⟩ := h.at reply
    refine ⟨c, m, ?_, rest⟩
    have silent : effectsOf s others = [] := List.filter_eq_nil_iff.mpr none_own
    have same : effectsOf s (first ++ others) = effectsOf s before := by
      rw [effectsOf, List.filter_append, before']
      show _ ++ effectsOf s others = _
      rw [silent, List.append_nil]
    rw [get?_afterAll_effectsOf rfl, ← same, ← get?_afterAll_effectsOf rfl]
    exact stored
  | _ => trivial

end Books

/-- Notes are told one by one. A session without a name has no listeners to be told. -/
def noted (sessionId : String) (notes : List Solver.Note) : List Effect :=
  if sessionId.isEmpty then [] else notes.map fun n => .tell sessionId n.kind n.node n.data

namespace Assistant

def books (a : Assistant) : Books := ⟨a.store, a.feed⟩

/-- A turn ends: its reply is saved, then told, and the turn is left. -/
def closing (a : Assistant) (t : Turn) (d : Draft) : List Effect :=
  [.save (t.conversation.add (a.told d)),
    .tell t.sessionId replyKind "conversation" (replyData (a.told d)), .leave t.sessionId]

def givingUp (a : Assistant) (t : Turn) : CallFailure → List Effect
  | .gateway g => a.closing t (.ofFailure g)
  | .defect _ => [.leave t.sessionId]

def proceeding (a : Assistant) (t : Turn) (move : Solver.Move) : List Effect :=
  noted t.sessionId move.notes ++
    match move.next with
    | .waiting _ => []
    | .solved r => a.closing t (.ofRun r t.showStages)
    | .failed f => a.givingUp t f

def entering (a : Assistant) (sessionId text : String) : List Effect :=
  if a.store.isBusy sessionId then []
  else if Text.blank text then [.hold sessionId, .leave sessionId]
  else
    [.hold sessionId, .save (a.asking sessionId text)] ++
      if Classifier.isQuestion text then noted sessionId (Solver.start text).notes else []

def resuming (a : Assistant) (t : Turn) (reply : Except CallFailure String) : List Effect :=
  match t.wait with
  | .solution p => a.proceeding t (p.resume reply)
  | .answer _ =>
    match reply with
    | .error f => a.givingUp t f
    | .ok words =>
      match Draft.ofWords words with
      | some d => a.closing t d
      | none => a.closing t (.ofFailure silence)

section

variable (a : Assistant) (t : Turn)

theorem books_publish (sessionId : String) (notes : List Solver.Note) :
    (a.publish sessionId notes).books = a.books.afterAll (noted sessionId notes) := by
  obtain ⟨store, feed, issued, manner, showStages⟩ := a
  simp only [books, publish, Solver.publish, noted]
  split
  · cases feed <;> rfl
  · induction notes generalizing feed with
    | nil => cases feed <;> rfl
    | cons n rest ih =>
      have later := ih (feed.map fun f => (f.emit sessionId n.kind n.node n.data).1)
      rw [List.map_cons]
      cases feed with
      | none => exact later
      | some f => exact later

theorem books_giveUp (f : CallFailure) :
    (a.giveUp t f).1.books = a.books.afterAll (a.givingUp t f) := by
  cases f <;> rfl

theorem books_proceed (move : Solver.Move) :
    (a.proceed t move).1.books = a.books.afterAll (a.proceeding t move) := by
  rw [proceeding, Books.afterAll_append, ← books_publish]
  unfold proceed
  cases move.next with
  | waiting p => rfl
  | solved r => rfl
  | failed f => exact books_giveUp _ t f

theorem books_resume (reply : Except CallFailure String) :
    (a.resume t reply).1.books = a.books.afterAll (a.resuming t reply) := by
  unfold resume resuming
  cases t.wait with
  | solution p => exact books_proceed a t _
  | answer text =>
    cases reply with
    | error f => exact books_giveUp a t f
    | ok words =>
      dsimp only
      cases Draft.ofWords words with
      | some d => rfl
      | none => rfl

theorem books_enter (context : Context) (sessionId text : String) (verbose : Option Bool) :
    (a.enter context sessionId text verbose).1.books =
      a.books.afterAll (a.entering sessionId text) := by
  unfold entering
  cases hb : a.store.isBusy sessionId with
  | true =>
    rw [enter_of_busy hb]
    rfl
  | false =>
    unfold enter
    rw [Store.enter_of_free hb]
    dsimp only
    cases hs : Text.blank text with
    | true =>
      obtain ⟨issues, hm⟩ := @Message.make_of_blank (a.said text) hs
      rw [said] at hm
      rw [hm]
      rfl
    | false =>
      have hm := @Message.make_of_spoken (a.said text) hs
      rw [said] at hm
      rw [hm]
      simp only [Bool.false_eq_true, if_false]
      cases Classifier.isQuestion text with
      | true => exact books_publish _ sessionId (Solver.start text).notes
      | false => rfl

theorem announcesAll_noted (b : Books) (sessionId : String) (notes : List Solver.Note) :
    b.AnnouncesAll (noted sessionId notes) := by
  unfold noted
  split
  · trivial
  · induction notes generalizing b with
    | nil => trivial
    | cons n rest ih =>
      refine ⟨?_, ih _⟩
      intro reply
      cases n <;> simp [Solver.Note.kind, stageKind, pipelineKind, replyKind] at reply

section

variable {t : Turn} (own : t.conversation.sessionId = t.sessionId) (b : Books)

include own

/-- A reply is saved before it is told. -/
theorem announcesAll_closing (d : Draft) : b.AnnouncesAll (a.closing t d) := by
  refine ⟨trivial, ?_, trivial, trivial⟩
  intro _
  refine ⟨t.conversation.add (a.told d), a.told d, ?_, by simp, rfl, rfl⟩
  show (b.store.save _).get? t.sessionId = _
  rw [Store.get?_save, Conversation.sessionId_add, if_pos own.symm]

theorem announcesAll_givingUp (f : CallFailure) : b.AnnouncesAll (a.givingUp t f) := by
  cases f with
  | gateway g => exact announcesAll_closing a own b _
  | defect d => exact ⟨trivial, trivial⟩

theorem announcesAll_proceeding (move : Solver.Move) : b.AnnouncesAll (a.proceeding t move) := by
  refine (Books.announcesAll_append _ _ _).mpr ⟨announcesAll_noted b _ _, ?_⟩
  cases move.next with
  | waiting p => trivial
  | solved r => exact announcesAll_closing a own _ _
  | failed f => exact announcesAll_givingUp a own _ f

theorem announcesAll_resuming (reply : Except CallFailure String) :
    b.AnnouncesAll (a.resuming t reply) := by
  unfold resuming
  cases t.wait with
  | solution p => exact announcesAll_proceeding a own b _
  | answer text =>
    cases reply with
    | error f => exact announcesAll_givingUp a own b f
    | ok words =>
      dsimp only
      cases Draft.ofWords words with
      | some d => exact announcesAll_closing a own b d
      | none => exact announcesAll_closing a own b _

end

theorem announcesAll_entering (b : Books) (sessionId text : String) :
    b.AnnouncesAll (a.entering sessionId text) := by
  unfold entering
  split
  · trivial
  · split
    · exact ⟨trivial, trivial, trivial⟩
    · refine ⟨trivial, trivial, ?_⟩
      split
      · exact announcesAll_noted _ _ _
      · trivial

end

end Assistant

namespace Switchboard

/-- What an action does, in the order in which it is done. -/
def effects (w : Switchboard) : Action → List Effect
  | .respond _ s text _ => w.assistant.entering s text
  | .reply place reply =>
    match w.turns[place]? with
    | some t => w.assistant.resuming t reply
    | none => []
  | .probe place available =>
    match w.openings[place]? with
    | some s => [.save (w.assistant.openWith s available).2]
    | none => []
  | .reset s => if w.store.isBusy s then [] else [.forget s]
  | .start _ | .history _ => []

/-- Everything that is done in a run. -/
def journal (w : Switchboard) : List Action → List Effect
  | [] => []
  | x :: rest => w.effects x ++ journal (w.step x).1 rest

section

variable {w : Switchboard}

/-- A step leaves behind what comes of its effects. -/
theorem books_step (w : Switchboard) (x : Action) :
    (w.step x).1.assistant.books = w.assistant.books.afterAll (w.effects x) := by
  cases x with
  | respond context s text verbose =>
    have entered := w.assistant.books_enter context s text verbose
    simp only [step, effects]
    cases hp : (w.assistant.enter context s text verbose).2 <;> exact entered
  | reply place reply =>
    simp only [step, effects]
    cases w.turns[place]? with
    | none => rfl
    | some t =>
      have resumed := w.assistant.books_resume t reply
      dsimp only
      cases hp : (w.assistant.resume t reply).2 <;> exact resumed
  | start s =>
    simp only [step, effects]
    cases w.store.get? s <;> rfl
  | probe place available =>
    simp only [step, effects]
    cases w.openings[place]? <;> rfl
  | reset s =>
    simp only [effects]
    cases hb : w.store.isBusy s with
    | true =>
      rw [step_reset_busy hb]
      rfl
    | false =>
      rw [step_reset_free hb]
      rfl
  | history s => rfl

/-- A run leaves behind what comes of its journal. -/
theorem books_run (w : Switchboard) (actions : List Action) :
    (w.run actions).assistant.books = w.assistant.books.afterAll (w.journal actions) := by
  induction actions generalizing w with
  | nil => rfl
  | cons x rest ih =>
    rw [journal, Books.afterAll_append, ← books_step]
    exact ih _

theorem WellKept.announces_step (h : WellKept w) (x : Action) (b : Books) :
    b.AnnouncesAll (w.effects x) := by
  cases x with
  | respond context s text verbose => exact w.assistant.announcesAll_entering b s text
  | reply place reply =>
    simp only [effects]
    cases found : w.turns[place]? with
    | none => trivial
    | some t =>
      have own := h.own t (List.mem_of_getElem? found)
      exact w.assistant.announcesAll_resuming own b reply
  | probe place available =>
    simp only [effects]
    cases w.openings[place]? with
    | none => trivial
    | some s => exact ⟨trivial, trivial⟩
  | reset s =>
    simp only [effects]
    split
    · trivial
    · exact ⟨trivial, trivial⟩
  | start s => trivial
  | history s => trivial

/-- Whenever a reply is told in a run, it is what was saved last. -/
theorem WellKept.announces_run (h : WellKept w) (actions : List Action) :
    w.assistant.books.AnnouncesAll (w.journal actions) := by
  induction actions generalizing w with
  | nil => trivial
  | cons x rest ih =>
    refine (Books.announcesAll_append _ _ _).mpr ⟨h.announces_step x _, ?_⟩
    rw [← books_step]
    exact ih (h.change (change_step w x))

end

end Switchboard

end Reckoner.Chat
