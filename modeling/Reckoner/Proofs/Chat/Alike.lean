import Reckoner.Proofs.Chat.Occurrences
import Reckoner.Proofs.Feed.Alike

namespace Reckoner.Chat

open Reckoner.Feed

/-- The numbers of messages in one run, each with the number of its counterpart in the other. -/
abbrev Counterparts := List (Nat × Nat)

/-- Later messages have later counterparts. -/
def Counterparts.Ordered (ids : Counterparts) : Prop :=
  ids.Pairwise fun p q => p.1 < q.1 ∧ p.2 < q.2

/-- The same message, but for its id. -/
def Message.Alike (ids : Counterparts) (m m' : Message) : Prop :=
  ∃ n n', (n, n') ∈ ids ∧ m.id = Assistant.idOf n ∧ m' = { m with id := Assistant.idOf n' }

structure Conversation.Alike (ids : Counterparts) (c c' : Conversation) : Prop where
  messages : List.Forall₂ (Message.Alike ids) c.messages c'.messages
  rest : c' = { c with messages := c'.messages }

structure Turn.Alike (ids : Counterparts) (t t' : Turn) : Prop where
  conversation : t.conversation.Alike ids t'.conversation
  rest : t' = { t with conversation := t'.conversation }

structure Response.Alike (ids : Counterparts) (r r' : Response) : Prop where
  reply : r.reply.Alike ids r'.reply
  messages : List.Forall₂ (Message.Alike ids) r.messages r'.messages
  run : r'.run = r.run

/-- The same failure, or responses that are alike. -/
inductive ResultAlike (ids : Counterparts) :
    Except TurnFailure Response → Except TurnFailure Response → Prop where
  | failed (f : TurnFailure) : ResultAlike ids (.error f) (.error f)
  | replied {r r' : Response} (alike : r.Alike ids r') : ResultAlike ids (.ok r) (.ok r')

inductive Outcome.Alike (ids : Counterparts) : Outcome → Outcome → Prop where
  | waiting : Alike ids .waiting .waiting
  | ended (s : String) {result result' : Except TurnFailure Response}
      (alike : ResultAlike ids result result') : Alike ids (.ended s result) (.ended s result')
  | started {c c' : Conversation} (alike : c.Alike ids c') : Alike ids (.started c) (.started c')
  | reset (result : Except Busy Unit) : Alike ids (.reset result) (.reset result)
  | unknown (f : Failure) : Alike ids (.history (.error f)) (.history (.error f))
  | history {c c' : Conversation} (alike : c.Alike ids c') :
      Alike ids (.history (.ok c)) (.history (.ok c'))

/-- The same data, or the data of the same reply. -/
inductive DataAlike (ids : Counterparts) : Json.Members → Json.Members → Prop where
  | same (data : Json.Members) : DataAlike ids data data
  | reply {m m' : Message} (alike : m.Alike ids m') :
      DataAlike ids (Assistant.replyData m) (Assistant.replyData m')

inductive Effect.Alike (ids : Counterparts) : Effect → Effect → Prop where
  | hold (s : String) : Alike ids (.hold s) (.hold s)
  | leave (s : String) : Alike ids (.leave s) (.leave s)
  | forget (s : String) : Alike ids (.forget s) (.forget s)
  | save {c c' : Conversation} (alike : c.Alike ids c') : Alike ids (.save c) (.save c')
  | note {s kind node : String} {data : Json.Members} (other : kind ≠ replyKind) :
      Alike ids (.tell s kind node data) (.tell s kind node data)
  | reply {s node : String} {m m' : Message} (alike : m.Alike ids m') :
      Alike ids (.tell s replyKind node (Assistant.replyData m))
        (.tell s replyKind node (Assistant.replyData m'))

inductive Occurrence.Alike (ids : Counterparts) : Occurrence → Occurrence → Prop where
  | effect {x x' : Effect} (alike : x.Alike ids x') : Alike ids (.effect x) (.effect x')
  | call (s : String) (c : Channel.Call) : Alike ids (.call s c) (.call s c)

section

variable {α β : Type} {R S : α → β → Prop} {x : Option α} {y : Option β}

theorem rel_imp (h : Option.Rel R x y) (le : ∀ a b, R a b → S a b) : Option.Rel S x y := by
  cases h with
  | none => exact .none
  | some related => exact .some (le _ _ related)

theorem rel_toList (h : Option.Rel R x y) : List.Forall₂ R x.toList y.toList := by
  cases h with
  | none => exact .nil
  | some related => exact .cons related .nil

theorem rel_map {γ : Type} {f : α → γ} {T : γ → β → Prop} (h : Option.Rel R x y)
    (le : ∀ a b, R a b → T (f a) b) : Option.Rel T (x.map f) y := by
  cases h with
  | none => exact .none
  | some related => exact .some (le _ _ related)

end

section

variable {ids ids' : Counterparts} (more : ids ⊆ ids')

include more

theorem Message.Alike.mono {m m' : Message} (h : m.Alike ids m') : m.Alike ids' m' := by
  obtain ⟨n, n', among, rest⟩ := h
  exact ⟨n, n', more among, rest⟩

theorem Conversation.Alike.mono {c c' : Conversation} (h : c.Alike ids c') : c.Alike ids' c' :=
  ⟨h.messages.imp fun _ _ => .mono more, h.rest⟩

theorem Turn.Alike.mono {t t' : Turn} (h : t.Alike ids t') : t.Alike ids' t' :=
  ⟨h.conversation.mono more, h.rest⟩

theorem Response.Alike.mono {r r' : Response} (h : r.Alike ids r') : r.Alike ids' r' :=
  ⟨h.reply.mono more, h.messages.imp fun _ _ => .mono more, h.run⟩

theorem ResultAlike.mono {result result' : Except TurnFailure Response}
    (h : ResultAlike ids result result') : ResultAlike ids' result result' := by
  cases h with
  | failed f => exact .failed f
  | replied alike => exact .replied (alike.mono more)

theorem Outcome.Alike.mono {o o' : Outcome} (h : o.Alike ids o') : o.Alike ids' o' := by
  cases h with
  | waiting => exact .waiting
  | ended s alike => exact .ended s (alike.mono more)
  | started alike => exact .started (alike.mono more)
  | reset result => exact .reset result
  | unknown f => exact .unknown f
  | history alike => exact .history (alike.mono more)

theorem DataAlike.mono {data data' : Json.Members} (h : DataAlike ids data data') :
    DataAlike ids' data data' := by
  cases h with
  | same => exact .same data
  | reply alike => exact .reply (alike.mono more)

theorem Effect.Alike.mono {x x' : Effect} (h : x.Alike ids x') : x.Alike ids' x' := by
  cases h with
  | hold s => exact .hold s
  | leave s => exact .leave s
  | forget s => exact .forget s
  | save alike => exact .save (alike.mono more)
  | note other => exact .note other
  | reply alike => exact .reply (alike.mono more)

end

section

variable {ids : Counterparts}

theorem Conversation.Alike.add {c c' : Conversation} {m m' : Message} (h : c.Alike ids c')
    (alike : m.Alike ids m') : (c.add m).Alike ids (c'.add m') where
  messages := List.rel_append h.messages (.cons alike .nil)
  rest := by
    simp only [Conversation.add]
    rw [h.rest]

theorem Conversation.Alike.sessionId {c c' : Conversation} (h : c.Alike ids c') :
    c'.sessionId = c.sessionId := by
  rw [h.rest]

theorem Effect.Alike.sessionId {x x' : Effect} (h : x.Alike ids x') :
    x'.sessionId = x.sessionId := by
  cases h with
  | save alike => exact alike.sessionId
  | _ => rfl

theorem Occurrence.Alike.sessionId {x x' : Occurrence} (h : x.Alike ids x') :
    x'.sessionId = x.sessionId := by
  cases h with
  | effect alike => exact alike.sessionId
  | call s c => rfl

/-- To a channel, what is alike is alike. -/
theorem Occurrence.Alike.asCall {x x' : Occurrence} (h : x.Alike ids x') :
    Option.Rel (Channel.Call.Alike (DataAlike ids)) x.asCall x'.asCall := by
  cases h with
  | effect alike =>
    cases alike with
    | hold | leave | save => exact .none
    | forget => exact .some (.same .clear)
    | note => exact .some (.same _)
    | reply alike => exact .some (.emit (.reply alike))
  | call s c => exact .some (.same c)

/-- The books of two runs tell the same of a session. -/
structure Books.Alike (ids : Counterparts) (s : String) (b b' : Books) : Prop where
  stored : Option.Rel (Conversation.Alike ids) (b.store.get? s) (b'.store.get? s)
  busy : b'.store.isBusy s = b.store.isBusy s
  feed : Option.Rel (Feed.Alike (DataAlike ids) s) b.feed b'.feed

namespace Books.Alike

variable {s : String} {b b' : Books}

theorem mono {ids' : Counterparts} (more : ids ⊆ ids') (h : b.Alike ids s b') : b.Alike ids' s b' where
  stored := rel_imp h.stored fun _ _ => .mono more
  busy := h.busy
  feed := rel_imp h.feed fun _ _ => .mono fun _ _ => .mono more

theorem empty (ids : Counterparts) (s : String) (feed : Option Feed) :
    Books.Alike ids s ⟨.empty, feed⟩ ⟨.empty, feed⟩ where
  stored := .none
  busy := rfl
  feed := by
    cases feed with
    | none => exact .none
    | some f => exact .some (.refl .same s f)

theorem stored_after (h : b.Alike ids s b') {x x' : Effect} (alike : x.Alike ids x') :
    Option.Rel (Conversation.Alike ids) ((b.after x).store.get? s) ((b'.after x').store.get? s) := by
  cases alike with
  | save alike =>
    simp only [Books.after]
    rw [Store.get?_save, Store.get?_save, alike.sessionId]
    split
    · exact .some alike
    · exact h.stored
  | forget t =>
    simp only [Books.after]
    rw [Store.get?_forget, Store.get?_forget]
    split
    · exact .none
    · exact h.stored
  | _ => exact h.stored

theorem busy_after (h : b.Alike ids s b') {x x' : Effect} (alike : x.Alike ids x') :
    (b'.after x').store.isBusy s = (b.after x).store.isBusy s := by
  cases alike with
  | hold t => simp only [Books.after, Store.isBusy_hold, h.busy]
  | leave t => simp only [Books.after, Store.isBusy_leave, h.busy]
  | _ => exact h.busy

/-- When something occurs in the session, the like of it keeps the books alike, with a like answer. -/
theorem own (h : b.Alike ids s b') {x x' : Occurrence} (alike : x.Alike ids x') (here : x.sessionId = s) :
    (b.occur x).Alike ids s (b'.occur x') ∧
      Option.Rel (Channel.Call.Answer.Alike (DataAlike ids)) (b.answer? x) (b'.answer? x') := by
  have there : x'.sessionId = s := alike.sessionId.trans here
  have fed : Option.Rel (Feed.Alike (DataAlike ids) s) (b.occur x).feed (b'.occur x').feed ∧
      Option.Rel (Channel.Call.Answer.Alike (DataAlike ids)) (b.answer? x) (b'.answer? x') := by
    have feeds := h.feed
    have calls := alike.asCall
    rw [feed_occur, feed_occur, answer?, answer?, here, there]
    generalize x.asCall = c, x'.asCall = c', b.feed = f, b'.feed = f' at feeds calls
    cases calls with
    | none => exact ⟨feeds, .none⟩
    | some call =>
      cases feeds with
      | none => exact ⟨.none, .none⟩
      | some feed =>
        obtain ⟨after, answer⟩ := feed.call .same call
        exact ⟨.some after, .some answer⟩
  refine ⟨?_, fed.2⟩
  cases alike with
  | effect alike => exact ⟨h.stored_after alike, h.busy_after alike, fed.1⟩
  | call t c => exact ⟨h.stored, h.busy, fed.1⟩

/-- What occurs in another session is not noticed. -/
theorem other (h : b.Alike ids s b') {x : Occurrence} (there : x.sessionId ≠ s) :
    (b.occur x).Alike ids s b' where
  stored := by
    cases x with
    | effect x =>
      have same := b.get?_after_other there
      show Option.Rel _ ((b.after x).store.get? s) _
      rw [same]
      exact h.stored
    | call t c => exact h.stored
  busy := by
    cases x with
    | effect x =>
      have same := b.isBusy_after_other there
      show _ = (b.after x).store.isBusy s
      rw [same]
      exact h.busy
    | call t c => exact h.busy
  feed := by
    rw [feed_occur]
    cases x.asCall with
    | none => exact h.feed
    | some c => exact rel_map h.feed fun _ _ feed => feed.call_other there c

/-- Books stay alike in a session in which like things occur, and like answers are given there. -/
theorem occurAll (h : b.Alike ids s b') {occurrences occurrences' : List Occurrence}
    (alike : List.Forall₂ (Occurrence.Alike ids) (occurringIn s occurrences) occurrences') :
    (b.occurAll occurrences).Alike ids s (b'.occurAll occurrences') ∧
      List.Forall₂ (Channel.Call.Answer.Alike (DataAlike ids)) (b.answersIn s occurrences)
        (b'.answersIn s occurrences') := by
  induction occurrences generalizing b b' occurrences' with
  | nil =>
    obtain rfl := List.forall₂_nil_left_iff.mp alike
    exact ⟨h, .nil⟩
  | cons x rest ih =>
    by_cases here : x.sessionId = s
    · have kept : occurringIn s (x :: rest) = x :: occurringIn s rest := by simp [occurringIn, here]
      rw [kept] at alike
      obtain ⟨x', rest', first, later, rfl⟩ := List.forall₂_cons_left_iff.mp alike
      obtain ⟨after, answer⟩ := h.own first here
      obtain ⟨last, answers⟩ := ih after later
      refine ⟨last, ?_⟩
      have there : x'.sessionId = s := first.sessionId.trans here
      rw [answersIn, answersIn, if_pos here, if_pos there]
      exact List.rel_append (rel_toList answer) answers
    · have gone : occurringIn s (x :: rest) = occurringIn s rest := by simp [occurringIn, here]
      rw [gone] at alike
      obtain ⟨last, answers⟩ := ih (h.other here) alike
      refine ⟨last, ?_⟩
      rw [answersIn, if_neg here]
      exact answers

/-- So they do when like things are done for the session. -/
theorem afterAll (h : b.Alike ids s b') {effects effects' : List Effect}
    (alike : List.Forall₂ (Effect.Alike ids) (effectsOf s effects) effects') :
    (b.afterAll effects).Alike ids s (b'.afterAll effects') := by
  have own : occurringIn s (effects.map .effect) = (effectsOf s effects).map .effect := by
    rw [occurringIn, effectsOf, List.filter_map]
    rfl
  have occurred : List.Forall₂ (Occurrence.Alike ids) (occurringIn s (effects.map .effect))
      (effects'.map .effect) := by
    rw [own, List.forall₂_map_left_iff, List.forall₂_map_right_iff]
    exact alike.imp fun _ _ => .effect
  have after := (h.occurAll occurred).1
  simpa only [Books.occurAll, Books.afterAll, List.foldl_map, Books.occur] using after

end Books.Alike

end

end Reckoner.Chat
