import Reckoner.Proofs.Chat.Alike

namespace Reckoner.Chat

open Reckoner.Feed Reckoner.Gateway

/-- Turns that wait alike, or end alike. -/
inductive Progress.Alike (ids : Counterparts) : Progress → Progress → Prop where
  | waiting {t t' : Turn} (alike : t.Alike ids t') : Alike ids (.waiting t) (.waiting t')
  | ended (context : Context) {result result' : Except TurnFailure Response}
      (alike : ResultAlike ids result result') :
      Alike ids (.ended context result) (.ended context result')

namespace Counterparts

/-- All of them have been issued, the later ones later. -/
structure Below (ids : Counterparts) (n n' : Nat) : Prop where
  ordered : ids.Ordered
  issued : ∀ p ∈ ids, p.1 ≤ n ∧ p.2 ≤ n'

/-- Two runs go on: each makes the counterpart of the other's message, or they make none for each other. -/
inductive Grow (n n' : Nat) (ids : Counterparts) : Nat → Nat → Counterparts → Prop where
  | still {m m' : Nat} (le : n ≤ m) (le' : n' ≤ m') : Grow n n' ids m m' ids
  | made : Grow n n' ids (n + 1) (n' + 1) (ids ++ [(n + 1, n' + 1)])

variable {ids ids' : Counterparts} {n n' m m' : Nat}

theorem Grow.subset (h : Grow n n' ids m m' ids') : ids ⊆ ids' := by
  cases h with
  | still => exact List.Subset.refl _
  | made => exact List.subset_append_left _ _

theorem Below.grow (h : Below ids n n') (g : Grow n n' ids m m' ids') : Below ids' m m' := by
  cases g with
  | still le le' =>
    refine ⟨h.ordered, ?_⟩
    intro p hp
    have issued := h.issued p hp
    exact ⟨Nat.le_trans issued.1 le, Nat.le_trans issued.2 le'⟩
  | made =>
    constructor
    · refine List.pairwise_append.mpr ⟨h.ordered, List.pairwise_singleton _ _, ?_⟩
      intro p hp q hq
      obtain rfl := List.mem_singleton.mp hq
      have issued := h.issued p hp
      exact ⟨Nat.lt_succ_of_le issued.1, Nat.lt_succ_of_le issued.2⟩
    · intro p hp
      rcases List.mem_append.mp hp with old | new
      · have issued := h.issued p old
        exact ⟨Nat.le_succ_of_le issued.1, Nat.le_succ_of_le issued.2⟩
      · obtain rfl := List.mem_singleton.mp new
        exact ⟨Nat.le_refl _, Nat.le_refl _⟩

end Counterparts

/-- What two assistants do, and what becomes of their turns, is alike. -/
structure Parallel (ids ids' : Counterparts) (a a' : Assistant) (after after' : Assistant × Progress)
    (effects effects' : List Effect) : Prop where
  grow : Counterparts.Grow a.issued a'.issued ids after.1.issued after'.1.issued ids'
  progress : after.2.Alike ids' after'.2
  effects : List.Forall₂ (Effect.Alike ids') effects effects'

/-- Notes are told alike, for they tell of no message. -/
theorem alike_noted (ids : Counterparts) (s : String) (notes : List Solver.Note) :
    List.Forall₂ (Effect.Alike ids) (noted s notes) (noted s notes) := by
  refine List.forall₂_same.mpr ?_
  intro x hx
  unfold noted at hx
  split at hx
  · simp at hx
  · obtain ⟨n, -, rfl⟩ := List.mem_map.mp hx
    refine .note ?_
    cases n <;> simp [Solver.Note.kind, stageKind, pipelineKind, replyKind]

namespace Assistant

variable {ids : Counterparts} (a a' : Assistant) {t t' : Turn} {s : String}

theorem parallel_conclude (h : t.Alike ids t') (d : Draft) (run : Option Run) :
    Parallel ids (ids ++ [(a.issued + 1, a'.issued + 1)]) a a' (a.conclude t d run)
      (a'.conclude t' d run) (a.closing t d) (a'.closing t' d) := by
  have told : (a.told d).Alike (ids ++ [(a.issued + 1, a'.issued + 1)]) (a'.told d) :=
    ⟨a.issued + 1, a'.issued + 1, by simp, rfl, rfl⟩
  have said := (h.conversation.mono (List.subset_append_left ids _)).add told
  have session : t'.sessionId = t.sessionId := by rw [h.rest]
  have context : t'.contextAfter = t.contextAfter := by rw [h.rest]; rfl
  refine ⟨.made, ?_, ?_⟩
  · simp only [conclude, context]
    exact .ended _ (.replied ⟨told, said.messages, rfl⟩)
  · simp only [closing, session]
    exact .cons (.save said) (.cons (.reply told) (.cons (.leave _) .nil))

theorem parallel_giveUp (h : t.Alike ids t') (f : CallFailure) :
    ∃ ids', Parallel ids ids' a a' (a.giveUp t f) (a'.giveUp t' f) (a.givingUp t f)
      (a'.givingUp t' f) := by
  cases f with
  | gateway g => exact ⟨_, parallel_conclude a a' h (.ofFailure g) none⟩
  | defect d =>
    have session : t'.sessionId = t.sessionId := by rw [h.rest]
    have context : t'.contextAfter = t.contextAfter := by rw [h.rest]; rfl
    refine ⟨ids, .still (Nat.le_refl _) (Nat.le_refl _), ?_, ?_⟩
    · simp only [giveUp, context]
      exact .ended _ (.failed _)
    · simp only [givingUp, session]
      exact .cons (.leave _) .nil

theorem parallel_proceed (h : t.Alike ids t') (move : Solver.Move) :
    ∃ ids', Parallel ids ids' a a' (a.proceed t move) (a'.proceed t' move) (a.proceeding t move)
      (a'.proceeding t' move) := by
  have session : t'.sessionId = t.sessionId := by rw [h.rest]
  have notes := fun ids => alike_noted ids t.sessionId move.notes
  unfold proceed proceeding
  rw [session]
  cases move.next with
  | waiting p =>
    refine ⟨ids, .still (Nat.le_refl _) (Nat.le_refl _), .waiting ⟨h.conversation, ?_⟩, ?_⟩
    · rw [h.rest]
    · exact List.rel_append (notes ids) .nil
  | solved r =>
    have shown : t'.showStages = t.showStages := by rw [h.rest]
    dsimp only
    rw [shown]
    obtain ⟨grow, progress, effects⟩ := parallel_conclude (a.publish t.sessionId move.notes)
      (a'.publish t.sessionId move.notes) h (.ofRun r t.showStages) (some r)
    exact ⟨_, grow, progress, List.rel_append (notes _) effects⟩
  | failed f =>
    obtain ⟨ids', grow, progress, effects⟩ := parallel_giveUp (a.publish t.sessionId move.notes)
      (a'.publish t.sessionId move.notes) h f
    refine ⟨ids', grow, progress, List.rel_append (notes _) ?_⟩
    cases f <;> exact effects

/-- Turns that are alike are resumed alike. -/
theorem parallel_resume (h : t.Alike ids t') (reply : Except CallFailure String) :
    ∃ ids', Parallel ids ids' a a' (a.resume t reply) (a'.resume t' reply) (a.resuming t reply)
      (a'.resuming t' reply) := by
  have wait : t'.wait = t.wait := by rw [h.rest]
  unfold resume resuming
  rw [wait]
  cases t.wait with
  | solution p => exact parallel_proceed a a' h (p.resume reply)
  | answer text =>
    cases reply with
    | error f => exact parallel_giveUp a a' h f
    | ok words =>
      dsimp only
      cases Draft.ofWords words with
      | some d => exact ⟨_, parallel_conclude a a' h d none⟩
      | none => exact ⟨_, parallel_conclude a a' h (.ofFailure silence) none⟩

theorem parallel_current {b b' : Books} (h : b.Alike ids s b') :
    (b.store.current s).Alike ids (b'.store.current s) := by
  have stored := h.stored
  unfold Store.current
  generalize b.store.get? s = c, b'.store.get? s = c' at stored
  cases stored with
  | none => exact ⟨.nil, rfl⟩
  | some alike => exact alike

/-- Whether a message is acceptable is not up to its id. -/
theorem make_error {m : Message} {issues : List Schema.Issue} (h : Message.make m = .error issues)
    (id : String) : Message.make { m with id } = .error issues := by
  unfold Message.make at h ⊢
  cases hb : Text.blank m.content with
  | true => simpa [hb, Schema.require, Schema.refuse, bind, Except.bind] using h
  | false => simp [hb, Schema.require, bind, Except.bind, pure, Except.pure] at h

/-- The same message enters alike where the books are alike. -/
theorem parallel_enter {a a' : Assistant} (h : a.books.Alike ids s a'.books) (shown : a'.showStages = a.showStages)
    (context : Context) (text : String) (verbose : Option Bool) :
    ∃ ids', Parallel ids ids' a a' (a.enter context s text verbose) (a'.enter context s text verbose)
      (a.entering s text) (a'.entering s text) := by
  have busy : a'.store.isBusy s = a.store.isBusy s := h.busy
  unfold entering
  rw [busy]
  cases hb : a.store.isBusy s with
  | true =>
    rw [enter_of_busy hb, enter_of_busy (busy.trans hb)]
    exact ⟨ids, .still (Nat.le_refl _) (Nat.le_refl _), .ended _ (.failed _), .nil⟩
  | false =>
    unfold enter
    rw [Store.enter_of_free hb, Store.enter_of_free (busy.trans hb)]
    dsimp only
    cases hs : Text.blank text with
    | true =>
      obtain ⟨issues, hm⟩ := @Message.make_of_blank (a.said text) hs
      have hm' := make_error hm (idOf (a'.issued + 1))
      rw [said] at hm hm'
      rw [hm, hm']
      exact ⟨ids, .still (Nat.le_succ _) (Nat.le_succ _), .ended _ (.failed _),
        .cons (.hold s) (.cons (.leave s) .nil)⟩
    | false =>
      have hm := @Message.make_of_spoken (a.said text) hs
      have hm' := @Message.make_of_spoken (a'.said text) hs
      rw [said] at hm hm'
      rw [hm, hm', shown]
      have spoken : (a.said text).Alike (ids ++ [(a.issued + 1, a'.issued + 1)]) (a'.said text) :=
        ⟨a.issued + 1, a'.issued + 1, by simp, rfl, rfl⟩
      have asking := ((parallel_current h).mono (List.subset_append_left ids _)).add spoken
      have saved : List.Forall₂ (Effect.Alike (ids ++ [(a.issued + 1, a'.issued + 1)]))
          [.hold s, .save (a.asking s text)] [.hold s, .save (a'.asking s text)] :=
        .cons (.hold s) (.cons (.save asking) .nil)
      refine ⟨ids ++ [(a.issued + 1, a'.issued + 1)], ?_⟩
      cases Classifier.isQuestion text with
      | true => exact ⟨.made, .waiting ⟨asking, rfl⟩, List.rel_append saved (alike_noted _ _ _)⟩
      | false => exact ⟨.made, .waiting ⟨asking, rfl⟩, saved⟩

end Assistant

end Reckoner.Chat
