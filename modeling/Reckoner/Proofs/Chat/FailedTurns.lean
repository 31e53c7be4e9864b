import Reckoner.Proofs.Chat.TurnSteps

namespace Reckoner.Chat

open Reckoner.Gateway

/-- Only the listeners of one session have been told anything. -/
def ToldOnly (sessionId : String) (before after : Option Feed) : Prop :=
  ∀ other, other ≠ sessionId →
    after.map (fun f => f.channel other) = before.map (fun f => f.channel other)

theorem ToldOnly.refl (sessionId : String) (feed : Option Feed) : ToldOnly sessionId feed feed := by
  intro other _
  rfl

theorem ToldOnly.trans {sessionId : String} {first second third : Option Feed}
    (h : ToldOnly sessionId first second) (h' : ToldOnly sessionId second third) :
    ToldOnly sessionId first third := by
  intro other hne
  rw [h' other hne, h other hne]

theorem channel_emit {f : Feed} {sessionId other : String} (hne : other ≠ sessionId)
    (kind node : String) (data : Json.Members) :
    (f.emit sessionId kind node data).1.channel other = f.channel other := by
  rw [Feed.emit, Feed.channel_set, if_neg hne]

theorem channel_publish {sessionId other : String} (hne : other ≠ sessionId)
    (notes : List Solver.Note) (f : Feed) :
    (Solver.publish f sessionId notes).channel other = f.channel other := by
  unfold Solver.publish
  split
  · rfl
  · induction notes generalizing f with
    | nil => rfl
    | cons n rest ih =>
      rw [List.foldl_cons, ih]
      exact channel_emit hne _ _ _

namespace Assistant

theorem toldOnly_publish (a : Assistant) (sessionId : String) (notes : List Solver.Note) :
    ToldOnly sessionId a.feed (a.publish sessionId notes).feed := by
  intro other hne
  simp only [publish, Option.map_map]
  congr 1
  funext f
  exact channel_publish hne notes f

theorem toldOnly_conclude (a : Assistant) (t : Turn) (d : Draft) (run : Option Run) :
    ToldOnly t.sessionId a.feed (a.conclude t d run).1.feed := by
  intro other hne
  simp only [conclude, leave, announce, Option.map_map]
  congr 1
  funext f
  exact channel_emit hne _ _ _

theorem toldOnly_giveUp (a : Assistant) (t : Turn) (f : CallFailure) :
    ToldOnly t.sessionId a.feed (a.giveUp t f).1.feed := by
  cases f with
  | gateway g => exact toldOnly_conclude a t _ none
  | defect d => exact ToldOnly.refl _ _

theorem toldOnly_proceed (a : Assistant) (t : Turn) (move : Solver.Move) :
    ToldOnly t.sessionId a.feed (a.proceed t move).1.feed := by
  have published := toldOnly_publish a t.sessionId move.notes
  unfold proceed
  cases move.next with
  | waiting p => exact published
  | solved r => exact published.trans (toldOnly_conclude _ t _ _)
  | failed f => exact published.trans (toldOnly_giveUp _ t f)

theorem toldOnly_resume (a : Assistant) (t : Turn) (reply : Except CallFailure String) :
    ToldOnly t.sessionId a.feed (a.resume t reply).1.feed := by
  unfold resume
  cases t.wait with
  | solution p => exact toldOnly_proceed a t _
  | answer text =>
    cases reply with
    | error f => exact toldOnly_giveUp a t f
    | ok words =>
      dsimp only
      split
      · exact toldOnly_conclude a t _ none
      · exact toldOnly_giveUp a t _

theorem toldOnly_enter (a : Assistant) (context : Context) (sessionId text : String)
    (verbose : Option Bool) :
    ToldOnly sessionId a.feed (a.enter context sessionId text verbose).1.feed := by
  unfold enter
  cases a.store.enter sessionId with
  | error b => exact ToldOnly.refl _ _
  | ok store =>
    dsimp only
    cases Message.make ⟨idOf (a.issued + 1), .user, text, false, false⟩ with
    | error issues => exact ToldOnly.refl _ _
    | ok m =>
      dsimp only
      split
      · exact toldOnly_proceed _ ⟨sessionId, _, _, _, _, _⟩ _
      · exact ToldOnly.refl _ _

/-- A turn breaks down with the call that it waits for. -/
theorem resume_defect (a : Assistant) (t : Turn) (d : Defect) :
    BreaksDown a t d (a.resume t (.error (.defect d))) := by
  unfold resume
  cases t.wait with
  | answer text => exact ⟨rfl, rfl, rfl⟩
  | solution p => cases p <;> exact ⟨rfl, rfl, rfl⟩

section

variable {γ : Type} (generate : γ → Call → γ × Except CallFailure String)

/-- Follows a turn to its end, with any gateway that answers each call at once. -/
def followWith (g : γ) (a : Assistant) (p : Progress) :
    γ × Assistant × Context × Except TurnFailure Response :=
  match p with
  | .ended context result => (g, a, context, result)
  | .waiting t =>
    let called := generate g (t.wait.call a.manner)
    let next := a.resume t called.2
    followWith called.1 next.1 next.2
  termination_by p.remaining
  decreasing_by exact remaining_resume a t _

def respondWith (g : γ) (a : Assistant) (context : Context) (sessionId text : String)
    (verbose : Option Bool) : γ × Assistant × Context × Except TurnFailure Response :=
  let entered := a.enter context sessionId text verbose
  followWith generate g entered.1 entered.2

theorem followWith_ended (g : γ) (a : Assistant) (context : Context)
    (result : Except TurnFailure Response) :
    followWith generate g a (.ended context result) = (g, a, context, result) := by
  rw [followWith]

theorem followWith_waiting (g : γ) (a : Assistant) (t : Turn) :
    followWith generate g a (.waiting t) =
      followWith generate (generate g (t.wait.call a.manner)).1
        (a.resume t (generate g (t.wait.call a.manner)).2).1
        (a.resume t (generate g (t.wait.call a.manner)).2).2 := by
  rw [followWith]

/-- A turn that is followed comes to a last reply, before which nothing is saved. -/
theorem followWith_last (g : γ) (a : Assistant) (t : Turn) :
    ∃ (g' : γ) (b : Assistant) (wait : Wait) (reply : Except CallFailure String) (context : Context)
      (result : Except TurnFailure Response),
      followWith generate g a (.waiting t) =
        (g', (b.resume { t with wait } reply).1, context, result) ∧
      (b.resume { t with wait } reply).2 = .ended context result ∧
      b.store = a.store ∧ ToldOnly t.sessionId a.feed b.feed := by
  -- By recursion on the replies that are still to come, of which a turn that waits on has fewer.
  rw [followWith_waiting]
  have shorter := remaining_resume a t (generate g (t.wait.call a.manner)).2
  have told := toldOnly_resume a t (generate g (t.wait.call a.manner)).2
  cases hp : (a.resume t (generate g (t.wait.call a.manner)).2).2 with
  | ended context result =>
    rw [followWith_ended]
    exact ⟨_, a, t.wait, _, context, result, rfl, hp, rfl, ToldOnly.refl _ _⟩
  | waiting next =>
    rcases resume_cases a t (generate g (t.wait.call a.manner)).2 with h | ⟨d, h⟩ | ⟨d, _, h⟩
    · obtain ⟨wait, waits⟩ := h.progress
      obtain rfl : next = { t with wait } := Progress.waiting.inj (hp.symm.trans waits)
      have closer : wait.remaining < t.wait.remaining := by
        rw [hp] at shorter
        exact shorter
      obtain ⟨g', b, last, reply, context, result, same, ends, store, tells⟩ :=
        followWith_last _ (a.resume t (generate g (t.wait.call a.manner)).2).1 { t with wait }
      exact ⟨g', b, last, reply, context, result, same, ends, store.trans h.store, told.trans tells⟩
    · obtain ⟨r, ended⟩ := h.progress
      simp [hp] at ended
    · have ended := h.progress
      simp [hp] at ended
  termination_by t.wait.remaining
  decreasing_by exact closer

theorem toldOnly_followWith (g : γ) (a : Assistant) (t : Turn) :
    ToldOnly t.sessionId a.feed (followWith generate g a (.waiting t)).2.1.feed := by
  obtain ⟨g', b, wait, reply, context, result, same, -, -, told⟩ := followWith_last generate g a t
  rw [same]
  exact told.trans (toldOnly_resume b { t with wait } reply)

/-- A turn that is followed fails only by a defect, and only gives its place up. -/
theorem followWith_failed {g : γ} {a : Assistant} {t : Turn} {f : TurnFailure}
    (failed : (followWith generate g a (.waiting t)).2.2.2 = .error f) :
    (∃ d, f = .defect d) ∧
      (followWith generate g a (.waiting t)).2.1.store = a.store.leave t.sessionId ∧
      (followWith generate g a (.waiting t)).2.2.1 = t.contextAfter := by
  obtain ⟨g', b, wait, reply, context, result, same, ends, store, -⟩ :=
    followWith_last generate g a t
  rw [same] at failed ⊢
  have failing : result = .error f := failed
  rcases resume_cases b { t with wait } reply with h | ⟨d, h⟩ | ⟨d, _, h⟩
  · obtain ⟨more, waits⟩ := h.progress
    simp [ends] at waits
  · obtain ⟨r, ended⟩ := h.progress
    simp [ends, failing] at ended
  · have ended := h.progress
    rw [ends, failing] at ended
    obtain ⟨released, defect⟩ := Progress.ended.inj ended
    exact ⟨⟨d, Except.error.inj defect⟩, store ▸ h.store, released⟩

end

theorem followWith_canned (g : Canned) (a : Assistant) (p : Progress) :
    followWith Canned.generate g a p = follow g a p := by
  induction g, a, p using follow.induct with
  | case1 g a context result => rw [followWith_ended, follow]
  | case2 g a t called next ih => rw [followWith_waiting, follow, ih]

/-- The assistant's own way to respond is one of these. -/
theorem respondWith_canned (g : Canned) (a : Assistant) (context : Context) (sessionId text : String)
    (verbose : Option Bool) :
    respondWith Canned.generate g a context sessionId text verbose =
      a.respond g context sessionId text verbose :=
  followWith_canned g _ _

/-- A turn that fails was refused, and the store is as it was, or broke down with its message saved. -/
theorem respondWith_failed {γ : Type} (generate : γ → Call → γ × Except CallFailure String) (g : γ)
    (a : Assistant) (context : Context) (sessionId text : String) (verbose : Option Bool)
    {f : TurnFailure}
    (failed : (respondWith generate g a context sessionId text verbose).2.2.2 = .error f) :
    let after := respondWith generate g a context sessionId text verbose
    after.2.2.1 = context ∧
    ((∀ d, f ≠ .defect d) ∧ after.2.1.store = a.store ∨
      (∃ d, f = .defect d) ∧ after.2.1.store = a.store.save (a.asking sessionId text)) := by
  dsimp only [respondWith] at failed ⊢
  cases hb : a.store.isBusy sessionId with
  | true =>
    rw [enter_of_busy hb, followWith_ended] at failed ⊢
    obtain rfl : TurnFailure.busy (.reply sessionId) = f := Except.error.inj failed
    exact ⟨rfl, Or.inl ⟨by simp, rfl⟩⟩
  | false =>
    rcases enter_cases hb context text verbose with h | h
    · obtain ⟨issues, hp⟩ := h.progress
      rw [hp, followWith_ended] at failed ⊢
      obtain rfl : TurnFailure.unacceptable issues = f := Except.error.inj failed
      exact ⟨rfl, Or.inl ⟨by simp, h.store⟩⟩
    · obtain ⟨showStages, wait, hp⟩ := h.progress
      rw [hp] at failed ⊢
      obtain ⟨defect, store, released⟩ := followWith_failed generate failed
      -- Entering and leaving cancel out, and the save in between does not matter to them.
      have left : ((a.store.hold sessionId).save (a.asking sessionId text)).leave sessionId =
          a.store.save (a.asking sessionId text) := by
        change ((a.store.hold sessionId).leave sessionId).save (a.asking sessionId text) = _
        rw [Store.leave_hold hb]
      refine ⟨?_, Or.inr ⟨defect, ?_⟩⟩
      · rw [released, Turn.contextAfter, Context.release_bind]
      · rw [store, h.store, left]

/-- A turn breaks down when the first call of the model does. -/
theorem respondWith_defect {γ : Type} {generate : γ → Call → γ × Except CallFailure String} {g : γ}
    {a : Assistant} {sessionId text : String} {d : Defect} (free : a.store.isBusy sessionId = false)
    (spoken : Text.blank text = false)
    (broken : ∀ call, (generate g call).2 = .error (.defect d)) (context : Context)
    (verbose : Option Bool) :
    (respondWith generate g a context sessionId text verbose).2.2.2 = .error (.defect d) := by
  dsimp only [respondWith]
  rcases enter_cases free context text verbose with h | h
  · rw [h.blank] at spoken
    simp at spoken
  · obtain ⟨showStages, wait, hp⟩ := h.progress
    rw [hp, followWith_waiting, broken]
    have down := resume_defect (a.enter context sessionId text verbose).1 ⟨sessionId, showStages,
      a.asking sessionId text, (context.bind .sessionId (some sessionId)).1,
      (context.bind .sessionId (some sessionId)).2, wait⟩ d
    rw [down.progress, followWith_ended]

theorem toldOnly_respondWith {γ : Type} (generate : γ → Call → γ × Except CallFailure String) (g : γ)
    (a : Assistant) (context : Context) (sessionId text : String) (verbose : Option Bool) :
    ToldOnly sessionId a.feed
      (respondWith generate g a context sessionId text verbose).2.1.feed := by
  have entered := toldOnly_enter a context sessionId text verbose
  dsimp only [respondWith]
  cases hb : a.store.isBusy sessionId with
  | true =>
    rw [enter_of_busy hb, followWith_ended]
    exact ToldOnly.refl _ _
  | false =>
    rcases enter_cases hb context text verbose with h | h
    · obtain ⟨issues, hp⟩ := h.progress
      rw [hp, followWith_ended]
      exact entered
    · obtain ⟨showStages, wait, hp⟩ := h.progress
      rw [hp]
      exact entered.trans (toldOnly_followWith generate g _ ⟨sessionId, _, _, _, _, _⟩)

/-- What is left of a turn that fails: nothing, unless it breaks down, and then the message that it has
saved. -/
theorem failed_turn_leaves_message {γ : Type} (generate : γ → Call → γ × Except CallFailure String)
    (g : γ) {a : Assistant} (filed : a.store.Filed) (context : Context) (sessionId text : String)
    (verbose : Option Bool) {f : TurnFailure}
    (failed : (respondWith generate g a context sessionId text verbose).2.2.2 = .error f) :
    let after := respondWith generate g a context sessionId text verbose
    after.2.2.1 = context ∧
    (∀ s, after.2.1.store.isBusy s = a.store.isBusy s) ∧
    (∀ s, s ≠ sessionId → after.2.1.store.get? s = a.store.get? s) ∧
    ToldOnly sessionId a.feed after.2.1.feed ∧
    ((∀ d, f ≠ .defect d) → after.2.1.store = a.store) ∧
    (∀ d, f = .defect d → after.2.1.store.get? sessionId = some (a.asking sessionId text)) := by
  intro after
  have own := sessionId_asking filed sessionId text
  have told := toldOnly_respondWith generate g a context sessionId text verbose
  obtain ⟨released, ⟨refused, store⟩ | ⟨⟨d, broken⟩, store⟩⟩ :=
    respondWith_failed generate g a context sessionId text verbose failed
  · have same : after.2.1.store = a.store := store
    rw [same]
    exact ⟨released, fun s => rfl, fun s _ => rfl, told, fun _ => rfl,
      fun d broken => absurd broken (refused d)⟩
  · have saved : after.2.1.store = a.store.save (a.asking sessionId text) := store
    rw [saved]
    refine ⟨released, fun s => rfl, ?_, told, fun refused => absurd broken (refused d), ?_⟩
    · intro s hs
      rw [Store.get?_save, own, if_neg hs]
    · intro _ _
      rw [Store.get?_save, own, if_pos rfl]

/-- The first call of the model breaks down; the turn fails, and its message stays. -/
theorem failed_turn_leaves_hello :
    let a : Assistant := ⟨.empty, none, 0, ⟨.whole 0, .whole 0⟩, true⟩
    let g : Canned := (Canned.new ⟨"m", .whole 0⟩).push (.error (.defect (.value "boom")))
    let after := respondWith Canned.generate g a .unbound "s" "hello there" none
    a.store.Filed ∧ after.2.2.2 = .error (.defect (.value "boom")) ∧
      after.2.1.store.get? "s" = some (a.asking "s" "hello there") := by
  intro a g after
  have filed : a.store.Filed := Store.filed_empty
  have failed : after.2.2.2 = .error (.defect (.value "boom")) :=
    respondWith_defect rfl (by decide) (fun _ => rfl) .unbound none
  obtain ⟨-, -, -, -, -, saved⟩ :=
    failed_turn_leaves_message Canned.generate g filed .unbound "s" "hello there" none failed
  exact ⟨filed, failed, saved _ rfl⟩

/-- So a turn can fail and yet change the history of its session. -/
theorem failed_turn_changes_history :
    let a : Assistant := ⟨.empty, none, 0, ⟨.whole 0, .whole 0⟩, true⟩
    let g : Canned := (Canned.new ⟨"m", .whole 0⟩).push (.error (.defect (.value "boom")))
    let after := a.respond g .unbound "s" "hello there" none
    after.2.2.2 = .error (.defect (.value "boom")) ∧
      after.2.1.store.get? "s" ≠ a.store.get? "s" := by
  intro a g after
  have same : after = respondWith Canned.generate g a .unbound "s" "hello there" none :=
    (respondWith_canned g a .unbound "s" "hello there" none).symm
  have failed : after.2.2.2 = .error (.defect (.value "boom")) := by
    rw [same]
    exact respondWith_defect rfl (by decide) (fun _ => rfl) .unbound none
  refine ⟨failed, ?_⟩
  rw [same] at failed ⊢
  obtain ⟨-, ⟨refused, -⟩ | ⟨-, store⟩⟩ :=
    respondWith_failed Canned.generate g a .unbound "s" "hello there" none failed
  · exact absurd rfl (refused _)
  · have own : "s" = (a.asking "s" "hello there").sessionId := rfl
    rw [store, Store.get?_save, if_pos own]
    simp [a, Store.get?, Store.empty, Table.get?, Table.empty]

end Assistant

end Reckoner.Chat
