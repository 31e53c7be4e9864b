import Reckoner.Proofs.Chat.Numbering

namespace Reckoner.Chat.Switchboard

open Reckoner.Gateway

/-- In a run, what is in a history stays there until the history is forgotten. -/
def KeepsHistories (w : Switchboard) (actions : List Action) : Prop :=
  ∀ before middle after s, actions = before ++ middle ++ after →
    Deed.forgotten s ∉ (w.run before).deeds middle →
    ∀ m ∈ (w.run before).saved s, m ∈ (w.run (before ++ middle)).saved s

/-- In a run, no opening ends whose session has got a conversation in the meantime. -/
def NeverOverwrites (w : Switchboard) (actions : List Action) : Prop :=
  ∀ before x after, actions = before ++ x :: after → (w.run before).overwrites x = false

section

variable {w w' : Switchboard} {x : Action} {o : Outcome}

theorem NeverOverwrites.head {rest : List Action} (h : NeverOverwrites w (x :: rest)) :
    w.overwrites x = false :=
  h [] x rest rfl

theorem NeverOverwrites.tail {rest : List Action} (h : NeverOverwrites w (x :: rest)) :
    NeverOverwrites (w.step x).1 rest := by
  intro before y after split
  refine h (x :: before) y after ?_
  rw [split]
  rfl

theorem NeverOverwrites.left {before after : List Action} (h : NeverOverwrites w (before ++ after)) :
    NeverOverwrites w before := by
  intro first y rest split
  refine h first y (rest ++ after) ?_
  rw [split]
  simp

theorem NeverOverwrites.right {before after : List Action}
    (h : NeverOverwrites w (before ++ after)) : NeverOverwrites (w.run before) after := by
  intro first y rest split
  rw [← run_append]
  refine h (before ++ first) y rest ?_
  rw [split, List.append_assoc]

theorem UpToDate.run (h : UpToDate w) {actions : List Action} (safe : NeverOverwrites w actions) :
    UpToDate (w.run actions) := by
  induction actions generalizing w with
  | nil => exact h
  | cons x rest ih => exact ih (h.change (change_step w x) safe.head) safe.tail

/-- A history only grows at its end, unless it is forgotten or overwritten. -/
theorem UpToDate.saved_change (h : UpToDate w) (c : Change w x w' o)
    (hx : w.overwrites x = false) {s : String} (kept : w.deed? x o ≠ some (.forgotten s)) :
    w.saved s <+: w'.saved s := by
  cases c with
  | idle store | waits _ _ store =>
    exact saved_of_store store s ▸ List.prefix_rfl
  | broken _ _ store =>
    have same : w'.saved s = w.saved s := by rw [saved, saved, store, Store.current_leave]
    exact same ▸ List.prefix_rfl
  | @begun _ other _ _ _ _ _ _ _ _ store =>
    have saves := h.saved_begun store s
    by_cases hs : s = other
    · rw [saves, if_pos hs, hs]
      exact List.prefix_append _ _
    · rw [if_neg hs] at saves
      exact saves ▸ List.prefix_rfl
  | @concluded _ _ _ t d _ found _ store =>
    have saves := h.saved_concluded found store s
    by_cases hs : s = t.sessionId
    · rw [saves, if_pos hs, hs, h.saved_turn found]
      exact List.prefix_append _ _
    · rw [if_neg hs] at saves
      exact saves ▸ List.prefix_rfl
  | @opened _ _ _ other c found session _ _ store =>
    have saves := saved_opened store s
    rw [session] at saves
    by_cases hs : s = other
    · have absent : w.saved s = [] := by
        rw [saved, Store.current, hs, get?_of_opening found hx]
        rfl
      rw [absent]
      exact List.nil_prefix
    · rw [if_neg hs] at saves
      exact saves ▸ List.prefix_rfl
  | @cleared other _ _ _ store =>
    have saves := saved_cleared store s
    have hs : s ≠ other := by
      rintro rfl
      exact kept rfl
    rw [if_neg hs] at saves
    exact saves ▸ List.prefix_rfl

theorem UpToDate.saved_run (h : UpToDate w) {actions : List Action}
    (safe : NeverOverwrites w actions) {s : String} (kept : Deed.forgotten s ∉ w.deeds actions) :
    w.saved s <+: (w.run actions).saved s := by
  induction actions generalizing w with
  | nil => exact List.prefix_rfl
  | cons x rest ih =>
    have here : w.deed? x (w.step x).2 ≠ some (.forgotten s) := by
      intro forgets
      apply kept
      simp [deeds, forgets]
    have later : Deed.forgotten s ∉ (w.step x).1.deeds rest := by
      intro forgets
      exact kept (List.mem_append_right _ forgets)
    have c := change_step w x
    have first := h.saved_change c safe.head here
    exact first.trans (ih (h.change c safe.head) safe.tail later)

/-- An opening that overwrites a conversation loses a message that nobody has forgotten. -/
theorem Numbered.loses (h : Numbered w) (hx : w.overwrites x = true) :
    w.deeds [x] = [] ∧ ∃ s, ∃ m ∈ w.saved s, m ∉ (w.step x).1.saved s := by
  cases x with
  | probe place available =>
    cases found : w.openings[place]? with
    | none => simp [overwrites, found] at hx
    | some s =>
      have stored : (w.store.get? s).isSome = true := by simpa [overwrites, found] using hx
      obtain ⟨c, hc⟩ := Option.isSome_iff_exists.mp stored
      have issued := h.stored s c hc
      obtain ⟨m, hm⟩ := List.exists_mem_of_ne_nil _ issued.spoken
      have store : (w.step (.probe place available)).1.store =
          w.store.save (w.assistant.openWith s available).2 := by
        simp only [step, found]
        rfl
      have told : (w.step (.probe place available)).1.saved s =
          [w.assistant.told (.opening available)] := by
        have session : s = (w.assistant.openWith s available).2.sessionId := rfl
        rw [saved, store, Store.current_save, if_pos session]
        rfl
      refine ⟨by simp [deeds, step, found, deed?], s, m, ?_, ?_⟩
      · rw [saved, Store.current, hc]
        exact hm
      · rw [told]
        intro same
        rw [List.mem_singleton.mp same] at hm
        exact issued.not_mem rfl hm
  | _ => simp [overwrites] at hx

end

/-- Histories are kept exactly in the runs in which no opening overwrites one. -/
theorem keepsHistories_iff (feed : Option Feed) (manner : Solver.Manner) (showStages : Bool)
    (actions : List Action) :
    KeepsHistories (new feed manner showStages) actions ↔
      NeverOverwrites (new feed manner showStages) actions := by
  constructor
  · -- What the opening overwrites is lost at once, in a run of this one action.
    intro keeps before x after split
    by_contra overwritten
    have numbered := (numbered_new feed manner showStages).run before
    obtain ⟨silent, s, m, hm, lost⟩ := numbered.loses (by simpa using overwritten)
    have kept := keeps before [x] after s (by rw [split]; simp) (by rw [silent]; simp) m hm
    rw [run_append] at kept
    exact lost kept
  · -- Without such an opening the copies stay up to date, and histories grow.
    intro safe before middle after s split unforgotten
    have all : NeverOverwrites (new feed manner showStages) (before ++ middle ++ after) :=
      split ▸ safe
    have upToDate := (upToDate_new feed manner showStages).run all.left.left
    have grows := upToDate.saved_run all.left.right unforgotten
    rw [run_append]
    exact grows.subset

/-- A turn that is over before the probe of an opening is answered is lost, question and answer. -/
theorem late_opening_loses_turn :
    let w := new none ⟨.whole 0, .whole 0⟩ true
    let actions : List Action := [.start "s", .respond .unbound "s" "hello" none,
      .reply 0 (.ok "Hi."), .probe 0 true]
    ¬ KeepsHistories w actions := by
  intro w actions keeps
  have asked : (⟨"m1", .user, "hello", false, false⟩ : Message) ∈ (w.run (actions.take 3)).saved "s" := by
    decide
  have kept := keeps (actions.take 3) (actions.drop 3) [] "s" rfl (by decide) _ asked
  exact absurd kept (by decide)

end Reckoner.Chat.Switchboard
