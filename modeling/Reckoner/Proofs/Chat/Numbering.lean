import Reckoner.Proofs.Chat.InFlight

namespace Reckoner.Chat

open Reckoner.Gateway

theorem Assistant.idOf_injective {m n : Nat} (h : Assistant.idOf m = Assistant.idOf n) : m = n := by
  have same : m.repr = n.repr := (String.append_right_inj "m").mp h
  have digits : Nat.toDigits 10 m = Nat.toDigits 10 n := by
    rw [← Nat.toList_repr, same, Nat.toList_repr]
  rw [← Nat.ofDigitChars_ten_toDigits (n := m), digits, Nat.ofDigitChars_ten_toDigits]

/-- Something is said, and under issued numbers only. -/
structure Conversation.Issued (c : Conversation) (n : Nat) : Prop where
  spoken : c.messages ≠ []
  numbers : ∀ m ∈ c.messages, ∃ k ≤ n, m.id = Assistant.idOf k

theorem Conversation.Issued.mono {c : Conversation} {n n' : Nat} (h : c.Issued n) (le : n ≤ n') :
    c.Issued n' where
  spoken := h.spoken
  numbers m hm := by
    obtain ⟨k, hk, id⟩ := h.numbers m hm
    exact ⟨k, Nat.le_trans hk le, id⟩

theorem Conversation.issued_add {c : Conversation} {n : Nat}
    (numbers : ∀ m ∈ c.messages, ∃ k ≤ n, m.id = Assistant.idOf k) {m : Message}
    (hm : m.id = Assistant.idOf (n + 1)) : (c.add m).Issued (n + 1) where
  spoken := by simp
  numbers m' hm' := by
    rcases List.mem_append.mp hm' with hm' | hm'
    · obtain ⟨k, hk, id⟩ := numbers m' hm'
      exact ⟨k, Nat.le_trans hk (Nat.le_succ n), id⟩
    · obtain rfl := List.mem_singleton.mp hm'
      exact ⟨n + 1, Nat.le_refl _, hm⟩

/-- The message with the next number is new. -/
theorem Conversation.Issued.not_mem {c : Conversation} {n : Nat} (h : c.Issued n) {m : Message}
    (hm : m.id = Assistant.idOf (n + 1)) : m ∉ c.messages := by
  intro mem
  obtain ⟨k, hk, id⟩ := h.numbers m mem
  have same : k = n + 1 := Assistant.idOf_injective (id.symm.trans hm)
  omega

namespace Switchboard

structure Numbered (w : Switchboard) : Prop where
  stored : ∀ s c, w.store.get? s = some c → c.Issued w.assistant.issued
  held : ∀ t ∈ w.turns, t.conversation.Issued w.assistant.issued

section

variable {w w' : Switchboard} {x : Action} {o : Outcome}

theorem numbered_new (feed : Option Feed) (manner : Solver.Manner) (showStages : Bool) :
    Numbered (new feed manner showStages) where
  stored s c h := by simp [new, Store.get?, Store.empty, Table.get?, Table.empty] at h
  held t h := by simp [new] at h

theorem Numbered.current (h : Numbered w) (s : String) :
    ∀ m ∈ (w.store.current s).messages, ∃ k ≤ w.assistant.issued, m.id = Assistant.idOf k := by
  unfold Store.current
  cases hc : w.store.get? s with
  | some c => exact (h.stored s c hc).numbers
  | none => simp [Conversation.new]

theorem Numbered.asking (h : Numbered w) (s text : String) :
    (w.assistant.asking s text).Issued (w.assistant.issued + 1) :=
  Conversation.issued_add (h.current s) rfl

theorem Numbered.told (h : Numbered w) {t : Turn} (ht : t ∈ w.turns) (d : Draft) :
    (t.conversation.add (w.assistant.told d)).Issued (w.assistant.issued + 1) :=
  Conversation.issued_add (h.held t ht).numbers rfl

/-- A save keeps the numbers issued, if what is saved does. -/
theorem issued_save (store : Store) {c : Conversation} {n n' : Nat} (le : n ≤ n')
    (stored : ∀ s c, store.get? s = some c → c.Issued n) (hc : c.Issued n') (s : String) :
    ∀ d, (store.save c).get? s = some d → d.Issued n' := by
  intro d hd
  rw [Store.get?_save] at hd
  split at hd
  · obtain rfl : c = d := Option.some.inj hd
    exact hc
  · exact (stored s d hd).mono le

theorem Numbered.stored_change (h : Numbered w) (c : Change w x w' o) (s : String)
    (d : Conversation) (hd : w'.store.get? s = some d) : d.Issued w'.assistant.issued := by
  have kept := h.stored
  cases c with
  | idle store _ issued =>
    rw [store] at hd
    exact (kept s d hd).mono issued
  | @begun _ other text _ _ _ _ _ _ _ store issued =>
    rw [store] at hd
    rw [issued]
    exact issued_save (w.store.hold other) (Nat.le_succ _) kept (h.asking other text) s d hd
  | waits _ _ store issued | broken _ _ store issued =>
    rw [store] at hd
    rw [issued]
    exact kept s d hd
  | @concluded _ _ _ t draft _ found _ store issued =>
    rw [store] at hd
    rw [issued]
    have told := h.told (List.mem_of_getElem? found) draft
    exact issued_save w.store (Nat.le_succ _) kept told s d hd
  | @opened _ _ _ _ c _ _ messages _ store issued =>
    rw [store] at hd
    rw [issued]
    have opened : c.Issued (w.assistant.issued + 1) := by
      refine ⟨by simp [messages], ?_⟩
      intro m hm
      rw [messages] at hm
      obtain rfl := List.mem_singleton.mp hm
      exact ⟨_, Nat.le_refl _, rfl⟩
    exact issued_save w.store (Nat.le_succ _) kept opened s d hd
  | cleared _ _ store issued =>
    rw [store, Store.get?_forget] at hd
    rw [issued]
    split at hd
    · simp at hd
    · exact kept s d hd

theorem Numbered.held_change (h : Numbered w) (c : Change w x w' o) :
    ∀ t ∈ w'.turns, t.conversation.Issued w'.assistant.issued := by
  have kept := h.held
  cases c with
  | idle _ turns issued =>
    rw [turns]
    intro t ht
    exact (kept t ht).mono issued
  | begun _ turns _ copy _ issued =>
    rw [turns, issued]
    intro t ht
    rcases List.mem_append.mp ht with ht | ht
    · exact (kept t ht).mono (Nat.le_succ _)
    · obtain rfl := List.mem_singleton.mp ht
      rw [copy]
      exact h.asking _ _
  | waits found turns _ issued =>
    rw [turns, issued]
    intro t ht
    rcases List.mem_or_eq_of_mem_set ht with ht | rfl
    · exact kept t ht
    · have holding := kept _ (List.mem_of_getElem? found)
      exact holding
  | concluded _ turns _ issued =>
    rw [turns, issued]
    intro t ht
    exact (kept t (List.mem_of_mem_eraseIdx ht)).mono (Nat.le_succ _)
  | broken _ turns _ issued =>
    rw [turns, issued]
    intro t ht
    exact kept t (List.mem_of_mem_eraseIdx ht)
  | opened _ _ _ turns _ issued =>
    rw [turns, issued]
    intro t ht
    exact (kept t ht).mono (Nat.le_succ _)
  | cleared _ turns _ issued =>
    rw [turns, issued]
    exact kept

theorem Numbered.change (h : Numbered w) (c : Change w x w' o) : Numbered w' where
  stored := h.stored_change c
  held := h.held_change c

theorem Numbered.run (h : Numbered w) (actions : List Action) : Numbered (w.run actions) := by
  induction actions generalizing w with
  | nil => exact h
  | cons x rest ih => exact ih (h.change (change_step w x))

end

end Switchboard

end Reckoner.Chat
