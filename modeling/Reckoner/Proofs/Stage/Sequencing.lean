import Reckoner.Stage.Schema
import Reckoner.Proofs.Solver.Replay
import Mathlib.Data.List.Induction
import Mathlib.Logic.Relation
import Mathlib.Tactic.ByContra

namespace Reckoner.Stage

/-- Each stage stands at its own place, and one that another follows has finished. -/
structure InSequence (stages : List Stage) : Prop where
  placed : ∀ i (s : Stage), stages[i]? = some s → s.position.val = i
  finished : ∀ i (s : Stage), stages[i]? = some s → i + 1 < stages.length → s.isTerminal = true

/-- One list leads to another by batches of reports, none of which is refused. -/
def MergesTo : List Stage → List Stage → Prop :=
  Relation.ReflTransGen fun before after => ∃ updates, merge before updates = .ok after

section

variable {stages merged updates : List Stage} {s : Stage}

/-- All that a report can do to a list: it replaces an unfinished stage at its place, or follows the last one,
which has finished. -/
theorem mergeOne_cases (h : mergeOne stages s = .ok merged) :
    (∃ old, stages[s.position.val]? = some old ∧ old.isTerminal = false ∧
      merged = stages.set s.position s) ∨
    (s.position.val = stages.length ∧ (∀ last ∈ stages.getLast?, last.isTerminal = true) ∧
      merged = stages ++ [s]) := by
  unfold mergeOne at h
  split at h
  · rename_i old found
    split at h
    · cases h
    · rename_i unfinished
      exact Or.inl ⟨old, found, by simpa using unfinished, (Except.ok.inj h).symm⟩
  · split at h
    · rename_i next
      split at h
      · rename_i last there
        split at h
        · rename_i terminal
          refine Or.inr ⟨next, ?_, (Except.ok.inj h).symm⟩
          intro other same
          rw [there] at same
          exact Option.some.inj same ▸ terminal
        · cases h
      · rename_i nobody
        have empty : stages = [] := List.getLast?_eq_none_iff.mp nobody
        refine Or.inr ⟨next, by simp [empty], ?_⟩
        rw [empty]
        exact (Except.ok.inj h).symm
    · cases h

/-- A stage that is not the last one of a sequence has finished, so only the last one can be replaced. -/
theorem InSequence.last_of_unfinished (h : InSequence stages) {i : Nat} {old : Stage}
    (found : stages[i]? = some old) (unfinished : old.isTerminal = false) : i + 1 = stages.length := by
  have inside := (List.getElem?_eq_some_iff.mp found).1
  by_contra other
  have terminal := h.finished i old found (by omega)
  rw [unfinished] at terminal
  cases terminal

theorem InSequence.mergeOne (h : InSequence stages) (taken : Stage.mergeOne stages s = .ok merged) :
    InSequence merged := by
  obtain ⟨old, found, unfinished, rfl⟩ | ⟨next, last, rfl⟩ := mergeOne_cases taken
  · have size := h.last_of_unfinished found unfinished
    constructor
    · intro i t there
      rw [List.getElem?_set] at there
      split at there
      · rename_i same
        split at there
        · rw [← Option.some.inj there, same]
        · cases there
      · exact h.placed i t there
    · intro i t there before
      rw [List.length_set] at before
      have apart : s.position.val ≠ i := by omega
      rw [List.getElem?_set_ne apart] at there
      exact h.finished i t there before
  · constructor
    · intro i t there
      rcases Nat.lt_or_ge i stages.length with inside | outside
      · rw [List.getElem?_append_left inside] at there
        exact h.placed i t there
      · rw [List.getElem?_append_right outside, List.getElem?_singleton] at there
        split at there
        · rw [← Option.some.inj there]
          omega
        · cases there
    · intro i t there before
      rw [List.length_append, List.length_singleton] at before
      have inside : i < stages.length := by omega
      rw [List.getElem?_append_left inside] at there
      rcases Nat.lt_or_ge (i + 1) stages.length with earlier | at_end
      · exact h.finished i t there earlier
      · apply last
        rw [Option.mem_def, List.getLast?_eq_getElem?, ← there]
        congr 1
        omega

/-- A stage that has finished stays as it is. -/
theorem mergeOne_keeps (taken : Stage.mergeOne stages s = .ok merged) {i : Nat} {t : Stage}
    (there : stages[i]? = some t) (terminal : t.isTerminal = true) : merged[i]? = some t := by
  obtain ⟨old, found, unfinished, rfl⟩ | ⟨-, -, rfl⟩ := mergeOne_cases taken
  · have apart : s.position.val ≠ i := by
      rintro rfl
      obtain rfl : t = old := Option.some.inj (there.symm.trans found)
      rw [unfinished] at terminal
      cases terminal
    rw [List.getElem?_set_ne apart, there]
  · rw [List.getElem?_append_left (List.getElem?_eq_some_iff.mp there).1, there]

theorem merge_cons (stages : List Stage) (s : Stage) (updates : List Stage) :
    merge stages (s :: updates) = (Stage.mergeOne stages s).bind (merge · updates) := rfl

/-- What one report keeps, a batch keeps. -/
theorem merge_induction {P : List Stage → Prop}
    (step : ∀ {before after s}, P before → Stage.mergeOne before s = .ok after → P after)
    (h : P stages) (taken : merge stages updates = .ok merged) : P merged := by
  induction updates generalizing stages with
  | nil =>
    obtain rfl : stages = merged := Except.ok.inj taken
    exact h
  | cons s rest ih =>
    rw [merge_cons] at taken
    cases first : Stage.mergeOne stages s with
    | error fault => simp [first, Except.bind] at taken
    | ok after =>
      rw [first] at taken
      exact ih (step h first) taken

/-- What one report keeps is kept for ever. -/
theorem MergesTo.induction {P : List Stage → Prop}
    (step : ∀ {before after s}, P before → Stage.mergeOne before s = .ok after → P after)
    (h : P stages) (reached : MergesTo stages merged) : P merged := by
  induction reached with
  | refl => exact h
  | tail _ batch ih =>
    obtain ⟨updates, taken⟩ := batch
    exact merge_induction step ih taken

theorem inSequence_nil : InSequence [] where
  placed i s there := by simp at there
  finished i s there := by simp at there

/-- A batch is taken in one report after the other: the same comes of it, and the same fault stops it. -/
theorem merge_eq_foldlM_singletons (stages updates : List Stage) :
    merge stages updates = updates.foldlM (fun list s => merge list [s]) stages := by
  induction updates generalizing stages with
  | nil => rfl
  | cons s rest ih =>
    have one : merge stages [s] = Stage.mergeOne stages s := by
      rw [merge_cons]
      cases Stage.mergeOne stages s <;> rfl
    rw [merge_cons, List.foldlM_cons, one]
    cases Stage.mergeOne stages s with
    | error fault => rfl
    | ok after => exact ih after

theorem InSequence.length_le (h : InSequence stages) : stages.length ≤ 3 := by
  by_contra long
  obtain ⟨s, there⟩ : ∃ s, stages[3]? = some s :=
    ⟨_, List.getElem?_eq_getElem (by omega)⟩
  have place := h.placed 3 s there
  have bound := s.position.isLt
  omega

/-- A sequence without its last stage is one, and all its stages have finished. -/
theorem InSequence.init {front : List Stage} {last : Stage} (h : InSequence (front ++ [last])) :
    InSequence front ∧ ∀ s ∈ front, s.isTerminal = true := by
  have within : ∀ {i s}, front[i]? = some s → (front ++ [last])[i]? = some s ∧ i < front.length := by
    intro i s there
    have inside := (List.getElem?_eq_some_iff.mp there).1
    exact ⟨by rw [List.getElem?_append_left inside, there], inside⟩
  have terminal : ∀ (i : Nat) (s : Stage), front[i]? = some s → s.isTerminal = true := by
    intro i s there
    obtain ⟨whole, inside⟩ := within there
    exact h.finished i s whole (by simpa using inside)
  refine ⟨⟨fun i s there => h.placed i s (within there).1, fun i s there _ => terminal i s there⟩, ?_⟩
  intro s hs
  obtain ⟨i, there⟩ := List.mem_iff_getElem?.mp hs
  exact terminal i s there

/-- Every sequence comes about, by the reports of its stages in order. -/
theorem InSequence.merge_nil (h : InSequence stages) : merge [] stages = .ok stages := by
  induction stages using List.reverseRecOn with
  | nil => rfl
  | append_singleton front last ih =>
    obtain ⟨before, terminal⟩ := h.init
    have place : last.position.val = front.length := h.placed _ _ (by simp)
    rw [merge_append, ih before]
    show Stage.merge front [last] = _
    have vacant : front[last.position.val]? = none := by simp [place]
    rw [merge_cons, Stage.mergeOne, vacant]
    simp only [place, if_true]
    cases there : front.getLast? with
    | none =>
      rw [List.getLast?_eq_none_iff.mp there]
      rfl
    | some t =>
      have done : t.isTerminal = true := terminal t (List.mem_of_getLast? there)
      simp only [done, if_true]
      rfl

/-- Exactly the sequences come about. -/
theorem mergesTo_nil_iff : MergesTo [] stages ↔ InSequence stages :=
  ⟨fun reached => reached.induction (fun h taken => h.mergeOne taken) inSequence_nil,
    fun h => .single ⟨stages, h.merge_nil⟩⟩

end

end Reckoner.Stage

namespace Reckoner

open Reckoner.Json Reckoner.Schema

/-- No stage is out of place, counting from a place, or unfinished. -/
theorem Run.stageFault?_eq_none_iff {place : Nat} {stages : List Stage} :
    Run.stageFault? place stages = none ↔
      ∀ i (s : Stage), stages[i]? = some s → s.position.val = place + i ∧ s.isTerminal = true := by
  induction stages generalizing place with
  | nil => simp [Run.stageFault?]
  | cons s rest ih =>
    constructor
    · intro faultless
      unfold Run.stageFault? at faultless
      split at faultless
      · cases faultless
      · rename_i right
        split at faultless
        · cases faultless
        · rename_i terminal
          intro i t there
          cases i with
          | zero =>
            obtain rfl : s = t := by simpa using there
            exact ⟨by simpa using right, by simpa using terminal⟩
          | succ i =>
            obtain ⟨position, done⟩ := ih.mp faultless i t (by simpa using there)
            exact ⟨by omega, done⟩
    · intro each
      obtain ⟨position, terminal⟩ := each 0 s rfl
      have later : Run.stageFault? (place + 1) rest = none := by
        apply ih.mpr
        intro i t there
        obtain ⟨position, done⟩ := each (i + 1) t (by simpa using there)
        exact ⟨by omega, done⟩
      simp only [Run.stageFault?, position, terminal, later]
      simp

/-- A run that is written out is accepted as it was, or refused for its first fault. -/
theorem Run.check_toMembers (r : Run) : Run.check r.stages r.toMembers =
    match r.fault? with
    | some f => refuse (.rejected f.message)
    | none => .ok r := by
  have success : required r.toMembers "success" Schema.bool = .ok r.success := rfl
  have answer : optional r.toMembers "finalAnswer" none (nullable Schema.text) = .ok r.finalAnswer :=
    congrArg (under _) (Schema.checkNullable_ofText? r.finalAnswer)
  rw [Run.check, success, answer]
  rfl

namespace Stage

/-- The stages of a sequence have all finished if the last one has. -/
theorem InSequence.stageFault?_eq_none_iff {stages : List Stage} (h : InSequence stages) :
    Run.stageFault? 0 stages = none ↔
      stages = [] ∨ ∃ last, stages.getLast? = some last ∧ last.isTerminal = true := by
  rw [Run.stageFault?_eq_none_iff]
  constructor
  · intro each
    cases there : stages.getLast? with
    | none => exact Or.inl (List.getLast?_eq_none_iff.mp there)
    | some last =>
      rw [List.getLast?_eq_getElem?] at there
      exact Or.inr ⟨last, rfl, (each _ last there).2⟩
  · rintro (rfl | ⟨last, there, terminal⟩) i s found
    · simp at found
    · refine ⟨by rw [h.placed i s found, Nat.zero_add], ?_⟩
      have inside := (List.getElem?_eq_some_iff.mp found).1
      rcases Nat.lt_or_ge (i + 1) stages.length with earlier | at_end
      · exact h.finished i s found earlier
      · have same : stages.length - 1 = i := by omega
        rw [List.getLast?_eq_getElem?, same, found] at there
        rw [Option.some.inj there]
        exact terminal

/-- In every list to which reports have led there are at most three stages, each at its own place, and all
but the last have finished; what has finished stays as it is. A batch does what its reports do one by one. A run
whose success is that all three stages are complete, with an answer, accepts such a list exactly if it
is empty or its last stage has finished. -/
theorem merged_in_sequence {stages : List Stage} (reached : MergesTo [] stages) :
    stages.length ≤ 3 ∧
    (∀ i (s : Stage), stages[i]? = some s → s.number = i + 1) ∧
    (∀ s ∈ stages.dropLast, s.isTerminal = true) ∧
    (∀ (i : Nat) (s : Stage) later, stages[i]? = some s → s.isTerminal = true → MergesTo stages later →
      later[i]? = some s) ∧
    (∀ updates, merge stages updates = updates.foldlM (fun list s => merge list [s]) stages) ∧
    ∀ answer, let run : Run := ⟨stages, Run.allComplete stages && answer.isSome, answer⟩
      Run.check stages run.toMembers = .ok run ↔
        stages = [] ∨ ∃ last, stages.getLast? = some last ∧ last.isTerminal = true := by
  have sequence := mergesTo_nil_iff.mp reached
  refine ⟨sequence.length_le, ?_, ?_, ?_, merge_eq_foldlM_singletons stages, ?_⟩
  · intro i s there
    rw [number, sequence.placed i s there]
  · cases stages using List.reverseRecOn with
    | nil => simp
    | append_singleton front last =>
      rw [List.dropLast_concat]
      exact sequence.init.2
  · intro i s later there terminal further
    exact further.induction (fun kept taken => mergeOne_keeps taken kept terminal) there
  · intro answer run
    have accepted : Run.check stages run.toMembers = .ok run ↔ run.fault? = none := by
      rw [Run.check_toMembers run]
      cases run.fault? <;> simp [refuse]
    have fault : run.fault? = none ↔ Run.stageFault? 0 stages = none := by
      rw [Run.fault?]
      cases Run.stageFault? 0 run.stages <;> simp [run]
    rw [accepted, fault, sequence.stageFault?_eq_none_iff]

/-- Two stages, of which the second has failed, come about by four reports; no further report changes them, and
a run without success accepts them. -/
theorem merged_in_sequence_failed :
    let first : Stage := ⟨0, "extract", .complete, none, some "1/0", none⟩
    let second : Stage := ⟨1, "evaluate", .error, some (.text "1/0"), none, some "Division by zero"⟩
    let run : Run := ⟨[first, second], false, none⟩
    MergesTo [] [first, second] ∧
      (∀ later, MergesTo [first, second] later → later[0]? = some first ∧ later[1]? = some second) ∧
      Run.check [first, second] run.toMembers = .ok run := by
  intro first second run
  have reached : MergesTo [] [first, second] :=
    .single ⟨[start 0 "extract" none, first, start 1 "evaluate" (some (.text "1/0")), second], rfl⟩
  obtain ⟨-, -, -, lasting, -, accepted⟩ := merged_in_sequence reached
  refine ⟨reached, fun later further => ⟨?_, ?_⟩, ?_⟩
  · exact lasting 0 first later rfl rfl further
  · exact lasting 1 second later rfl rfl further
  · exact (accepted none).mpr (Or.inr ⟨second, rfl, rfl⟩)

end Stage

end Reckoner
