import Reckoner.Proofs.Chat.TurnSteps
import Reckoner.Proofs.Text.Trimming

namespace Reckoner

/-- The final answer is empty or not blank. -/
def Run.Worded (r : Run) : Prop :=
  ∀ answer, r.finalAnswer = some answer → answer.isEmpty = false → Text.blank answer = false

namespace Chat

open Reckoner.Gateway

/-- The draft has content. -/
def Draft.Spoken (d : Draft) : Prop := Text.blank d.content = false

theorem spoken_errorContent (message : String) : Text.blank (errorContent message) = false := by
  have sign : Text.blank "❌ **Error:** " = false := by decide
  rw [errorContent, Text.blank_append, sign, Bool.false_and]

theorem Draft.spoken_ofFailure (f : GatewayFailure) : (Draft.ofFailure f).Spoken :=
  spoken_errorContent f.message

theorem Draft.spoken_ofWords {words : String} {d : Draft} (h : Draft.ofWords words = some d) :
    d.Spoken := by
  simp only [Draft.ofWords] at h
  split at h
  · simp at h
  · rename_i nonempty
    obtain rfl := Option.some.inj h
    exact Text.blank_of_trim (by simpa using nonempty)

theorem spoken_answerOf {r : Run} (worded : r.Worded) : Text.blank (answerOf r) = false := by
  have computed : Text.blank ("The result is **" ++ computed r ++ "**.") = false := by
    have start : Text.blank "The result is **" = false := by decide
    rw [Text.blank_append, Text.blank_append, start, Bool.false_and, Bool.false_and]
  unfold answerOf
  cases found : r.finalAnswer with
  | none => exact computed
  | some answer =>
    cases empty : answer.isEmpty with
    | true => simpa [empty] using computed
    | false => simpa [empty] using worded answer found empty

theorem Draft.spoken_ofRun {r : Run} (worded : r.Worded) (showStages : Bool) :
    (Draft.ofRun r showStages).Spoken := by
  have answered := spoken_answerOf worded
  have failed := spoken_errorContent runFailed
  unfold Draft.ofRun Draft.Spoken
  cases r.success <;> cases showStages
  · exact failed
  · rw [if_neg (by simp), if_pos rfl, Text.blank_trimEnd, Text.blank_append, Text.blank_append,
      failed, Bool.false_and, Bool.false_and]
  · exact answered
  · rw [if_pos rfl, if_pos rfl, Text.blank_append, answered, Bool.and_false]

theorem make_told (a : Assistant) {d : Draft} (h : d.Spoken) :
    Message.make (a.told d) = .ok (a.told d) :=
  Message.make_of_spoken h

end Chat

end Reckoner
