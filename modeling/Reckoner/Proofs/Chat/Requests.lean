import Reckoner.Chat.Message
import Reckoner.Proofs.Text.Trimming

namespace Reckoner

theorem Schema.under_eq_ok {α : Type} {step : Schema.Step} {a : Schema.Checked α} {x : α} :
    Schema.under step a = .ok x ↔ a = .ok x := by
  cases a <;> simp [Schema.under, Except.mapError]

namespace Chat

open Schema

theorem trimmedText_eq_ok {v : Json.Value} {s : String} (h : trimmedText v = .ok s) :
    ∃ text, v = .text text ∧ s = Text.trim text ∧ Text.blank s = false := by
  unfold trimmedText at h
  cases v with
  | text t =>
    simp only [Schema.text, bind, Except.bind] at h
    split at h
    · cases h
    · rename_i some_char
      obtain rfl := Except.ok.inj h
      exact ⟨t, rfl, rfl, Text.blank_of_trim (by simpa using some_char)⟩
  | _ => cases h

/-- The message of a request is the text that was given for it, trimmed, and not blank. -/
theorem Request.message_of_check {members : Json.Members} {said : Request} (h : check members = .ok said) :
    ∃ text, members.get? "message" = some (.text text) ∧ said.message = Text.trim text ∧
      Text.blank said.message = false := by
  unfold check at h
  cases parts : both (required members "sessionId" nonemptyText)
      (both (required members "message" trimmedText)
        (optional members "verbose" none (nullable Schema.bool))) with
  | error issues => simp [parts, Except.map] at h
  | ok p =>
    obtain ⟨id, message, verbose⟩ := p
    obtain rfl : ⟨id, message, verbose⟩ = said := by simpa [parts, Except.map] using h
    have named : required members "message" trimmedText = .ok message :=
      (both_ok_iff.mp (both_ok_iff.mp parts).2).1
    rw [required, under_eq_ok] at named
    cases hm : members.get? "message" with
    | none => simp [hm, refuse] at named
    | some v =>
      obtain ⟨text, rfl, trimmed, spoken⟩ := trimmedText_eq_ok (by simpa [hm] using named)
      exact ⟨text, rfl, trimmed, spoken⟩

theorem Request.spoken {members : Json.Members} {said : Request} (h : check members = .ok said) :
    Text.blank said.message = false := by
  obtain ⟨-, -, -, spoken⟩ := message_of_check h
  exact spoken

end Chat

end Reckoner
