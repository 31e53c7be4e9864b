import Reckoner.Proofs.Arithmetic.Unfailing
import Reckoner.Proofs.Chat.TurnOutline
import Reckoner.Proofs.Solver.PublishedTrace

namespace Reckoner.Chat

open Reckoner.Gateway Reckoner.Solver Reckoner.Solver.Graph

/-- A call of the model has failed. -/
def Transcript.Failed (exchanges : Transcript) : Prop :=
  ∃ e ∈ exchanges, ∃ f, e.2 = .error f

/-- The model was to speak for itself, and said nothing. -/
def Transcript.Silent (text : String) (exchanges : Transcript) : Prop :=
  Classifier.isQuestion text = false ∧ ∃ e ∈ exchanges, ∃ words, e.2 = .ok words ∧ Text.blank words = true

/-- A reply without its stages is what the model said last, or the computed value in its place. -/
def Phrases (exchanges : Transcript) (run : Run) (content : String) : Prop :=
  ∃ words result answer, exchanges.map Prod.snd = [.ok words, .ok answer] ∧
    Arithmetic.evaluate (Arithmetic.sanitize words) = .ok result ∧ result.formatted ≠ "" ∧
    run.stages[1]?.bind Stage.output = some result.formatted ∧
    content = if Text.trim answer = "" then "The result is **" ++ result.formatted ++ "**." else Text.trim answer

/-- A response is what the exchanges with the model make of it. -/
structure Truthful (text : String) (showStages : Bool) (exchanges : Transcript) (r : Response) : Prop where
  role : r.reply.role = .assistant
  spoken : Text.blank r.reply.content = false
  acceptable : Message.make r.reply = .ok r.reply
  valid : ∀ run, r.run = some run → run.fault? = none
  pipeline : r.reply.isPipeline = true ↔ r.run.isSome = true
  run : r.run.isSome = true ↔ Classifier.isQuestion text = true ∧ ¬ exchanges.Failed
  error : r.reply.isError = true ↔ exchanges.Failed ∨ exchanges.Silent text ∨
    ∃ run, r.run = some run ∧ run.success = false
  phrased : showStages = false → ∀ run, r.run = some run → run.success = true →
    Phrases exchanges run r.reply.content

/-- What the exchanges are like that come to an answer. -/
def Answer.ComesOf (text : String) (exchanges : Transcript) : Answer → Prop
  | words w => Classifier.isQuestion text = false ∧ exchanges.map Prod.snd = [.ok w]
  | failure _ => exchanges.Failed ∧ ¬ exchanges.Silent text
  | run r => Classifier.isQuestion text = true ∧ ¬ exchanges.Failed ∧
    ((∃ expression message, r = refusedRun expression message) ∨
      ∃ words result answer, exchanges.map Prod.snd = [.ok words, .ok answer] ∧
        Arithmetic.evaluate (Arithmetic.sanitize words) = .ok result ∧
        r = answeredRun text (Arithmetic.sanitize words) result.formatted (Text.trim answer))

theorem Ways.comesOf {m : Manner} {text : String} {exchanges : Transcript} {outcome : Except Defect Answer}
    (ways : Ways m text exchanges outcome) {x : Answer} (answered : outcome = .ok x) :
    x.ComesOf text exchanges := by
  cases ways with
  | direct other reply =>
    cases reply with
    | ok words =>
      obtain rfl := Except.ok.inj answered
      exact ⟨other, rfl⟩
    | error f =>
      cases f with
      | gateway own =>
        obtain rfl := Except.ok.inj answered
        exact ⟨⟨_, List.mem_cons_self, _, rfl⟩, by simp [Transcript.Silent]⟩
      | defect d => cases answered
  | unnamed question f =>
    cases f with
    | gateway own =>
      obtain rfl := Except.ok.inj answered
      exact ⟨⟨_, List.mem_cons_self, _, rfl⟩, by simp [Transcript.Silent, question]⟩
    | defect d => cases answered
  | refused question value =>
    obtain rfl := Except.ok.inj answered
    exact ⟨question, by simp [Transcript.Failed], Or.inl ⟨_, _, rfl⟩⟩
  | phrased question value reply =>
    cases reply with
    | ok answer =>
      obtain rfl := Except.ok.inj answered
      exact ⟨question, by simp [Transcript.Failed], Or.inr ⟨_, _, answer, rfl, value, rfl⟩⟩
    | error f =>
      cases f with
      | gateway own =>
        obtain rfl := Except.ok.inj answered
        exact ⟨⟨_, List.mem_cons_of_mem _ List.mem_cons_self, _, rfl⟩, by simp [Transcript.Silent, question]⟩
      | defect d => cases answered

namespace Answer

section

variable {text : String} {exchanges : Transcript} {x : Answer}

theorem ComesOf.run_iff (h : x.ComesOf text exchanges) :
    x.run?.isSome = true ↔ Classifier.isQuestion text = true ∧ ¬ exchanges.Failed := by
  cases x with
  | words w => simp [run?, h.1]
  | failure f => simp [run?, h.1]
  | run r => simp [run?, h.1, h.2.1]

theorem ComesOf.fails_iff (h : x.ComesOf text exchanges) :
    x.fails = true ↔
      exchanges.Failed ∨ exchanges.Silent text ∨ ∃ run, x.run? = some run ∧ run.success = false := by
  cases x with
  | words w =>
    obtain ⟨other, given⟩ := h
    obtain ⟨e, rfl, reply⟩ := List.map_eq_singleton_iff.mp given
    simp [fails, run?, Transcript.Failed, Transcript.Silent, other, reply]
  | failure f => simp [fails, h.1]
  | run r =>
    have heard : ¬ exchanges.Silent text := by simp [Transcript.Silent, h.1]
    simp [fails, run?, h.2.1, heard]

theorem ComesOf.fault?_run {r : Run} (h : (run r).ComesOf text exchanges) : r.fault? = none := by
  obtain ⟨-, -, ⟨expression, message, rfl⟩ | ⟨words, result, answer, -, -, rfl⟩⟩ := h
  · rfl
  · rfl

theorem ComesOf.worded {r : Run} (h : (run r).ComesOf text exchanges) : r.Worded := by
  obtain ⟨-, -, ⟨expression, message, rfl⟩ | ⟨words, result, answer, -, -, rfl⟩⟩ := h
  · intro final found
    cases found
  · intro final found some_word
    obtain rfl := Option.some.inj found
    exact Text.blank_of_trim some_word

theorem ComesOf.spoken (h : x.ComesOf text exchanges) (showStages : Bool) : (x.draft showStages).Spoken := by
  cases x with
  | words w =>
    rw [draft]
    cases found : Draft.ofWords w with
    | some d => exact Draft.spoken_ofWords found
    | none => exact Draft.spoken_ofFailure silence
  | failure f => exact Draft.spoken_ofFailure f
  | run r => exact Draft.spoken_ofRun h.worded showStages

theorem ComesOf.phrases {r : Run} (h : (run r).ComesOf text exchanges) (success : r.success = true) :
    Phrases exchanges r ((run r).draft false).content := by
  obtain ⟨-, -, ⟨expression, message, rfl⟩ | ⟨words, result, answer, given, value, rfl⟩⟩ := h
  · cases success
  · refine ⟨words, result, answer, given, value, Arithmetic.formatted_ne_empty value, rfl, ?_⟩
    simp [draft, Draft.ofRun, answerOf, computed, answeredRun]

/-- What is said of an answer is true. -/
theorem ComesOf.truthful (h : x.ComesOf text exchanges) (a : Assistant) (c : Conversation) (showStages : Bool) :
    Truthful text showStages exchanges
      ⟨a.told (x.draft showStages), x.run?, (c.add (a.told (x.draft showStages))).messages⟩ where
  role := rfl
  spoken := h.spoken showStages
  acceptable := make_told a (h.spoken showStages)
  valid := by
    intro r found
    cases x with
    | run s =>
      obtain rfl := Option.some.inj found
      exact h.fault?_run
    | words w => cases found
    | failure f => cases found
  pipeline := by
    show (x.draft showStages).isPipeline = true ↔ _
    rw [isPipeline_draft]
  run := h.run_iff
  error := by
    show (x.draft showStages).isError = true ↔ _
    rw [isError_draft]
    exact h.fails_iff
  phrased := by
    rintro rfl r found success
    cases x with
    | run s =>
      obtain rfl := Option.some.inj found
      exact h.phrases success
    | words w => cases found
    | failure f => cases found

end

end Answer

namespace Assistant

/-- While the gateway answers or reports its failures, every text with content that is sent to a session without a turn
in flight has a reply. For every history and every gateway, of which a transcript is kept, the text makes a message and
the response tells the truth about the exchanges with the model. The evaluation of what the model has named does not
break; a question is carried out node by node to the run of the response, with every prompt rendered, every stage moved
and the run valid, or to the failure of a call, which is told. -/
theorem reply_truthful {γ : Type} {generate : γ → Call → γ × Except CallFailure String}
    (owned : ∀ g c f, (generate g c).2 = .error f → ∃ own, f = .gateway own) (g : γ) (log : Transcript)
    {a : Assistant} (context : Context) {sessionId text : String}
    (free : a.store.isBusy sessionId = false) (spoken : Text.blank text = false) (verbose : Option Bool) :
    let served := respondWith (transcribed generate) (g, log) a context sessionId text verbose
    respondWith generate g a context sessionId text verbose = (served.1.1, served.2) ∧
    ∃ exchanges r, served.1.2 = log ++ exchanges ∧ served.2.2.2 = .ok r ∧
      Message.make (a.said text) = .ok (a.said text) ∧
      r.messages = (a.asking sessionId text).messages ++ [r.reply] ∧
      Truthful text (verbose.getD a.showStages) exchanges r ∧
      (∀ e ∈ exchanges, ∀ words, e.2 = .ok words → Arithmetic.attempt (Arithmetic.sanitize words) =
        .ok (.of (Arithmetic.evaluate (Arithmetic.sanitize words)))) ∧
      (Classifier.isQuestion text = true → ∀ feed told,
        let solving := solve (transcribed generate) .arithmetic a.manner sessionId text
        let solved := (solving.on ⟨(g, log), feed, told⟩).1
        (∃ run, r.run = some run ∧ solved = .ok run) ∨
          (r.run = none ∧ ∃ own, solved = .error (.call (.gateway own)) ∧
            r.reply.content = errorContent own.message)) := by
  intro served
  have outlined : served = _ := respondWith_eq free spoken context verbose
  obtain ⟨exchanges, kept, ways, given⟩ := ways_answer generate a.manner g log text
  obtain ⟨x, answered⟩ := ways.answers fun e he f failed => by
    obtain ⟨h, reply⟩ := given e he
    exact owned h e.1 f (reply ▸ failed)
  have comes := ways.comesOf answered
  refine ⟨respondWith_transcribed g log a context sessionId text verbose, ?_⟩
  rw [outlined]
  dsimp only
  rw [answered]
  refine ⟨exchanges, _, kept, rfl, Message.make_of_spoken spoken, rfl, comes.truthful _ _ _,
    fun _ _ words _ => Arithmetic.attempt_eq _, ?_⟩
  intro question feed told
  rw [answer_question question] at answered
  rw [on_solve]
  dsimp only at answered ⊢
  cases outcome : (outline (transcribed generate) .arithmetic a.manner (g, log) text).2.2 with
  | ok run =>
    rw [outcome] at answered
    obtain rfl := Except.ok.inj answered
    exact Or.inl ⟨run, rfl, rfl⟩
  | error f =>
    rw [outcome] at answered
    cases f with
    | gateway own =>
      obtain rfl := Except.ok.inj answered
      exact Or.inr ⟨rfl, own, rfl, rfl⟩
    | defect d => cases answered

/-- The model names the expression in a question, and has nothing to say about its result. -/
theorem reply_truthful_unworded :
    let a : Assistant := ⟨.empty, none, 0, ⟨.whole 0, .whole 0⟩, false⟩
    let served := respondWith (transcribed listed) ([.ok "2 + 2", .ok " "], []) a .unbound "s" "what is 2 + 2?" none
    (∀ g c f, (listed g c).2 = .error f → ∃ own, f = .gateway own) ∧ a.store.isBusy "s" = false ∧
      Text.blank "what is 2 + 2?" = false ∧
      ∃ exchanges r, served.1.2 = [] ++ exchanges ∧ served.2.2.2 = .ok r ∧
        Truthful "what is 2 + 2?" false exchanges r := by
  intro a served
  have owned : ∀ g c f, (listed g c).2 = .error f → ∃ own, f = .gateway own := by
    rintro (_ | ⟨own | words, rest⟩) c f failed
    · exact ⟨_, (Except.error.inj failed).symm⟩
    · exact ⟨own, (Except.error.inj failed).symm⟩
    · simp [listed, Except.mapError] at failed
  have free : a.store.isBusy "s" = false := rfl
  have spoken : Text.blank "what is 2 + 2?" = false := by decide
  obtain ⟨-, exchanges, r, kept, responded, -, -, truthful, -⟩ :=
    reply_truthful owned [.ok "2 + 2", .ok " "] [] .unbound free spoken none
  exact ⟨owned, free, spoken, exchanges, r, kept, responded, truthful⟩

end Assistant

end Reckoner.Chat
