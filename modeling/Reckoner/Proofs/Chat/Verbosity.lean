import Reckoner.Proofs.Chat.TurnOutline

namespace Reckoner

namespace Chat

open Reckoner.Gateway Reckoner.Solver

/-- How the words with the stages contain those without. -/
def Elaborates (run : Option Run) (shown plain : String) : Prop :=
  match run with
  | none => shown = plain
  | some r =>
    if r.success then ∃ before, shown = before ++ "**Final Answer:**\n" ++ plain
    else ∃ after, shown = plain ++ after

theorem elaborates_ofRun (r : Run) :
    Elaborates (some r) (Draft.ofRun r true).content (Draft.ofRun r false).content := by
  cases success : r.success with
  | true =>
    have shown : (Draft.ofRun r true).content =
        r.report ++ "\n---\n\n**Final Answer:**\n" ++ answerOf r := by simp [Draft.ofRun, success]
    have plain : (Draft.ofRun r false).content = answerOf r := by simp [Draft.ofRun, success]
    have heading : "\n---\n\n**Final Answer:**\n" = "\n---\n\n" ++ "**Final Answer:**\n" := by decide
    simp only [Elaborates, success, if_true, shown, plain]
    exact ⟨r.report ++ "\n---\n\n", by rw [heading, ← String.append_assoc]⟩
  | false =>
    have shown : (Draft.ofRun r true).content =
        Text.trimEnd (errorContent runFailed ++ "\n\n" ++ r.report) := by simp [Draft.ofRun, success]
    have plain : (Draft.ofRun r false).content = errorContent runFailed := by simp [Draft.ofRun, success]
    -- The words of the failure do not end in white space, so trimming stops short of them.
    have solid : Text.trimEnd (errorContent runFailed) = errorContent runFailed := by decide +kernel
    simp only [Elaborates, success, Bool.false_eq_true, if_false, shown, plain, String.append_assoc]
    exact Text.trimEnd_append solid _

theorem Answer.elaborates (x : Answer) : Elaborates x.run? (x.draft true).content (x.draft false).content := by
  cases x with
  | run r => exact elaborates_ofRun r
  | words w => rfl
  | failure f => rfl

theorem Books.toldAll_append (b : Books) (x y : List Effect) :
    b.toldAll (x ++ y) = b.toldAll x ++ (b.afterAll x).toldAll y := by
  induction x generalizing b with
  | nil => rfl
  | cons e rest ih =>
    rw [List.cons_append, toldAll, toldAll, ih, List.append_assoc]
    rfl

namespace Assistant

/-- Two turns with one text have been served alike, but for the words of the reply. -/
structure OnlyWordsDiffer (a : Assistant) (sessionId text : String) (shown plain : Assistant)
    (r r' : Response) : Prop where
  run : r.run = r'.run
  reply : r.reply = { r'.reply with content := r.reply.content }
  elaborates : Elaborates r.run r.reply.content r'.reply.content
  messages_shown : r.messages = (a.asking sessionId text).messages ++ [r.reply]
  messages_plain : r'.messages = (a.asking sessionId text).messages ++ [r'.reply]
  issued : shown.issued = plain.issued
  books : ∃ notes, shown.books = a.books.afterAll (a.serving sessionId text notes r.reply) ∧
    plain.books = a.books.afterAll (a.serving sessionId text notes r'.reply) ∧
    a.books.toldAll (a.serving sessionId text notes r.reply) =
      a.books.toldAll (a.serving sessionId text notes r'.reply)

section

variable {a : Assistant} {sessionId text : String}

/-- The events with which a text is served do not tell what the reply says. -/
theorem toldAll_serving (notes : List Note) {m m' : Message} (same : replyData m = replyData m') :
    a.books.toldAll (a.serving sessionId text notes m) =
      a.books.toldAll (a.serving sessionId text notes m') := by
  have closing (b : Books) (c : Conversation) (data : Json.Members) :
      b.toldAll [.save c, .tell sessionId Feed.replyKind "conversation" data, .leave sessionId] =
        (b.feed.map fun f => (f.emit sessionId Feed.replyKind "conversation" data).2).toList := by
    simp only [Books.toldAll, Books.told?, Books.after, Option.toList_none, List.nil_append, List.append_nil]
  simp only [serving, Books.toldAll_append, closing, same]

theorem told_draft (b : Assistant) (x : Answer) :
    b.told (x.draft true) = { b.told (x.draft false) with content := (x.draft true).content } := by
  simp only [told, Draft.message, Answer.isError_draft, Answer.isPipeline_draft]

theorem replyData_told (b : Assistant) (x : Answer) :
    replyData (b.told (x.draft true)) = replyData (b.told (x.draft false)) := by
  simp only [replyData, told, Draft.message, Answer.isError_draft, Answer.isPipeline_draft]

/-- An answer that is given twice. -/
theorem onlyWordsDiffer_settle (context : Context) (x : Answer) (notes : List Note) :
    let t := a.turn context sessionId text true
    let t' := a.turn context sessionId text false
    let b := (a.asked sessionId text).publish sessionId notes
    ∃ r r', b.outcome t (.ok x) = .ok r ∧ b.outcome t' (.ok x) = .ok r' ∧
      OnlyWordsDiffer a sessionId text (b.settle t (.ok x)).1 (b.settle t' (.ok x)).1 r r' := by
  intro t t' b
  refine ⟨_, _, rfl, rfl, ?_⟩
  exact {
    run := rfl
    reply := told_draft b x
    elaborates := x.elaborates
    messages_shown := rfl
    messages_plain := rfl
    issued := (issued_settle b t x).trans (issued_settle b t' x).symm
    books := ⟨notes, books_settle x notes true, books_settle x notes false,
      toldAll_serving notes (replyData_told b x)⟩ }

end

/-- Whether the stages are shown matters for the words of the reply alone. For every gateway and every history the model
is asked the same in the same order; both turns fail, in the same way, or both have a reply, with the same run, the
same flags, and the same events told before and with it. The words with the stages contain those without: at their end
if the run succeeds, at their beginning if it fails, and without a run they are the same. -/
theorem verbosity_only_words {γ : Type} (generate : γ → Call → γ × Except CallFailure String) (g : γ)
    (log : Transcript) (a : Assistant) (context : Context) (sessionId text : String) :
    let shown := respondWith (transcribed generate) (g, log) a context sessionId text (some true)
    let plain := respondWith (transcribed generate) (g, log) a context sessionId text (some false)
    shown.1 = plain.1 ∧ shown.2.2.1 = plain.2.2.1 ∧
    ((∃ f, shown.2.2.2 = .error f ∧ plain.2.2.2 = .error f ∧ shown.2.1 = plain.2.1) ∨
      ∃ r r', shown.2.2.2 = .ok r ∧ plain.2.2.2 = .ok r' ∧
        OnlyWordsDiffer a sessionId text shown.2.1 plain.2.1 r r') ∧
    (a.store.isBusy sessionId = false → Text.blank text = false →
      (∀ g c f, (generate g c).2 = .error f → ∃ own, f = .gateway own) → ∃ r, plain.2.2.2 = .ok r) := by
  intro shown plain
  by_cases refused : a.store.isBusy sessionId = true ∨ Text.blank text = true
  · obtain ⟨b, f, same⟩ := @respondWith_refused _ (transcribed generate) (g, log) a sessionId text refused context
    have first : shown = ((g, log), b, context, .error f) := same _
    have second : plain = ((g, log), b, context, .error f) := same _
    rw [first, second]
    refine ⟨rfl, rfl, Or.inl ⟨f, rfl, rfl, rfl⟩, ?_⟩
    intro free spoken
    rcases refused with busy | blank
    · rw [busy] at free
      cases free
    · rw [blank] at spoken
      cases spoken
  · obtain ⟨free, spoken⟩ : a.store.isBusy sessionId = false ∧ Text.blank text = false := by
      simpa using refused
    have first : shown = _ := respondWith_eq free spoken context (some true)
    have second : plain = _ := respondWith_eq free spoken context (some false)
    rw [first, second]
    -- Up to the answer both turns are one; only ending them depends on what is shown.
    dsimp only [Option.getD_some]
    refine ⟨rfl, rfl, ?_, ?_⟩
    · cases (answer (transcribed generate) a.manner (g, log) text).2.2 with
      | ok x => exact Or.inr (onlyWordsDiffer_settle context x _)
      | error d => exact Or.inl ⟨.defect d, rfl, rfl, rfl⟩
    · intro _ _ owned
      obtain ⟨exchanges, -, ways, given⟩ := ways_answer generate a.manner g log text
      obtain ⟨x, answered⟩ := ways.answers fun e he f failed => by
        obtain ⟨h, reply⟩ := given e he
        exact owned h e.1 f (reply ▸ failed)
      rw [answered]
      exact ⟨_, rfl⟩

end Assistant

end Chat

end Reckoner
