import Reckoner.Arithmetic.Evaluation
import Reckoner.Arithmetic.Token
import Reckoner.Gateway.Failure
import Reckoner.Gateway.Request
import Reckoner.Prompt.Basic
import Reckoner.Solver.Note
import Reckoner.Stage.Run

namespace Reckoner.Solver

open Reckoner.Gateway

/-- How freely the model may answer each of its calls. -/
structure Manner where
  extraction : Temperature
  formatting : Temperature
  deriving DecidableEq, Repr

/-- A solution that waits for a reply of the model. -/
inductive Pending where
  | extraction (question : String)
  | formatting (question : String) (result : Arithmetic.Success)
  deriving DecidableEq, Repr

inductive Next where
  | waiting (p : Pending)
  | solved (r : Run)
  | failed (f : CallFailure)
  deriving DecidableEq, Repr

structure Move where
  notes : List Note
  next : Next
  deriving DecidableEq, Repr

/-- What the last task works on. -/
def formatInput (question : String) (result : Arithmetic.Success) : List (String × String) :=
  [("question", question), ("expression", result.expression), ("result", result.formatted)]

namespace Pending

def call (m : Manner) : Pending → Call
  | extraction question =>
    .withTemperature (Prompt.extraction.fill [("question", question)]) m.extraction
  | formatting question result =>
    .withTemperature (Prompt.formatting.fill (formatInput question result)) m.formatting

/-- How many replies are still to come, at most. -/
def remaining : Pending → Nat
  | extraction _ => 2
  | formatting .. => 1

end Pending

def Next.remaining : Next → Nat
  | .waiting p => p.remaining
  | .solved _ | .failed _ => 0

def start (question : String) : Move :=
  ⟨[.stage .extract (Task.extract.begun none)], .waiting (.extraction question)⟩

/-- A call has failed. The gateway's own failures are noted with the stage, others are not. -/
def callFailed (t : Task) (input : Option Payload) (f : CallFailure) : Move :=
  match f with
  | .gateway g => ⟨[.stage t (t.failed input g.message)], .failed f⟩
  | .defect _ => ⟨[], .failed f⟩

def finish (stages : List Stage) (last : Task × Stage) (answer : Option String) : Move :=
  let r := Run.ofStages (stages ++ [last.2]) answer
  ⟨[.stage last.1 last.2, .finished r.success], .solved r⟩

/-- The model has named an expression, which may be anything. -/
def extracted (question expression : String) : Move :=
  let input := some (Payload.text expression)
  let first := Task.extract.done none expression
  let before : List Note := [.stage .extract first, .stage .evaluate (Task.evaluate.begun input)]
  match Arithmetic.evaluate expression with
  | .ok result =>
    let second := Task.evaluate.done input result.formatted
    let third := Task.format.begun (some (.fields (formatInput question result)))
    ⟨before ++ [.stage .evaluate second, .stage .format third],
      .waiting (.formatting question result)⟩
  | .error f =>
    let last := finish [first] (.evaluate, Task.evaluate.failed input f.fault.message) none
    ⟨before ++ last.notes, last.next⟩

/-- The model has worded the result. -/
def formatted (question : String) (result : Arithmetic.Success) (words : String) : Move :=
  let answer := Text.trim words
  finish
    [Task.extract.done none result.expression,
      Task.evaluate.done (some (.text result.expression)) result.formatted]
    (.format, Task.format.done (some (.fields (formatInput question result))) answer) (some answer)

def Pending.resume : Pending → Except CallFailure String → Move
  | .extraction question, .ok words => extracted question (Arithmetic.sanitize words)
  | .extraction _, .error f => callFailed .extract none f
  | .formatting question result, .ok words => formatted question result words
  | .formatting question result, .error f =>
    callFailed .format (some (.fields (formatInput question result))) f

theorem remaining_callFailed (t : Task) (input : Option Payload) (f : CallFailure) :
    (callFailed t input f).next.remaining = 0 := by
  cases f <;> rfl

theorem remaining_extracted (question expression : String) :
    (extracted question expression).next.remaining ≤ 1 := by
  unfold extracted
  split <;> simp [finish, Next.remaining, Pending.remaining]

/-- Each reply brings a solution nearer to its end. -/
theorem remaining_resume (p : Pending) (reply : Except CallFailure String) :
    (p.resume reply).next.remaining < p.remaining := by
  cases p with
  | extraction question =>
    cases reply with
    | ok words => exact Nat.lt_succ_of_le (remaining_extracted question _)
    | error f => simp [Pending.resume, remaining_callFailed, Pending.remaining]
  | formatting question result =>
    cases reply with
    | ok words => simp [Pending.resume, formatted, finish, Next.remaining, Pending.remaining]
    | error f => simp [Pending.resume, remaining_callFailed, Pending.remaining]

end Reckoner.Solver
