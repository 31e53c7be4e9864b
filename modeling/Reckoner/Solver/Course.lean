import Reckoner.Gateway.Canned
import Reckoner.Solver.Basic

namespace Reckoner.Solver

open Reckoner.Gateway

/-- What a solution came to, and everything noted on the way. -/
structure Course where
  notes : List Note
  outcome : Except CallFailure Run

def follow (m : Manner) (g : Canned) (move : Move) : Canned × Course :=
  match move with
  | ⟨notes, .solved r⟩ => (g, ⟨notes, .ok r⟩)
  | ⟨notes, .failed f⟩ => (g, ⟨notes, .error f⟩)
  | ⟨notes, .waiting p⟩ =>
    let (g, reply) := g.generate (p.call m)
    let (g, later) := follow m g (p.resume reply)
    (g, ⟨notes ++ later.notes, later.outcome⟩)
  termination_by move.next.remaining
  decreasing_by exact remaining_resume p _

def solve (m : Manner) (g : Canned) (question : String) : Canned × Course :=
  follow m g (start question)

/-- The tasks that were begun, in order. -/
def Course.tasks (c : Course) : List Task :=
  c.notes.filterMap Note.begins?

end Reckoner.Solver
