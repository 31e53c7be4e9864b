import Reckoner.Proofs.Web.Breakdowns

namespace Reckoner.Web

open Reckoner.Json

namespace Response

/-- All values that a header has. -/
def values (r : Response) (name : String) : List String :=
  (r.headers.filter (·.1 == name)).map (·.2)

/-- If the body tells an error, then the id with it. -/
def Marked (r : Response) (id : String) : Prop :=
  ∀ v, r.error? = some v → ∃ members, v = .object members ∧ Members.get? members "traceId" = some (.text id)

/-- One header tells the id, and so does the error in the body if there is one. -/
structure Traced (r : Response) (id : String) : Prop where
  header : r.values "x-request-id" = [id]
  marked : r.Marked id

variable {r : Response} {id : String}

theorem values_withHeader (r : Response) (name value : String) :
    (r.withHeader name value).values name = [value] := by
  have gone : (r.headers.filter (·.1 != name)).filter (·.1 == name) = [] := by
    rw [List.filter_filter, List.filter_eq_nil_iff]
    intro h _
    simp
  unfold values withHeader
  rw [List.filter_append, gone]
  simp

theorem Marked.congr {r' : Response} (h : r.Marked id) (same : r'.body = r.body) : r'.Marked id := by
  intro v told
  have told' : r.error? = some v := by
    rw [← told, error?, error?, same]
  exact h v told'

theorem Marked.traced (h : r.Marked id) : (r.withHeader "x-request-id" id).Traced id :=
  ⟨values_withHeader r _ id, h.congr rfl⟩

end Response

namespace Service

variable {w : Framework} {s : Service} {time : String} {context : Context} {r : Request} {id fresh : String}
  {response : Response}

end Service

end Reckoner.Web
