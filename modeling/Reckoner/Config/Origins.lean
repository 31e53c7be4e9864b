import Reckoner.Text.Blank

namespace Reckoner.Config

open Reckoner.Text

def withoutSlashes (s : String) : String :=
  String.ofList (dropEndWhile (· == '/') s.toList)

/-- Adds an origin that is not empty and not there yet. -/
def addOrigin (known : List String) (origin : String) : List String :=
  if origin.isEmpty then known
  else if known.contains (withoutSlashes origin) then known
  else known ++ [withoutSlashes origin]

/-- The configured origins in order, then that of the web page if it has one. -/
def resolveOrigins (origins : List String) (frontend : Option String) : List String :=
  (origins ++ frontend.toList).foldl addOrigin []

theorem addOrigin_nodup {known : List String} (h : known.Nodup) (origin : String) :
    (addOrigin known origin).Nodup := by
  unfold addOrigin
  split
  · exact h
  · split
    · exact h
    · rename_i hc
      rw [List.nodup_append]
      refine ⟨h, by simp, fun a ha b hb => ?_⟩
      simp only [List.mem_singleton] at hb
      subst hb
      intro e
      subst e
      exact hc (by simpa using ha)

end Reckoner.Config
