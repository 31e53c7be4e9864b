import Reckoner.Config.Origins
import Reckoner.Proofs.Text.Trimming
import Mathlib.Data.List.Basic
import Mathlib.Data.List.Induction

namespace Reckoner.Config

open Reckoner.Text

/-- Slashes and nothing else, at least one. -/
def OnlySlashes (origin : String) : Prop :=
  origin ≠ "" ∧ ∀ c ∈ origin.toList, c = '/'

theorem toList_withoutSlashes (origin : String) :
    (withoutSlashes origin).toList = dropEndWhile (· == '/') origin.toList := by
  rw [withoutSlashes, String.toList_ofList]

theorem withoutSlashes_ends (origin : String) : (withoutSlashes origin).toList.getLast? ≠ some '/' := by
  intro slash
  rw [toList_withoutSlashes] at slash
  have other := getLast?_dropEndWhile (· == '/') origin.toList '/' slash
  cases other

theorem withoutSlashes_eq_self {origin : String} (ends : origin.toList.getLast? ≠ some '/') :
    withoutSlashes origin = origin := by
  rw [withoutSlashes, dropEndWhile_eq_self, String.ofList_toList]
  intro c hc
  rw [beq_eq_false_iff_ne]
  rintro rfl
  exact ends hc

/-- Nothing is left of the empty origin, and of one of slashes only. -/
theorem withoutSlashes_eq_empty_iff {origin : String} :
    withoutSlashes origin = "" ↔ origin = "" ∨ OnlySlashes origin := by
  have gone : withoutSlashes origin = "" ↔ ∀ c ∈ origin.toList, c = '/' := by
    rw [← String.toList_inj, toList_withoutSlashes, String.toList_empty, dropEndWhile, List.reverse_eq_nil_iff,
      List.dropWhile_eq_nil_iff]
    simp only [List.mem_reverse, beq_iff_eq]
  rw [gone, OnlySlashes]
  by_cases empty : origin = "" <;> simp [empty]

/-- The given origins that are not empty, without the slashes at their ends. -/
def cleaned (given : List String) : List String :=
  (given.filter (· ≠ "")).map withoutSlashes

/-- What has been collected of the origins seen so far: each that there is among them once, in the order in
which they first come. -/
structure Collected (seen known : List String) : Prop where
  nodup : known.Nodup
  mem_iff : ∀ o, o ∈ known ↔ o ∈ cleaned seen
  ordered : known.Pairwise fun a b => (cleaned seen).idxOf a < (cleaned seen).idxOf b

theorem collected_nil : Collected [] [] := ⟨List.nodup_nil, by simp [cleaned], .nil⟩

theorem cleaned_concat (seen : List String) (origin : String) : cleaned (seen ++ [origin]) =
    if origin = "" then cleaned seen else cleaned seen ++ [withoutSlashes origin] := by
  by_cases empty : origin = "" <;> simp [cleaned, empty]

/-- Places do not change by what comes later. -/
theorem Collected.ordered_concat {seen known : List String} (h : Collected seen known) (o : String) :
    known.Pairwise fun a b => (cleaned seen ++ [o]).idxOf a < (cleaned seen ++ [o]).idxOf b := by
  refine h.ordered.imp_of_mem ?_
  intro a b ha hb before
  rw [List.idxOf_append_of_mem ((h.mem_iff a).mp ha), List.idxOf_append_of_mem ((h.mem_iff b).mp hb)]
  exact before

/-- Another origin is empty, known already, or taken in behind the others. -/
theorem Collected.add {seen known : List String} (h : Collected seen known) (origin : String) :
    Collected (seen ++ [origin]) (addOrigin known origin) := by
  have once := addOrigin_nodup h.nodup origin
  unfold addOrigin at once ⊢
  split
  · rename_i empty
    have same : cleaned (seen ++ [origin]) = cleaned seen := by
      rw [cleaned_concat, if_pos (String.isEmpty_iff.mp empty)]
    exact ⟨h.nodup, same ▸ h.mem_iff, same ▸ h.ordered⟩
  · rename_i some_char
    rw [if_neg some_char] at once
    have more : cleaned (seen ++ [origin]) = cleaned seen ++ [withoutSlashes origin] := by
      rw [cleaned_concat, if_neg fun empty => some_char (String.isEmpty_iff.mpr empty)]
    split
    · rename_i listed
      have there : withoutSlashes origin ∈ known := List.contains_iff_mem.mp listed
      refine ⟨h.nodup, fun o => ?_, more ▸ h.ordered_concat _⟩
      rw [more, List.mem_append, List.mem_singleton, ← h.mem_iff]
      constructor
      · exact Or.inl
      · rintro (ho | rfl)
        · exact ho
        · exact there
    · rename_i listed
      rw [if_neg listed] at once
      have fresh : withoutSlashes origin ∉ cleaned seen := by
        rw [← h.mem_iff, ← List.contains_iff_mem]
        exact listed
      refine ⟨once, fun o => ?_, ?_⟩
      · rw [more, List.mem_append, List.mem_append, h.mem_iff]
      · rw [more, List.pairwise_append]
        refine ⟨h.ordered_concat _, List.pairwise_singleton _ _, ?_⟩
        intro a ha b hb
        obtain rfl := List.mem_singleton.mp hb
        have earlier : a ∈ cleaned seen := (h.mem_iff a).mp ha
        rw [List.idxOf_append_of_mem earlier, List.idxOf_append_of_notMem fresh]
        exact Nat.lt_add_right _ (List.idxOf_lt_length_iff.mpr earlier)

theorem collected_foldl (given : List String) : Collected given (given.foldl addOrigin []) := by
  induction given using List.reverseRecOn with
  | nil => exact collected_nil
  | append_singleton seen origin ih =>
    rw [List.foldl_append]
    exact ih.add origin

theorem collected_resolveOrigins (origins : List String) (frontend : Option String) :
    Collected (origins ++ frontend.toList) (resolveOrigins origins frontend) :=
  collected_foldl _

theorem Collected.ends {seen known : List String} (h : Collected seen known) :
    ∀ o ∈ known, o.toList.getLast? ≠ some '/' := by
  intro o ho
  obtain ⟨origin, -, rfl⟩ := List.mem_map.mp ((h.mem_iff o).mp ho)
  exact withoutSlashes_ends origin

/-- An empty origin comes of slashes only. -/
theorem Collected.empty_mem_iff {seen known : List String} (h : Collected seen known) :
    "" ∈ known ↔ ∃ origin ∈ seen, OnlySlashes origin := by
  rw [h.mem_iff, cleaned, List.mem_map]
  simp only [List.mem_filter, decide_eq_true_eq, withoutSlashes_eq_empty_iff]
  constructor
  · rintro ⟨origin, ⟨given, some_char⟩, empty | slashes⟩
    · exact absurd empty some_char
    · exact ⟨origin, given, slashes⟩
  · rintro ⟨origin, given, slashes⟩
    exact ⟨origin, ⟨given, slashes.1⟩, Or.inr slashes⟩

/-- Different origins without slashes at their ends are all taken in, but for an empty one. -/
theorem foldl_addOrigin_of_ends {origins known : List String} (nodup : (known ++ origins).Nodup)
    (ends : ∀ o ∈ origins, o.toList.getLast? ≠ some '/') :
    origins.foldl addOrigin known = known ++ origins.filter (· ≠ "") := by
  induction origins generalizing known with
  | nil => simp
  | cons o origins ih =>
    obtain ⟨end_, ends⟩ := List.forall_mem_cons.mp ends
    have apart : o ∉ known := by
      intro listed
      exact (List.nodup_append.mp nodup).2.2 o listed o (List.mem_cons_self ..) rfl
    have unlisted : ¬ known.contains (withoutSlashes o) = true := by
      rw [withoutSlashes_eq_self end_, List.contains_iff_mem]
      exact apart
    rw [List.foldl_cons]
    by_cases empty : o = ""
    · have later : (known ++ origins).Nodup := nodup.sublist (by simp)
      rw [addOrigin, if_pos (String.isEmpty_iff.mpr empty), ih later ends]
      simp [empty]
    · have moved : ((known ++ [o]) ++ origins).Nodup := by simpa using nodup
      rw [addOrigin, if_neg fun h => empty (String.isEmpty_iff.mp h), if_neg unlisted,
        withoutSlashes_eq_self end_, ih moved ends]
      simp [empty]

/-- Resolving what has been resolved takes out an empty origin and changes nothing else. -/
theorem resolveOrigins_again (origins : List String) (frontend : Option String) :
    resolveOrigins (resolveOrigins origins frontend) none =
      (resolveOrigins origins frontend).filter (· ≠ "") := by
  have collected := collected_resolveOrigins origins frontend
  rw [resolveOrigins, Option.toList_none, List.append_nil]
  exact foldl_addOrigin_of_ends collected.nodup collected.ends

/-- Origins as they should be resolved: each of the given ones that is more than slashes, without the slashes at
its end, once, in the order in which they first come, and nothing else; so that they can be given again. -/
structure Resolved (given result : List String) : Prop where
  nodup : result.Nodup
  no_empty : "" ∉ result
  ends : ∀ o ∈ result, o.toList.getLast? ≠ some '/'
  mem_iff : ∀ o, o ∈ result ↔ ∃ origin ∈ given, origin ≠ "" ∧ ¬ OnlySlashes origin ∧ withoutSlashes origin = o
  ordered : result.Pairwise fun a b => (cleaned given).idxOf a < (cleaned given).idxOf b
  stable : resolveOrigins result none = result

theorem Collected.resolved {given result : List String} (h : Collected given result)
    (more : ∀ origin ∈ given, ¬ OnlySlashes origin)
    (again : resolveOrigins result none = result.filter (· ≠ "")) : Resolved given result := by
  have no_empty : "" ∉ result := by
    intro listed
    obtain ⟨origin, there, slashes⟩ := h.empty_mem_iff.mp listed
    exact more origin there slashes
  refine ⟨h.nodup, no_empty, h.ends, fun o => ?_, h.ordered, ?_⟩
  · rw [h.mem_iff, cleaned, List.mem_map]
    simp only [List.mem_filter, decide_eq_true_eq]
    constructor
    · rintro ⟨origin, ⟨there, some_char⟩, rfl⟩
      exact ⟨origin, there, some_char, more origin there, rfl⟩
    · rintro ⟨origin, there, some_char, -, rfl⟩
      exact ⟨origin, ⟨there, some_char⟩, rfl⟩
  · rw [again, List.filter_eq_self]
    intro o ho
    exact decide_eq_true fun empty => no_empty (empty ▸ ho)

/-- The origins that may call are the given ones without the slashes at their ends, each once and in order; one
of slashes only, and nothing else, makes an empty one of them. They are as they should be exactly if none of the
given ones consists of slashes only; otherwise resolving them again takes the empty one out. -/
theorem origins_resolved_iff (origins : List String) (frontend : Option String) :
    Collected (origins ++ frontend.toList) (resolveOrigins origins frontend) ∧
    (∀ o ∈ resolveOrigins origins frontend, o.toList.getLast? ≠ some '/') ∧
    ("" ∈ resolveOrigins origins frontend ↔ ∃ origin ∈ origins ++ frontend.toList, OnlySlashes origin) ∧
    resolveOrigins (resolveOrigins origins frontend) none =
      (resolveOrigins origins frontend).filter (· ≠ "") ∧
    (Resolved (origins ++ frontend.toList) (resolveOrigins origins frontend) ↔
      ∀ origin ∈ origins ++ frontend.toList, ¬ OnlySlashes origin) := by
  have collected := collected_resolveOrigins origins frontend
  have again := resolveOrigins_again origins frontend
  refine ⟨collected, collected.ends, collected.empty_mem_iff, again, ?_⟩
  constructor
  · intro resolved origin there slashes
    exact resolved.no_empty (collected.empty_mem_iff.mpr ⟨origin, there, slashes⟩)
  · intro more
    exact collected.resolved more again

/-- A single slash is not empty, and nothing is left of it. -/
theorem slash_leaves_empty_origin :
    resolveOrigins ["/"] none = [""] ∧ resolveOrigins [""] none = [] ∧
      ¬ Resolved ["/"] (resolveOrigins ["/"] none) := by
  have left : resolveOrigins ["/"] none = [""] := by decide +kernel
  refine ⟨left, by decide +kernel, ?_⟩
  intro resolved
  exact resolved.no_empty (left ▸ List.mem_singleton_self "")

end Reckoner.Config
