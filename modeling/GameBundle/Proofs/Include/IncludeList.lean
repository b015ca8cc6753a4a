import GameBundle.Include.IncludeList
import Mathlib.Data.List.Basic

/-!
# Order of include lists

An include list that is grown path by path holds the first occurrences of all paths in
order. Growing is by lists, so a list built in several stages is that of the stages
put one behind the other. Removing marked paths filters the list and leaves no trace
of them in the set of paths seen.
-/

namespace GameBundle.IncludeList

variable {includes : IncludeList}

/-- Each path is listed once, and the paths seen are those listed. -/
structure WellFormed (includes : IncludeList) : Prop where
  nodup : includes.paths.Nodup
  contains_iff : ∀ path, includes.contains path = true ↔ path ∈ includes.paths

theorem contains_insert (includes : IncludeList) (path sought : String) :
    (includes.insert path).contains sought = (path == sought || includes.contains sought) := by
  unfold insert
  split
  · rename_i held
    by_cases same : path = sought
    · subst same
      simp [held]
    · simp [same]
  · exact Std.HashSet.contains_insert

theorem insert_of_contains {path : String} (held : includes.contains path = true) :
    includes.insert path = includes := if_pos held

theorem wellFormed_empty : empty.WellFormed where
  nodup := List.nodup_nil
  contains_iff path := by simp [empty, contains]

theorem paths_insert (whole : includes.WellFormed) (path : String) :
    (includes.insert path).paths =
      if path ∈ includes.paths then includes.paths else includes.paths ++ [path] := by
  by_cases held : includes.contains path = true
  · rw [insert_of_contains held, if_pos ((whole.contains_iff path).mp held)]
  · rw [if_neg (mt (whole.contains_iff path).mpr held), insert, if_neg held]

theorem WellFormed.insert (whole : includes.WellFormed) (path : String) :
    (includes.insert path).WellFormed where
  nodup := by
    rw [paths_insert whole]
    split
    · exact whole.nodup
    · rename_i absent
      have alone : [path].Nodup := by simp
      refine List.nodup_append.mpr ⟨whole.nodup, alone, ?_⟩
      rintro held member other single rfl
      exact absent (List.mem_singleton.mp single ▸ member)
  contains_iff sought := by
    rw [contains_insert, paths_insert whole, Bool.or_eq_true, beq_iff_eq, whole.contains_iff]
    split
    · rename_i held
      constructor
      · rintro (rfl | member)
        · exact held
        · exact member
      · exact .inr
    · rw [List.mem_append, List.mem_singleton, or_comm, eq_comm]

theorem WellFormed.extend (whole : includes.WellFormed) (paths : List String) :
    (includes.extend paths).WellFormed := by
  induction paths generalizing includes with
  | nil => exact whole
  | cons path paths ih => exact ih (whole.insert path)

theorem wellFormed_ofList (paths : List String) : (ofList paths).WellFormed :=
  wellFormed_empty.extend paths

theorem extend_cons (includes : IncludeList) (path : String) (paths : List String) :
    includes.extend (path :: paths) = (includes.insert path).extend paths := rfl

theorem extend_append (includes : IncludeList) (front back : List String) :
    includes.extend (front ++ back) = (includes.extend front).extend back :=
  List.foldl_append

theorem insert_extend (includes : IncludeList) (paths : List String) (path : String) :
    (includes.extend paths).insert path = includes.extend (paths ++ [path]) := by
  rw [extend_append]
  rfl

theorem ofList_extend (front back : List String) :
    (ofList front).extend back = ofList (front ++ back) :=
  (extend_append empty front back).symm

theorem extend_flatMap {α : Type} (paths : α → List String) (items : List α)
    (includes : IncludeList) :
    includes.extend (items.flatMap paths) =
      items.foldl (fun includes item => includes.extend (paths item)) includes := by
  induction items generalizing includes with
  | nil => rfl
  | cons item items ih => rw [List.flatMap_cons, extend_append, ih, List.foldl_cons]

/-- Paths that are there already can be left out of what is added. -/
theorem extend_filter_ne {path : String} (held : includes.contains path = true)
    (paths : List String) :
    includes.extend (paths.filter fun other => !(other == path)) = includes.extend paths := by
  induction paths generalizing includes with
  | nil => rfl
  | cons other paths ih =>
    by_cases same : other = path
    · subst same
      rw [extend_cons, insert_of_contains held, List.filter_cons_of_neg (by simp)]
      exact ih held
    · have later : (includes.insert other).contains path = true := by
        rw [contains_insert, held, Bool.or_true]
      rw [List.filter_cons_of_pos (by simpa using same)]
      exact ih later

/-- Repetitions within what is added make no difference. -/
theorem extend_eraseDups (includes : IncludeList) (paths : List String) :
    includes.extend paths.eraseDups = includes.extend paths := by
  induction hn : paths.length using Nat.strongRecOn generalizing includes paths with
  | ind n ih =>
    cases paths with
    | nil => rfl
    | cons path paths =>
      have held : (includes.insert path).contains path = true := by simp [contains_insert]
      have shorter : (paths.filter fun other => !(other == path)).length < n := by
        have := List.length_filter_le (fun other => !(other == path)) paths
        rw [List.length_cons] at hn
        omega
      rw [List.eraseDups_cons, extend_cons, extend_cons, ih _ shorter _ _ rfl,
        extend_filter_ne held]

theorem eraseDups_of_nodup {paths : List String} (nodup : paths.Nodup) :
    paths.eraseDups = paths := by
  induction paths with
  | nil => rfl
  | cons path paths ih =>
    obtain ⟨absent, rest⟩ := List.nodup_cons.mp nodup
    have kept : paths.filter (fun other => !(other == path)) = paths := by
      rw [List.filter_eq_self]
      rintro other member
      have apart : other ≠ path := fun same => absent (same ▸ member)
      simpa using apart
    rw [List.eraseDups_cons, kept, ih rest]

theorem paths_extend (whole : includes.WellFormed) (paths : List String) :
    (includes.extend paths).paths = (includes.paths ++ paths).eraseDups := by
  induction paths generalizing includes with
  | nil => rw [List.append_nil, eraseDups_of_nodup whole.nodup]; rfl
  | cons path paths ih =>
    rw [extend_cons, ih (whole.insert path), paths_insert whole]
    split
    · rename_i held
      rw [List.eraseDups_append, List.eraseDups_append, List.cons_removeAll]
      simp [held]
    · rw [List.append_assoc, List.singleton_append]

/-- A list of includes holds the first occurrences of paths. -/
theorem paths_ofList (paths : List String) : (ofList paths).paths = paths.eraseDups :=
  paths_extend wellFormed_empty paths

private theorem contains_foldl_erase (paths : List String) (seen : Std.HashSet String)
    (sought : String) :
    (paths.foldl (fun seen path => seen.erase path) seen).contains sought = true ↔
      sought ∉ paths ∧ seen.contains sought = true := by
  induction paths generalizing seen with
  | nil => simp
  | cons path paths ih =>
    rw [List.foldl_cons, ih, Std.HashSet.contains_erase, List.mem_cons, not_or]
    simp only [Bool.and_eq_true, Bool.not_eq_true', beq_eq_false_iff_ne]
    tauto

theorem WellFormed.withoutMarked (whole : includes.WellFormed) (markers : List String) :
    (includes.withoutMarked markers).WellFormed where
  nodup := whole.nodup.filter _
  contains_iff path := by
    have held := whole.contains_iff path
    refine (contains_foldl_erase _ _ path).trans ?_
    change _ ∧ includes.contains path = true ↔ _
    rw [held]
    simp only [marked, IncludeList.withoutMarked, List.mem_filter, not_and, Bool.not_eq_true,
      Bool.not_eq_true']
    tauto

end GameBundle.IncludeList
