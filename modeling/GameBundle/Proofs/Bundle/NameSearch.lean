import GameBundle.Proofs.Bundle.ResourceCopies

/-!
# The search for a name

A source is tried under its file name and then under numbered ones, until a name is free or
belongs to this very source. The search itself knows no bound. It ends all the same, because no
name comes up twice, so that every name passed over uses up another one of those taken.
-/

namespace GameBundle.ResourceExport

/-- The search from a candidate on, with the number that the next one gets: the names that it
passes over, the name that it ends with, and the names taken in the end. -/
inductive Search (taken : Taken) (source : Path) :
    String → Nat → List String → String → Taken → Prop
  | free {name : String} {number : Nat} (free : taken.find? name = none) :
      Search taken source name number [] name (taken.insert name source)
  | own {name : String} {number : Nat} {holder : Path} (held : taken.find? name = some holder)
      (same : holder.same source = true) : Search taken source name number [] name taken
  | pass {name : String} {number : Nat} {holder : Path} {passed : List String} {found : String}
      {after : Taken} (held : taken.find? name = some holder) (other : holder.same source = false)
      (rest : Search taken source (numbered (sourceName source) number) (number + 1) passed found
        after) : Search taken source name number (name :: passed) found after

variable {taken : Taken} {source : Path} {name : String}

theorem isFor_iff : isFor taken source name = true ↔
    taken.find? name = none ∨ ∃ holder, taken.find? name = some holder ∧
      holder.same source = true := by
  unfold isFor
  cases taken.find? name <;> simp

theorem isFor_eq_false_iff : isFor taken source name = false ↔
    ∃ holder, taken.find? name = some holder ∧ holder.same source = false := by
  unfold isFor
  cases taken.find? name <;> simp

namespace Search

theorem of_isFor (suits : isFor taken source name = true) (number : Nat) :
    Search taken source name number [] name (takeName taken source name) := by
  unfold takeName
  rcases isFor_iff.mp suits with free | ⟨holder, held, same⟩
  · rw [free]
    exact .free free
  · rw [held]
    exact .own held same

theorem of_first {start count : Nat}
    (unsuited : ∀ k, start ≤ k → k < start + count →
      isFor taken source (candidate (sourceName source) k) = false)
    (here : name = candidate (sourceName source) (start + count))
    (suits : isFor taken source name = true) :
    Search taken source (candidate (sourceName source) start) (start + 2)
      ((List.range' start count).map (candidate (sourceName source))) name
      (takeName taken source name) := by
  induction count generalizing start with
  | zero =>
    rw [← Nat.add_zero start, ← here]
    exact of_isFor suits (start + 2)
  | succ count ih =>
    obtain ⟨holder, held, other⟩ :=
      isFor_eq_false_iff.mp (unsuited start (Nat.le_refl start) (by omega))
    have shifted : start + (count + 1) = start + 1 + count := by omega
    rw [shifted] at unsuited here
    have rest := ih (fun k low high => unsuited k (by omega) high) here
    rw [show candidate (sourceName source) (start + 1) =
      numbered (sourceName source) (start + 2) from rfl] at rest
    rw [List.range'_succ, List.map_cons]
    exact .pass held other rest

/-- From one candidate there is only one way to search. -/
theorem unique {number : Nat} {passed others : List String} {found last : String}
    {after final : Taken} (one : Search taken source name number passed found after)
    (two : Search taken source name number others last final) :
    others = passed ∧ last = found ∧ final = after := by
  induction one generalizing others last final with
  | free free =>
    cases two with
    | free => exact ⟨rfl, rfl, rfl⟩
    | own held => simp [free] at held
    | pass held => simp [free] at held
  | own held same =>
    cases two with
    | free free => simp [held] at free
    | own => exact ⟨rfl, rfl, rfl⟩
    | pass again other =>
      obtain rfl := Option.some.inj (held.symm.trans again)
      rw [same] at other
      cases other
  | pass held other rest ih =>
    cases two with
    | free free => simp [held] at free
    | own again same =>
      obtain rfl := Option.some.inj (held.symm.trans again)
      rw [same] at other
      cases other
    | pass again differs later =>
      obtain ⟨rfl, ended, entered⟩ := ih later
      exact ⟨rfl, ended, entered⟩

end Search

/-- No name is tried twice. The search ends, and in one way only. It passes over different names,
all of them taken by other sources, and so looks up at most one name more than there are names
taken. Its name was free or belonged to this source, and no other name changes hands. -/
theorem search_ends (taken : Taken) (source : Path) :
    let found := exportedName taken source
    let after := takeName taken source found
    Function.Injective (candidate (sourceName source)) ∧
    ∃ passed,
      Search taken source (sourceName source) 2 passed found after ∧
      (∀ others last final, Search taken source (sourceName source) 2 others last final →
        others = passed ∧ last = found ∧ final = after) ∧
      passed ++ [found] = (List.range (passed.length + 1)).map (candidate (sourceName source)) ∧
      passed.Nodup ∧
      (∀ name ∈ passed, ∃ holder, taken.find? name = some holder ∧ holder.same source = false) ∧
      passed.length + 1 ≤ taken.length + 1 ∧
      (taken.find? found = none ∨ ∃ holder, taken.find? found = some holder ∧
        holder.same source = true) ∧
      ∀ name, after.find? name =
        if name = found ∧ taken.find? found = none then some source else taken.find? name := by
  intro found after
  have distinct := candidate_injective (sourceName source)
  have suits : isFor taken source found = true := isFor_exportedName taken source
  obtain ⟨count, first, bound, earlier, -⟩ := firstFrom_spec taken source 0 taken.length
  rw [Nat.zero_add] at bound
  have here : found = candidate (sourceName source) (0 + count) := by
    rw [Nat.zero_add]
    exact first
  have search : Search taken source (sourceName source) 2
      ((List.range count).map (candidate (sourceName source))) found after := by
    rw [List.range_eq_range']
    exact .of_first (fun k low before => earlier k low (by omega)) here suits
  refine ⟨distinct, _, search, fun _ _ _ other => search.unique other, ?_,
    List.nodup_range.map distinct, ?_, ?_, isFor_iff.mp suits,
    Dictionary.find?_takeName taken source found⟩
  · rw [List.length_map, List.length_range, List.range_succ, List.map_append]
    rw [show found = candidate (sourceName source) count from first]
    rfl
  · intro name member
    obtain ⟨k, inside, rfl⟩ := List.mem_map.mp member
    exact isFor_eq_false_iff.mp (earlier k (Nat.zero_le k) (List.mem_range.mp inside))
  · rw [List.length_map, List.length_range]
    exact Nat.succ_le_succ bound

end GameBundle.ResourceExport
