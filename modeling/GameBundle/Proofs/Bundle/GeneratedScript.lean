import GameBundle.Bundle.GeneratedScript
import GameBundle.Proofs.Path.Components

/-!
# Names of generated scripts

Whatever extensions and behaviors are called, the files of generated and external
scripts have names of their own inside the directory of code.
-/

namespace GameBundle

theorem Decimal.not_mem_digits {mark : Char} (foreign : isDigit mark = false) (n : Nat) :
    mark ∉ digits n := by
  intro member
  rw [isDigit_of_mem_digits member] at foreign
  cases foreign

theorem Decimal.slash_not_mem_digits (n : Nat) : '/' ∉ digits n := not_mem_digits (by decide) n

namespace Script

theorem isPlain_of_isDigit {c : Char} (digit : Decimal.isDigit c = true) : isPlain c = true := by
  simp only [Decimal.isDigit, Bool.and_eq_true, decide_eq_true_eq] at digit
  simp only [isPlain, Char.isAlphanum, Char.isDigit, Bool.or_eq_true, Bool.and_eq_true,
    decide_eq_true_eq]
  exact .inr digit

/-- Mangled names hold ASCII letters, digits and underscores only. -/
theorem not_mem_mangle {mark : Char} (foreign : isPlain mark = false) (other : mark ≠ '_')
    (name : String) : mark ∉ (mangle name).toList := by
  unfold mangle mangleChars
  rw [String.toList_ofList, List.mem_flatMap]
  rintro ⟨c, -, member⟩
  unfold mangleChar at member
  split at member
  · rename_i plain
    rw [List.mem_singleton.mp member, plain] at foreign
    cases foreign
  · rcases List.mem_cons.mp member with same | digit
    · exact other same
    · rw [isPlain_of_isDigit (Decimal.isDigit_of_mem_digits digit)] at foreign
      cases foreign

theorem slash_not_mem_mangle (name : String) : '/' ∉ (mangle name).toList :=
  not_mem_mangle (by decide) (by decide) name

end Script

/-- A text without slashes becomes the name of a script. -/
theorem Path.IsName.script {stem : String} (clean : '/' ∉ stem.toList) :
    Path.IsName (stem ++ ".js") := by
  have ending : ".js".toList = ['.', 'j', 's'] := by decide
  refine .of_length ?_ ?_
  · rw [String.toList_append, ending, List.mem_append, not_or]
    exact ⟨clean, by decide⟩
  · rw [String.toList_append, ending, List.length_append, List.length_cons]
    simp

theorem Path.IsName.numbered {front : String} (clean : '/' ∉ front.toList) (n : Nat) :
    Path.IsName (front ++ Decimal.text n ++ ".js") := by
  refine .script ?_
  rw [String.toList_append, List.mem_append, not_or, Decimal.text, String.toList_ofList]
  exact ⟨clean, Decimal.slash_not_mem_digits n⟩

namespace GeneratedScript

theorem isName_behaviorFile (extension behavior : String) :
    Path.IsName (behaviorFile extension behavior) := by
  refine .script ?_
  simp only [String.toList_append, List.mem_append, not_or]
  exact ⟨⟨⟨by decide, Script.slash_not_mem_mangle extension⟩, by decide⟩,
    Script.slash_not_mem_mangle behavior⟩

theorem isName_layoutFile (index : Nat) : Path.IsName (layoutFile index) :=
  .numbered (by decide) index

theorem exists_isName_path {events : EventsCompiler} {project : Project} {directory : Path}
    {forRuntime : Bool} {script : GeneratedScript}
    (member : script ∈ ofProject events project directory forRuntime) :
    ∃ file, Path.IsName file ∧ script.path = directory / file := by
  rcases List.mem_append.mp member with declared | laid
  · obtain ⟨extension, -, inside⟩ := List.mem_flatMap.mp declared
    obtain ⟨behavior, -, same⟩ := List.mem_map.mp inside
    refine ⟨behaviorFile extension.name behavior.name, isName_behaviorFile _ _, ?_⟩
    rw [← same]
    rfl
  · obtain ⟨index, inside, same⟩ := List.mem_mapIdx.mp laid
    refine ⟨layoutFile index, isName_layoutFile index, ?_⟩
    rw [← same]
    rfl

end GeneratedScript

namespace ExternalScript

theorem isName_file (index : Nat) : Path.IsName (file index) := .numbered (by decide) index

theorem exists_isName_target {project : Project} {directory : Path} {script : ExternalScript}
    (member : script ∈ ofProject project directory) :
    ∃ name, Path.IsName name ∧ script.target = directory / name := by
  obtain ⟨found, inside, same⟩ := List.mem_filterMap.mp member
  obtain ⟨index, _, made⟩ := List.mem_mapIdx.mp inside
  rw [id, ← made] at same
  unfold ofSource? at same
  split at same
  · refine ⟨file index, isName_file index, ?_⟩
    rw [← Option.some.inj same]
  · cases same

theorem exists_source_of_mem {project : Project} {directory : Path} {script : ExternalScript}
    (member : script ∈ ofProject project directory) :
    ∃ source ∈ project.sourceFiles, source.language = "Javascript" ∧
      script.source = project.directory / source.fileName := by
  obtain ⟨found, inside, same⟩ := List.mem_filterMap.mp member
  obtain ⟨index, bound, made⟩ := List.mem_mapIdx.mp inside
  rw [id, ← made] at same
  unfold ofSource? at same
  split at same
  · rename_i javascript
    refine ⟨_, List.getElem_mem bound, javascript, ?_⟩
    rw [← Option.some.inj same]
  · cases same

end ExternalScript

end GameBundle
