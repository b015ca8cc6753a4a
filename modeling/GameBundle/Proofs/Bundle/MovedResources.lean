import GameBundle.Proofs.Bundle.Containment
import GameBundle.Proofs.Bundle.Tandem
import GameBundle.Proofs.Storage.Twinned

/-!
# Resources of a project that is moved

The sources of resources are compared as whole paths, but two files of one directory are
the same file wherever the directory lies. So the same names are in use, each for the same
file, and resources are renamed alike. What is left of the directory is its own name, under
which a resource is exported whose file is the directory.
-/

namespace GameBundle

open Memory (Twinned Spares Way Admits locate)
open Session (Alongside)
open Work (Tandem Meets)

namespace Path

variable {path other : Path} {more file : String}

theorem components_join_relative (base : path.text ≠ "")
    (relative : (Path.mk more).isAbsolute = false) :
    (path / more).components =
      path.components ++ (Path.mk more).solidParts.map Component.ofPart := by
  have head : more.toList.head? ≠ some '/' := by simpa [isAbsolute] using relative
  have inhabited : path.text.toList ≠ [] := by simpa using base
  have lead : (path / more).lead = path.lead := by
    change (split (String.ofList _).toList).1 = _
    rw [String.toList_ofList, split_join inhabited head]
    rfl
  have solid : (path / more).solidParts = path.solidParts ++ (Path.mk more).solidParts := by
    change List.filter _ (splitParts (String.ofList _).toList) = _
    rw [String.toList_ofList, solidParts_join head, List.filter_append]
    rfl
  rw [components_eq, lead, solid, List.map_append, components_eq path, List.append_assoc]

theorem same_join (base : path.text ≠ "") (otherBase : other.text ≠ "")
    (relative : (Path.mk more).isAbsolute = false) (fileRelative : (Path.mk file).isAbsolute = false) :
    (path / more).same (path / file) = (other / more).same (other / file) := by
  unfold same
  rw [components_join_relative base relative, components_join_relative base fileRelative,
    components_join_relative otherBase relative, components_join_relative otherBase fileRelative,
    Bool.eq_iff_iff, beq_iff_eq, beq_iff_eq, List.append_right_inj, List.append_right_inj]

/-- A file keeps its name wherever its directory lies, if it has a name or the directories have
the same one. -/
theorem fileName?_join_congr (base : path.text ≠ "") (otherBase : other.text ≠ "")
    (relative : (Path.mk more).isAbsolute = false)
    (named : (Path.mk more).fileName? ≠ none ∨ path.fileName? = other.fileName?) :
    (path / more).fileName? = (other / more).fileName? := by
  unfold fileName? at named ⊢
  rw [components_join_relative base relative, components_join_relative otherBase relative]
  rcases parts : (Path.mk more).solidParts.map Component.ofPart with _ | ⟨part, rest⟩
  · rw [List.append_nil, List.append_nil]
    refine named.resolve_left (not_not.mpr ?_)
    rw [components_eq, parts]
    cases (Path.mk more).lead <;> rfl
  · rw [List.getLast?_append_cons, List.getLast?_append_cons]

end Path

namespace ResourceExport

def placed (directory : Path) (files : Dictionary String) : Taken :=
  files.map fun entry => (entry.1, directory / entry.2)

theorem find?_placed (directory : Path) (files : Dictionary String) (name : String) :
    (placed directory files).find? name = (files.find? name).map (directory / ·) := by
  induction files with
  | nil => rfl
  | cons entry rest ih =>
    rw [placed, List.map_cons, Dictionary.find?, Dictionary.find?]
    split
    · rfl
    · exact ih

theorem insert_placed (directory : Path) (files : Dictionary String) (name file : String) :
    (placed directory files).insert name (directory / file) =
      placed directory (files.insert name file) := by
  induction files with
  | nil => rfl
  | cons entry rest ih =>
    rw [placed, List.map_cons, Dictionary.insert, Dictionary.insert]
    split
    · rfl
    · split
      · rfl
      · exact congrArg _ ih

def entered (files : Dictionary String) (name file : String) : Dictionary String :=
  match files.find? name with
  | none => files.insert name file
  | some _ => files

theorem takeName_placed (directory : Path) (files : Dictionary String) (name file : String) :
    takeName (placed directory files) (directory / file) name =
      placed directory (entered files name file) := by
  unfold takeName entered
  rw [find?_placed]
  cases files.find? name with
  | none => exact insert_placed directory files name file
  | some _ => rfl

def Relative (files : Dictionary String) : Prop :=
  ∀ name file, files.find? name = some file → (Path.mk file).isAbsolute = false

theorem Relative.entered {files : Dictionary String} (relative : Relative files) {file : String}
    (inside : (Path.mk file).isAbsolute = false) (name : String) :
    Relative (entered files name file) := by
  intro sought held found
  unfold ResourceExport.entered at found
  split at found
  · by_cases same : sought = name
    · rw [same, Dictionary.find?_insert_self, Option.some.injEq] at found
      rwa [← found]
    · rw [Dictionary.find?_insert_of_ne _ _ same] at found
      exact relative sought held found
  · exact relative sought held found

theorem firstFrom_congr {taken used : Taken} {source twin : Path}
    (label : sourceName source = sourceName twin)
    (suits : ∀ name, isFor taken source name = isFor used twin name) (n tries : Nat) :
    firstFrom taken source n tries = firstFrom used twin n tries := by
  induction tries generalizing n with
  | zero => rw [firstFrom, firstFrom, label]
  | succ tries ih => rw [firstFrom, firstFrom, label, suits, ih]

variable {home twin : Path} (base : home.text ≠ "") (twinBase : twin.text ≠ "")

include base twinBase

/-- A file is renamed alike in either directory. -/
theorem exportedName_placed {files : Dictionary String} (relative : Relative files) {file : String}
    (inside : (Path.mk file).isAbsolute = false)
    (named : (Path.mk file).fileName? ≠ none ∨ home.fileName? = twin.fileName?) :
    exportedName (placed home files) (home / file) = exportedName (placed twin files) (twin / file) := by
  have label : sourceName (home / file) = sourceName (twin / file) := by
    unfold sourceName
    rw [Path.fileName?_join_congr base twinBase inside named]
  have suits (name : String) :
      isFor (placed home files) (home / file) name = isFor (placed twin files) (twin / file) name := by
    unfold isFor
    rw [find?_placed, find?_placed]
    cases held : files.find? name with
    | none => rfl
    | some other => exact Path.same_join base twinBase (relative name other held) inside
  have tries : (placed home files).length = (placed twin files).length := by
    rw [placed, placed, List.length_map, List.length_map]
  rw [exportedName, exportedName, tries, firstFrom_congr label suits]

-- A resource whose file is its directory gets the name of that.
example : exportedName [] (Path.mk "/one" / ".") = "one" ∧
    exportedName [] (Path.mk "/two" / ".") = "two" := by
  decide +kernel

omit base twinBase

variable {root one other : Place} {free above : Place → Prop}

theorem tandem_exportFile (first : Spares free above one) (second : Spares free above other)
    {source copy target : Path} {rest : Place} (here : locate root source = one ++ rest)
    (there : locate root copy = other ++ rest) (admits : Admits free above (locate root target))
    (label : String) :
    Tandem (Twinned root one other) (fun _ _ => Twinned root one other)
      (exportFile label source target) (exportFile label copy target) := by
  refine .isFile (fun disk twinned => twinned.isFile_eq here there) (.change ?_ ?_) ?_
  · exact fun disk twinned => twinned.copy_eq here there admits.way first second
  · exact fun disk twinned =>
      twinned.of_within (Memory.within_copy admits source disk) first second
  · exact .warnPlaced (.inl rfl) _ _ _

include base twinBase

theorem alongside_exportFrom (first : Spares free above (locate root home))
    (second : Spares free above (locate root twin)) {destination : Path}
    (admits : ∀ name, Path.IsName name → Admits free above (locate root (destination / name)))
    (resources : List Resource)
    (inner : ∀ resource ∈ resources, resource.file ≠ "" → Path.isInner resource.file = true)
    (named : ∀ resource ∈ resources, resource.file ≠ "" →
      (Path.mk resource.file).fileName? ≠ none ∨ home.fileName? = twin.fileName?)
    {files : Dictionary String} (relative : Relative files) {session mate : Session Memory}
    (alongside : Alongside session mate)
    (twinned : Twinned root (locate root home) (locate root twin) session.disk) :
    let done := (exportFrom home destination (placed home files) resources).run session
    let twinDone := (exportFrom twin destination (placed twin files) resources).run mate
    done.1 = twinDone.1 ∧ Alongside done.2 twinDone.2 ∧
      (done.1.fault? = none → Twinned root (locate root home) (locate root twin) done.2.disk) := by
  induction resources generalizing files session mate with
  | nil => exact ⟨rfl, alongside, fun _ => twinned⟩
  | cons resource resources ih =>
    rw [List.forall_mem_cons] at inner named
    dsimp only
    rw [run_exportFrom_cons, run_exportFrom_cons]
    by_cases blank : resource.file = ""
    · simp only [blank, if_true]
      obtain ⟨same, later, kept⟩ := ih inner.2 named.2 relative alongside twinned
      exact ⟨congrArg (ResourceExport.after · resource) same, later, kept⟩
    · simp only [blank, if_false]
      have inside := Path.relative_of_isInner (inner.1 blank)
      have name := exportedName_placed base twinBase relative inside (named.1 blank)
      have here : locate root (home / resource.file) = _ := Memory.locate_join_inner (inner.1 blank)
      have there : locate root (twin / resource.file) = _ := Memory.locate_join_inner (inner.1 blank)
      have meets := tandem_exportFile first second here there
        (admits _ (isName_exportedName (placed home files) (home / resource.file)))
        resource.name session mate alongside twinned
      rw [← name]
      generalize (exportFile resource.name (home / resource.file) _).exec session = ran at meets
      generalize (exportFile resource.name (twin / resource.file) _).exec mate = twinRan at meets
      cases meets with
      | error fault later => exact ⟨rfl, later, nofun⟩
      | ok later kept =>
        simp only [takeName_placed]
        obtain ⟨same, last, held⟩ := ih inner.2 named.2 (relative.entered inside _) later kept
        exact ⟨congrArg (ResourceExport.after · _) same, last, held⟩

end ResourceExport

end GameBundle
