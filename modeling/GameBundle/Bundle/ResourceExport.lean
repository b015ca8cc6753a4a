import GameBundle.Bundle.Work
import GameBundle.Project.Basic

/-!
# Exported resources

The files of all resources are copied side by side into one directory, and each
resource is changed to name its copy. Files that differ in place but not in name get
numbered names. A missing file is reported, and its resource is changed all the same,
so that generated code and data agree.
-/

namespace GameBundle

namespace ResourceExport

def sourceName (source : Path) : String := source.fileName?.getD "resource"

def numbered (name : String) (n : Nat) : String :=
  Path.stem name ++ Decimal.text n ++
    match Path.extension? name with
    | some extension => "." ++ extension
    | none => ""

/-- The names tried for a file: its own, then those numbered from two on. -/
def candidate (name : String) : Nat → String
  | 0 => name
  | n + 1 => numbered name (n + 2)

/-- Names in use, with the sources they were given to. -/
abbrev Taken := Dictionary Path

/-- Whether a name is free or was given to this very source. -/
def isFor (taken : Taken) (source : Path) (name : String) : Bool :=
  match taken.find? name with
  | none => true
  | some other => other.same source

/-- The first candidate from the `n`th on that suits a source; of the last of `tries`
candidates this is not asked. -/
def firstFrom (taken : Taken) (source : Path) (n : Nat) : Nat → String
  | 0 => candidate (sourceName source) n
  | tries + 1 =>
    let name := candidate (sourceName source) n
    if isFor taken source name then name else firstFrom taken source (n + 1) tries

/-- The name under which a source is exported. Each candidate that does not suit uses up
one of the names taken, so the candidate after those suits. -/
def exportedName (taken : Taken) (source : Path) : String :=
  firstFrom taken source 0 taken.length

def takeName (taken : Taken) (source : Path) (name : String) : Taken :=
  match taken.find? name with
  | none => taken.insert name source
  | some _ => taken

end ResourceExport

/-- What became of resources: those after a fault are as they were. -/
structure ResourceExport where
  resources : List Resource
  fault? : Option ExportFault

namespace ResourceExport

def after (rest : ResourceExport) (resource : Resource) : ResourceExport :=
  { rest with resources := resource :: rest.resources }

variable {σ : Type} [Storage σ]

def exportFile (name : String) (source target : Path) : Work σ Unit := do
  if ← Work.isFile source then Work.copy source target
  else
    Work.warn .missingResourceFile
      ("resource " ++ Json.quoteName name ++ " points to a missing file") source.text

def exportFrom (home destination : Path) :
    Taken → List Resource → StateM (Session σ) ResourceExport
  | _, [] => return ⟨[], none⟩
  | taken, resource :: rest => do
    if resource.file = "" then
      return (← exportFrom home destination taken rest).after resource
    else
      let source := home / resource.file
      let name := exportedName taken source
      match ← (exportFile resource.name source (destination / name)).run with
      | .error fault => return ⟨resource :: rest, some fault⟩
      | .ok () =>
        let done ← exportFrom home destination (takeName taken source name) rest
        return done.after { resource with file := name }

end ResourceExport

namespace Project

variable {σ : Type} [Storage σ]

def exportedResources (project : Project) (destination : Path) :
    StateM (Session σ) ResourceExport :=
  ResourceExport.exportFrom project.directory destination [] project.resources.resources

def withExportedResources (project : Project) (destination : Path) : Work σ Project := do
  let done ← (project.exportedResources destination : StateM (Session σ) ResourceExport)
  match done.fault? with
  | some fault => throw fault
  | none => return { project with resources := ⟨done.resources⟩ }

end Project

end GameBundle
