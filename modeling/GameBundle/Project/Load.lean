import GameBundle.Bundle.ExportFault
import GameBundle.Project.Basic

/-!
# Reading projects
-/

namespace GameBundle

namespace Project

/-- Reads a project. Its project file is the one read, unless the document names another. -/
def load {σ : Type} [Storage σ] (path : Path) (disk : σ) : Except ExportFault Project :=
  match Storage.readText path disk with
  | .error cause => .error (.read path cause)
  | .ok text =>
    match parse text with
    | .error cause => .error (.malformed path cause)
    | .ok project =>
      .ok (if project.projectFile = "" then { project with projectFile := path.text } else project)

end Project

end GameBundle
