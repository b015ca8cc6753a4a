import GameBundle.Package.Basic

/-!
# Native packages

A native package starts from two scripts of the runtime and a project file that lists
the scripts of the game. Scripts that are not in the bundle are left out.
-/

namespace GameBundle.Native

def scriptPath (source : PackageSource) (script : String) : String :=
  source.profile.includesDir ++ "/" ++ script

def entry (path : String) : String := "\"" ++ path ++ "\"\n"

def projectFile (template : String) (paths : List String) (showRate : Bool) : String :=
  Template.fill template [
    ("// KILN_INCLUDE_FILES", ", ".intercalate (paths.map entry)),
    ("/*KILN_SHOW_FPS*/", if showRate then "true" else "false")]

def missingScript (path : String) : Diagnostic :=
  .warning .missingIncludeFile "script not found; left out of project.json" (some path)

variable {σ : Type} [Storage σ]

def package (source : PackageSource) : Work σ (List Path) := do
  let main ← source.copyTemplate "Cocos2d/main.js" "main.js"
  let engine ← source.copyTemplate "Cocos2d/cocos2d-js-v3.10.js" "cocos2d-js-v3.10.js"
  let (present, missing) := (source.scripts.map (scriptPath source)).partition
    (← Work.look fun disk path => Storage.isFile (source.directory / path) disk)
  Work.report ⟨missing.map missingScript⟩
  let template ← source.template "Cocos2d/project.json"
  let file ← source.write "project.json"
    (projectFile template present source.profile.isPreview)
  return [main, engine, file]

end GameBundle.Native
