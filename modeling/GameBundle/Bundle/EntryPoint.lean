import GameBundle.Bundle.Work
import GameBundle.Template

/-!
# Entry points

The entry point is a page made from a template. It loads the scripts in order; a
script that is not in the bundle is left out and reported.
-/

namespace GameBundle

namespace EntryPoint

def scriptTag (script : String) : String :=
  "\t<script src=\"" ++ script ++ "\" crossorigin=\"anonymous\"></script>\n"

/-- What is passed to a game when nothing else is. -/
def noSpec : String := "\x7b\x7d"

def page (template : String) (scripts : List String) (spec : String) : String :=
  Template.fill template [
    ("/* KILN_CUSTOM_STYLE */", ""),
    ("<!-- KILN_CUSTOM_HTML -->", ""),
    ("<!-- KILN_CODE_FILES -->", String.join (scripts.map scriptTag)),
    (noSpec ++ "/*KILN_ADDITIONAL_SPEC*/", if spec = "" then noSpec else spec)]

variable {σ : Type} [Storage σ]

/-- Whether a page can load a script; those with an absolute path are not looked for. -/
def isLoadable (directory : Path) (disk : σ) (script : String) : Bool :=
  (Path.mk script).isAbsolute || Storage.isFile (directory / script) disk

def missingScript (directory : Path) (script : String) : Diagnostic :=
  .warning .missingIncludeFile "script not found in export directory; tag skipped"
    (some (directory / script).text)

def complete (template : String) (directory : Path) (scripts : List String) (spec : String) :
    Work σ String := do
  let (loaded, missing) := scripts.partition (← Work.look (isLoadable directory))
  Work.report ⟨missing.map (missingScript directory)⟩
  return page template loaded spec

def render (profile : TargetProfile) (runtime directory : Path) (scripts : List String) :
    Work σ Path := do
  let template ← Work.template (runtime / profile.indexTemplate)
  let webRoot := profile.webRootIn directory
  let page ← complete template webRoot (if profile.indexIncludes then scripts else [])
    (if profile.isPreview then "kiln.runtimeGameOptions" else "")
  let path := webRoot / "index.html"
  Work.write path page
  return path

end EntryPoint

end GameBundle
