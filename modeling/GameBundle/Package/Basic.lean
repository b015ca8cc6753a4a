import GameBundle.Bundle.Work
import GameBundle.Project.Basic
import GameBundle.Script.Identifier
import GameBundle.Template

/-!
# Packages

The files that wrap a web bundle for one environment are made from templates of the
runtime, filled with metadata of the project.
-/

namespace GameBundle

structure PackageSource where
  project : Project
  profile : TargetProfile
  runtime : Path
  directory : Path
  /-- The scripts of the bundle, from the directory of scripts. -/
  scripts : List String

def Project.assetFile (project : Project) (platform name : String) : String :=
  project.resources.fileOf (project.platformAssets.resourceName platform name)

def jsonLiteral (text : String) : String := (Json.string text).text

def Project.manifestTexts (project : Project) : List (String × String) := [
  ("KILN_GAME_NAME", project.name),
  ("KILN_GAME_AUTHOR", project.author),
  ("KILN_GAME_VERSION", project.version),
  ("KILN_GAME_MANGLED_NAME", Script.packageIdentifier project.name)]

/-- Fills a package manifest; values are written as JSON strings. -/
def Project.manifest (project : Project) (template : String) : String :=
  Template.fill template (project.manifestTexts.map fun (name, text) =>
    ("\"" ++ name ++ "\"", jsonLiteral text))

namespace PackageSource

variable {σ : Type} [Storage σ] (source : PackageSource)

def webRoot : Path := source.directory / source.profile.webRoot

def template (file : String) : Work σ String := Work.template (source.runtime / file)

def write (file text : String) : Work σ Path := do
  let path := source.directory / file
  Work.write path text
  return path

def copy (origin : Path) (file : String) : Work σ Path := do
  let path := source.directory / file
  Work.copy origin path
  return path

def copyTemplate (template file : String) : Work σ Path := do
  let origin := source.runtime / template
  if ← Work.isFile origin then source.copy origin file
  else throw (.template origin (.plain .notFound))

def writeManifest (template : String) : Work σ Path := do
  source.write "package.json" (source.project.manifest (← source.template template))

end PackageSource

end GameBundle
