import GameBundle.Package.Basic

/-!
# Desktop packages

A desktop package has a manifest, a script that opens the window, and a directory
for building with the icon of the game, if the project has one.
-/

namespace GameBundle.Desktop

def windowScript (template : String) (project : Project) : String :=
  Template.fill template [
    ("800 /*KILN_WINDOW_WIDTH*/", Decimal.text project.gameResolutionWidth),
    ("600 /*KILN_WINDOW_HEIGHT*/", Decimal.text project.gameResolutionHeight),
    ("\"KILN_GAME_NAME\"", jsonLiteral project.name)]

variable {σ : Type} [Storage σ]

/-- Copies the icon of the project; one that is missing is reported. -/
def copyIcon (source : PackageSource) : Work σ (List Path) := do
  let icon := source.project.assetFile "desktop" "icon-512"
  if icon = "" then return []
  let origin := source.webRoot / icon
  if ← Work.isFile origin then return [← source.copy origin "buildResources/icon.png"]
  Work.warn .missingIconFile "desktop icon not found; package built without icon" origin.text
  return []

def package (source : PackageSource) : Work σ (List Path) := do
  let manifest ← source.writeManifest "Electron/package.json"
  let template ← source.template "Electron/main.js"
  let main ← source.write "main.js" (windowScript template source.project)
  Work.createDirs (source.directory / "buildResources")
  return manifest :: main :: (← copyIcon source)

end GameBundle.Desktop
