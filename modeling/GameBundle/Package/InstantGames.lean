import GameBundle.Package.Basic

/-!
# Packages of instant games

One file of settings tells the screen orientation.
-/

namespace GameBundle.InstantGames

def orientation (name : String) : String :=
  if name = "portrait" then "PORTRAIT" else "LANDSCAPE"

def settings (template : String) (project : Project) : String :=
  Template.fill template
    [(jsonLiteral "KILN_ORIENTATION", jsonLiteral (orientation project.orientation))]

def package {σ : Type} [Storage σ] (source : PackageSource) : Work σ (List Path) := do
  let template ← source.template "FacebookInstantGames/fbapp-config.json"
  return [← source.write "fbapp-config.json" (settings template source.project)]

end GameBundle.InstantGames
