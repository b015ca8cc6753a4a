import GameBundle.Project.Basic
import GameBundle.Text.LowerCase
import GameBundle.Text.Ordered

/-!
# Effect scripts

Every effect type used by a layer of the project has a script named by the type in
lower case. The scripts are listed in order and without repetition.
-/

namespace GameBundle

namespace Project

def effectTypes (project : Project) : List String :=
  project.layouts.flatMap fun layout =>
    layout.layers.flatMap fun layer =>
      layer.effects.map LayerEffect.effectType

def effectScript (effectType : String) : String := "effects/" ++ Text.lower effectType ++ ".js"

def effectScripts (project : Project) : List String :=
  Text.ordered ((project.effectTypes.filter (· ≠ "")).map effectScript)

end Project

end GameBundle
