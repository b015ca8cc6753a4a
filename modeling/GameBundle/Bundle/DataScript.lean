import GameBundle.GameOptions
import GameBundle.Project.Basic

/-!
# Data of a game

The script with the data of a game has two lines, one for the project document and
one for the options of the running game.
-/

namespace GameBundle

def dataScript (project : Project) (options : GameOptions) : String :=
  "kiln.projectData = " ++ project.text ++ ";\nkiln.runtimeGameOptions = " ++ options.text ++ ";\n"

end GameBundle
