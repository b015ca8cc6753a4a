import GameBundle.Bundle.GeneratedScript
import GameBundle.Include.Effect
import GameBundle.Target

/-!
# Load order

The order in which a bundle loads its scripts: the engine, the effects, the generated
scripts, each behind the ones it needs, the author's external scripts, and the data.
Scripts of the renderer that the target does not use are taken out before the data is
added.
-/

namespace GameBundle.LoadOrder

def addGenerated (includes : IncludeList) (script : GeneratedScript) : IncludeList :=
  (includes.extend script.needed).insert script.path.text

/-- The scripts of engine, effects, behaviors, layouts and author. -/
def gathered (profile : TargetProfile) (project : Project) (generated : List GeneratedScript)
    (external : List ExternalScript) : IncludeList :=
  let engine := (IncludeList.ofList profile.engineParts.scripts).extend project.effectScripts
  (generated.foldl addGenerated engine).extend (external.map fun script => script.target.text)

/-- Takes out the scripts of the renderer that is not used. -/
def filtered (profile : TargetProfile) (includes : IncludeList) : IncludeList :=
  includes.withoutMarked profile.renderer.other.markers

/-- The name of a script within the bundle: scripts of the engine keep their path, and
others lie beside each other under their file names. -/
def bundleName (script : String) : String :=
  let path : Path := ⟨script⟩
  if path.isAbsolute then path.fileName?.getD script else script

def source (runtime : Path) (script : String) : Path :=
  let path : Path := ⟨script⟩
  if path.isAbsolute then path else runtime / script

def bundleNames (includes : IncludeList) : List String :=
  (IncludeList.ofList (includes.paths.map bundleName)).paths

def listedName (includesDir script : String) : String :=
  if includesDir = "" then script else includesDir ++ "/" ++ script

end GameBundle.LoadOrder
