import GameBundle.Bundle.Batch

/-!
# What an export reads

An export reads templates and scripts of the runtime, and the files that the project
names. Beside these only the output directories matter, whose contents are replaced.
-/

namespace GameBundle

namespace Target

def packageTemplates : Target → List String
  | .preview => []
  | .html5 => []
  | .facebookInstantGames => ["FacebookInstantGames/fbapp-config.json"]
  | .electron => ["Electron/package.json", "Electron/main.js"]
  | .cordova => ["Cordova/config.xml", "Cordova/package.json"]
  | .cocos2d => ["Cocos2d/main.js", "Cocos2d/cocos2d-js-v3.10.js", "Cocos2d/project.json"]

end Target

namespace Exporter

/-- Files that the project names, from its directory. -/
def projectInputs (project : Project) : List Path :=
  let files := project.resources.resources.map Resource.file ++
    project.sourceFiles.map SourceFile.fileName
  (files.filter (· ≠ "")).map (project.directory / ·)

/-- Scripts that a bundle may load, apart from generated ones. -/
def scriptInputs (exporter : Exporter) (request : ExportRequest) : List Path :=
  let profile := request.target.profile
  let generated :=
    GeneratedScript.ofProject exporter.events request.project ⟨""⟩ (!profile.isPreview)
  let scripts := profile.engineParts.scripts ++ request.project.effectScripts ++
    generated.flatMap GeneratedScript.needed
  scripts.map (LoadOrder.source exporter.settings.runtimeDirectory)

def templateInputs (exporter : Exporter) (target : Target) : List Path :=
  (target.profile.indexTemplate :: target.packageTemplates).map
    (exporter.settings.runtimeDirectory / ·)

/-- The files that an export may read. -/
def inputs (exporter : Exporter) (request : ExportRequest) : List Path :=
  exporter.templateInputs request.target ++ exporter.scriptInputs request ++
    projectInputs request.project

/-- The directories that an export may write to, by itself or within a batch. -/
def outputs (exporter : Exporter) (request : ExportRequest) : List Path := [
  request.directory, exporter.settings.codeDirectoryFor request.directory,
  exporter.batchCodeDirectory request]

end Exporter

end GameBundle
