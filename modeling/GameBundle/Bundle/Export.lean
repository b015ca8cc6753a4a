import GameBundle.Bundle.DataScript
import GameBundle.Bundle.EntryPoint
import GameBundle.Bundle.FontResources
import GameBundle.Bundle.LoadOrder
import GameBundle.Bundle.ResourceExport
import GameBundle.Bundle.Settings
import GameBundle.Bundle.Stage
import GameBundle.Package.Target
import GameBundle.Project.Stripped

/-!
# Exporting a project

An export turns a project into a bundle for one target and reports what it made. The
output directories are emptied first, so nothing of an earlier export is left. The
export works on a project of its own, and code and data are made from the same
resources.
-/

namespace GameBundle

/-- What one export is asked to do. -/
structure ExportRequest where
  project : Project
  target : Target
  /-- The directory that receives the bundle. -/
  directory : Path
  /-- The layout that the game starts with. -/
  layout : Option String
  /-- An external layout put into the first layout of a preview. -/
  externalLayout : Option String
  /-- Fingerprints of scripts, passed on to the running game. -/
  hashes : Dictionary Nat
  strict : Bool

def ExportRequest.plain (project : Project) (target : Target) (directory : Path) :
    ExportRequest where
  project
  target
  directory
  layout := none
  externalLayout := none
  hashes := []
  strict := false

structure ExportReport where
  target : Target
  directory : Path
  stages : List Stage
  /-- The scripts of the bundle, from the directory of scripts. -/
  includes : List String
  options : GameOptions
  /-- Generated scripts and the data. -/
  generated : List Path
  /-- Entry point and files of the package. -/
  written : List Path
  diagnostics : Diagnostics
deriving DecidableEq

namespace ExportReport

def toJsonWith (report : ExportReport) (diagnostics : Json) : Json :=
  .object [
    ("target", .string report.target.name),
    ("export_path", .string report.directory.text),
    ("stages", .strings (report.stages.map Stage.name)),
    ("includes", .strings report.includes),
    ("runtime_options", report.options.toJson),
    ("generated_files", .strings (report.generated.map Path.text)),
    ("written_files", .strings (report.written.map Path.text)),
    ("diagnostics", diagnostics)]

def toJson (report : ExportReport) : Json := report.toJsonWith report.diagnostics.toJson

def verdict (report : ExportReport) (strict : Bool) : Except ExportFault ExportReport :=
  if strict && report.diagnostics.hasWarnings then
    .error (.strict report.target report.diagnostics.size (report.diagnostics.texts.headD ""))
  else .ok report

end ExportReport

/-- The directories of one export, both absolute. -/
structure OutputPlace where
  bundle : Path
  code : Path
deriving DecidableEq, Repr

structure Exporter where
  settings : ExportSettings
  events : EventsCompiler

namespace Exporter

def splashed (profile : TargetProfile) (project : Project) : Project :=
  if profile.splashOff then { project with loadingScreen := ⟨false⟩ } else project

/-- The project as it is shipped, starting with the layout asked for. -/
def shipped (project : Project) (layout : Option String) : Project :=
  { project.stripped with firstLayout := layout.getD project.firstLayout }

variable {σ : Type} [Storage σ]

def prepare (place : OutputPlace) (webRoot : Path) : Work σ Unit := do
  Work.emptyDir place.bundle
  Work.emptyDir place.code
  Work.createDirs webRoot

def projectWithResources (project : Project) (webRoot : Path) : Work σ Project := do
  let project ← project.withExportedResources webRoot
  let resources ← Work.look (project.resources.addFontsIn webRoot "")
  return { project with resources }

def writeGenerated (script : GeneratedScript) : Work σ Unit := do
  Work.write script.path script.code
  Work.report script.diagnostics

/-- Copies an external script; a copy that fails is reported. -/
def copyExternal (script : ExternalScript) : Work σ Unit := do
  match ← Work.attempt (Storage.copy script.source script.target) with
  | .ok () => return ()
  | .error cause =>
    Work.warn .missingSourceFile ("could not copy external source file: " ++ cause.message)
      script.source.text

/-- Copies a script into the directory of scripts; a missing one is reported. -/
def materialize (runtime includesDir : Path) (script : String) : Work σ Unit := do
  let source := LoadOrder.source runtime script
  if ← Work.isFile source then Work.copy source (includesDir / LoadOrder.bundleName script)
  else
    Work.warn .missingIncludeFile
      ("could not find include file " ++ Json.quoteName script) source.text

def packageFiles (source : PackageSource) : Work σ (List Path) :=
  if source.profile.target.isPackaged then source.package else return []

/-- The project as code is made from it, when its resources lie in an emptied bundle. -/
def exportedProject (request : ExportRequest) (place : OutputPlace) : Work σ Project := do
  let webRoot := request.target.profile.webRootIn place.bundle
  prepare place webRoot
  projectWithResources (splashed request.target.profile request.project) webRoot

/-- The scripts that a project loads before the data is added. -/
def scriptsOf (exporter : Exporter) (request : ExportRequest) (place : OutputPlace)
    (project : Project) : IncludeList :=
  let profile := request.target.profile
  LoadOrder.filtered profile (LoadOrder.gathered profile project
    (GeneratedScript.ofProject exporter.events project place.code (!profile.isPreview))
    (ExternalScript.ofProject project place.code))

def assemble (exporter : Exporter) (request : ExportRequest) (place : OutputPlace)
    (project : Project) : Work σ ExportReport := do
  let profile := request.target.profile
  let runtime := exporter.settings.runtimeDirectory
  let generated := GeneratedScript.ofProject exporter.events project place.code (!profile.isPreview)
  generated.forM writeGenerated
  (ExternalScript.ofProject project place.code).forM copyExternal
  let includes := exporter.scriptsOf request place project
  let options :=
    GameOptions.ofIncludes profile.isPreview request.externalLayout includes.paths request.hashes
  let project := shipped project request.layout
  let data := place.code / "data.js"
  Work.write data (dataScript project options)
  let includes := includes.insert data.text
  includes.paths.forM (materialize runtime (profile.includesDirIn place.bundle))
  let names := LoadOrder.bundleNames includes
  let page ← EntryPoint.render profile runtime place.bundle
    (names.map (LoadOrder.listedName profile.includesDir))
  let files ← packageFiles
    { project, profile, runtime, directory := place.bundle, scripts := names }
  return {
    target := request.target
    directory := place.bundle
    stages := Stage.plan request.target
    includes := names
    options
    generated := generated.map GeneratedScript.path ++ [data]
    written := page :: files
    diagnostics := (← get).diagnostics }

/-- Makes the bundle of a request in the given directories. -/
def build (exporter : Exporter) (request : ExportRequest) (place : OutputPlace) :
    Work σ ExportReport := do
  exporter.assemble request place (← exportedProject request place)

def outputPlace (request : ExportRequest) (codeDirectory : Path) (disk : σ) : OutputPlace :=
  ⟨Storage.absolute request.directory disk, Storage.absolute codeDirectory disk⟩

/-- Exports into the directory of a request, with generated code in `codeDirectory`. -/
def exportWith (exporter : Exporter) (request : ExportRequest) (codeDirectory : Path) (disk : σ) :
    Except ExportFault ExportReport × σ :=
  let (outcome, session) :=
    (exporter.build request (outputPlace request codeDirectory disk)).start disk
  (outcome.bind fun report => report.verdict (request.strict || exporter.settings.strict),
    session.disk)

/-- Exports a project for one target. -/
def exportOne (exporter : Exporter) (request : ExportRequest) (disk : σ) :
    Except ExportFault ExportReport × σ :=
  exporter.exportWith request (exporter.settings.codeDirectoryFor request.directory) disk

end Exporter

end GameBundle
