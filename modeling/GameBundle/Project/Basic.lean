import GameBundle.Json.Printer
import GameBundle.Path
import GameBundle.Project.Behavior
import GameBundle.Project.Layout
import GameBundle.Resource

/-!
# Projects

A project is what the author of a game saves: metadata, layouts, extensions and
resources. Only the parts that an export reads or rewrites have types. The path of
the project file says where relative resources are found; when it is empty it is
left out of the document.
-/

namespace GameBundle

structure LoadingScreen where
  showSplash : Bool
deriving DecidableEq, Repr

namespace LoadingScreen

def toJson (screen : LoadingScreen) : Json := .object [("showSplash", .bool screen.showSplash)]

def recordType : Json.RecordType LoadingScreen where
  name := "LoadingScreen"
  blank := ⟨true⟩
  fields := [.optional "showSplash" .bool fun showSplash _ => ⟨showSplash⟩]

end LoadingScreen

/-- A script written by hand that is shipped with the game. -/
structure SourceFile where
  fileName : String
  language : String
deriving DecidableEq, Repr

namespace SourceFile

def toJson (source : SourceFile) : Json :=
  .object [("fileName", .string source.fileName), ("language", .string source.language)]

def recordType : Json.RecordType SourceFile where
  name := "SourceFile"
  blank := ⟨"", "Javascript"⟩
  fields := [
    .required "fileName" .text fun fileName s => { s with fileName },
    .optional "language" .text fun language s => { s with language }]

end SourceFile

structure Project where
  name : String
  author : String
  version : String
  packageName : String
  orientation : String
  gameResolutionWidth : Nat
  gameResolutionHeight : Nat
  projectFile : String
  firstLayout : String
  adMobAppId : String
  loadingScreen : LoadingScreen
  layouts : List Layout
  externalLayouts : List ExternalLayout
  externalEvents : List ExternalEvents
  extensions : List Extension
  resources : ResourceTable
  platformAssets : PlatformAssets
  sourceFiles : List SourceFile
deriving DecidableEq

namespace Project

/-- An empty project with default metadata. -/
def blank (name : String) : Project where
  name
  author := ""
  version := "1.0.0"
  packageName := ""
  orientation := "landscape"
  gameResolutionWidth := 800
  gameResolutionHeight := 600
  projectFile := ""
  firstLayout := ""
  adMobAppId := ""
  loadingScreen := ⟨true⟩
  layouts := []
  externalLayouts := []
  externalEvents := []
  extensions := []
  resources := .empty
  platformAssets := .empty
  sourceFiles := []

/-- The document of a project, with its keys in order. -/
def toJson (project : Project) : Json :=
  .object ([
    ("adMobAppId", .string project.adMobAppId),
    ("author", .string project.author),
    ("extensions", .list Extension.toJson project.extensions),
    ("externalEvents", .list ExternalEvents.toJson project.externalEvents),
    ("externalLayouts", .list ExternalLayout.toJson project.externalLayouts),
    ("firstLayout", .string project.firstLayout),
    ("gameResolutionHeight", .natural project.gameResolutionHeight),
    ("gameResolutionWidth", .natural project.gameResolutionWidth),
    ("layouts", .list Layout.toJson project.layouts),
    ("loadingScreen", project.loadingScreen.toJson),
    ("name", .string project.name),
    ("orientation", .string project.orientation),
    ("packageName", .string project.packageName),
    ("platformSpecificAssets", project.platformAssets.toJson)] ++
    (if project.projectFile = "" then [] else [("projectFile", .string project.projectFile)]) ++ [
    ("resources", project.resources.toJson),
    ("sourceFiles", .list SourceFile.toJson project.sourceFiles),
    ("version", .string project.version)])

def recordType : Json.RecordType Project where
  name := "Project"
  blank := blank ""
  fields := [
    .required "name" .text fun name p => { p with name },
    .optional "author" .text fun author p => { p with author },
    .optional "version" .text fun version p => { p with version },
    .optional "packageName" .text fun packageName p => { p with packageName },
    .optional "orientation" .text fun orientation p => { p with orientation },
    .optional "gameResolutionWidth" (.unsigned 32)
      fun gameResolutionWidth p => { p with gameResolutionWidth },
    .optional "gameResolutionHeight" (.unsigned 32)
      fun gameResolutionHeight p => { p with gameResolutionHeight },
    .optional "projectFile" .text fun projectFile p => { p with projectFile },
    .optional "firstLayout" .text fun firstLayout p => { p with firstLayout },
    .optional "adMobAppId" .text fun adMobAppId p => { p with adMobAppId },
    .optional "loadingScreen" LoadingScreen.recordType.decode
      fun loadingScreen p => { p with loadingScreen },
    .optional "layouts" (.list Layout.recordType.decode) fun layouts p => { p with layouts },
    .optional "externalLayouts" (.list ExternalLayout.recordType.decode)
      fun externalLayouts p => { p with externalLayouts },
    .optional "externalEvents" (.list ExternalEvents.recordType.decode)
      fun externalEvents p => { p with externalEvents },
    .optional "extensions" (.list Extension.recordType.decode)
      fun extensions p => { p with extensions },
    .optional "resources" ResourceTable.recordType.decode fun resources p => { p with resources },
    .optional "platformSpecificAssets" PlatformAssets.decode
      fun platformAssets p => { p with platformAssets },
    .optional "sourceFiles" (.list SourceFile.recordType.decode)
      fun sourceFiles p => { p with sourceFiles }]

def parse (text : String) : Except Json.Fault Project := recordType.decode.ofText text

def text (project : Project) : String := project.toJson.text

/-- Directory of the project file; the current one when it has none. -/
def directory (project : Project) : Path :=
  match (Path.mk project.projectFile).parent? with
  | some parent => if parent.text = "" then ⟨"."⟩ else parent
  | none => ⟨"."⟩

def layout? (project : Project) (name : String) : Option Layout :=
  project.layouts.find? fun layout => layout.name == name

def extension? (project : Project) (name : String) : Option Extension :=
  project.extensions.find? fun extension => extension.name == name

end Project

end GameBundle
