import GameBundle.Decimal.Digits
import GameBundle.Include.Engine
import GameBundle.Json.Fault
import GameBundle.Path
import GameBundle.Text.LowerCase

/-!
# Targets

A target is an environment that a game runs in. All targets are exported in the same
way; the profile of a target says what differs.
-/

namespace GameBundle

inductive Target where
  | preview
  | html5
  | facebookInstantGames
  | electron
  | cordova
  | cocos2d
deriving DecidableEq, Repr

/-- How an export for a target differs from others. -/
structure TargetProfile where
  target : Target
  /-- The renderer that the bundle keeps. -/
  renderer : Renderer
  debugger : Bool
  isPreview : Bool
  /-- No splash screen while loading, whatever the project says. -/
  splashOff : Bool
  /-- Place of resources and entry point, from the export directory. -/
  webRoot : String
  /-- Place of the scripts, from the web root. -/
  includesDir : String
  /-- Template of the entry point, from the runtime directory. -/
  indexTemplate : String
  /-- Whether the entry point lists the scripts. -/
  indexIncludes : Bool
deriving DecidableEq, Repr

namespace Target

def all : List Target := [.preview, .html5, .facebookInstantGames, .electron, .cordova, .cocos2d]

def name : Target → String
  | .preview => "preview"
  | .html5 => "html5"
  | .facebookInstantGames => "facebook-instant-games"
  | .electron => "electron"
  | .cordova => "cordova"
  | .cocos2d => "cocos2d"

/-- The target of a name; the case of ASCII letters does not matter. -/
def ofName? (name : String) : Option Target :=
  all.find? fun target => target.name == Text.lowerAscii name

def unknownMessage (name : String) : String :=
  "unknown target " ++ Json.quoteName name ++ " (expected one of: " ++
    ", ".intercalate (all.map Target.name) ++ ")"

def webProfile (target : Target) : TargetProfile where
  target
  renderer := .pixi
  debugger := false
  isPreview := false
  splashOff := false
  webRoot := ""
  includesDir := ""
  indexTemplate := "index.html"
  indexIncludes := true

def profile (target : Target) : TargetProfile :=
  match target with
  | .preview => { webProfile .preview with debugger := true, isPreview := true, splashOff := true }
  | .html5 => webProfile .html5
  | .facebookInstantGames => webProfile .facebookInstantGames
  | .electron => { webProfile .electron with webRoot := "app" }
  | .cordova => { webProfile .cordova with webRoot := "www" }
  | .cocos2d =>
    { webProfile .cocos2d with
      renderer := .cocos
      includesDir := "src"
      indexTemplate := "Cocos2d/index.html"
      indexIncludes := false }

/-- Whether files beside the web page make the bundle a package. -/
def isPackaged : Target → Bool
  | .preview => false
  | .html5 => false
  | _ => true

theorem ofName?_name (target : Target) : ofName? target.name = some target := by
  cases target <;> rfl

end Target

namespace TargetProfile

def webRootIn (profile : TargetProfile) (directory : Path) : Path := directory / profile.webRoot

def includesDirIn (profile : TargetProfile) (directory : Path) : Path :=
  profile.webRootIn directory / profile.includesDir

def engineParts (profile : TargetProfile) : EngineParts where
  pixi := profile.renderer == .pixi
  cocos := profile.renderer == .cocos
  debugger := profile.debugger

end TargetProfile

end GameBundle
