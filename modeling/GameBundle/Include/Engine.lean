import GameBundle.Include.IncludeList

/-!
# Engine scripts

Paths of the scripts that make up the game runtime, relative to the runtime
directory. Every bundle loads the core and the tools for events; the debugger
client and the scripts of a renderer are added as asked for.
-/

namespace GameBundle

def coreScripts : List String := [
  "libs/jshashtable.js", "kiln.js", "kiln-splash-image.js", "libs/hshg.js", "libs/rbush.js",
  "inputmanager.js", "jsonmanager.js", "timemanager.js", "runtimeobject.js", "profiler.js",
  "runtimescene.js", "scenestack.js", "polygon.js", "force.js", "layer.js", "timer.js",
  "runtimegame.js", "variable.js", "variablescontainer.js", "oncetriggers.js",
  "runtimebehavior.js", "spriteruntimeobject.js"]

def eventsToolScripts : List String := [
  "events-tools/commontools.js", "events-tools/runtimescenetools.js",
  "events-tools/inputtools.js", "events-tools/objecttools.js", "events-tools/cameratools.js",
  "events-tools/soundtools.js", "events-tools/storagetools.js", "events-tools/stringtools.js",
  "events-tools/windowtools.js", "events-tools/networktools.js"]

def debuggerScripts : List String := [
  "websocket-debugger-client/hot-reloader.js",
  "websocket-debugger-client/websocket-debugger-client.js"]

inductive Renderer where
  | pixi
  | cocos
deriving DecidableEq, Repr

namespace Renderer

def scripts : Renderer → List String
  | .pixi => [
    "pixi-renderers/pixi.js", "pixi-renderers/pixi-filters-tools.js",
    "pixi-renderers/runtimegame-pixi-renderer.js", "pixi-renderers/runtimescene-pixi-renderer.js",
    "pixi-renderers/layer-pixi-renderer.js", "pixi-renderers/pixi-image-manager.js",
    "pixi-renderers/spriteruntimeobject-pixi-renderer.js",
    "pixi-renderers/loadingscreen-pixi-renderer.js",
    "howler-sound-manager/howler.min.js", "howler-sound-manager/howler-sound-manager.js",
    "fontfaceobserver-font-manager/fontfaceobserver.js",
    "fontfaceobserver-font-manager/fontfaceobserver-font-manager.js"]
  | .cocos => [
    "cocos-renderers/cocos-director-manager.js", "cocos-renderers/cocos-image-manager.js",
    "cocos-renderers/cocos-tools.js", "cocos-renderers/layer-cocos-renderer.js",
    "cocos-renderers/loadingscreen-cocos-renderer.js",
    "cocos-renderers/runtimegame-cocos-renderer.js",
    "cocos-renderers/runtimescene-cocos-renderer.js",
    "cocos-renderers/spriteruntimeobject-cocos-renderer.js",
    "cocos-sound-manager/cocos-sound-manager.js",
    "fontfaceobserver-font-manager/fontfaceobserver.js",
    "fontfaceobserver-font-manager/fontfaceobserver-font-manager.js"]

/-- A path that contains one of these only makes sense with the renderer. -/
def markers : Renderer → List String
  | .pixi => ["pixi-renderer", "pixi-filter"]
  | .cocos => ["cocos-renderer", "cocos-shader"]

def other : Renderer → Renderer
  | .pixi => .cocos
  | .cocos => .pixi

end Renderer

structure EngineParts where
  pixi : Bool
  cocos : Bool
  debugger : Bool
deriving DecidableEq, Repr

namespace EngineParts

def all : EngineParts := ⟨true, true, true⟩

def scripts (parts : EngineParts) : List String :=
  coreScripts ++ eventsToolScripts ++ (if parts.debugger then debuggerScripts else []) ++
    (if parts.pixi then Renderer.pixi.scripts else []) ++
    (if parts.cocos then Renderer.cocos.scripts else [])

end EngineParts

end GameBundle
