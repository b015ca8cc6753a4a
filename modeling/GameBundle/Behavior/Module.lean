import GameBundle.Behavior.PropertyCode
import GameBundle.Behavior.Shim
import GameBundle.Events.Compiler
import GameBundle.Include.IncludeList
import GameBundle.Script.Comment
import GameBundle.Text.Blank

/-!
# Modules of behaviors

The module of a behavior is a skeleton filled with the fragments of its properties
and the methods compiled from its functions. Generation never fails: a function
without a method name gets a telling name and a diagnostic.
-/

namespace GameBundle

namespace Behavior

/-- Names that the runtime calls; they are part of its contract and never mangled. -/
def lifecycleMethods : List String := [
  "onCreated", "onActivate", "onDeActivate", "doStepPreEvents", "doStepPostEvents", "onDestroy",
  "onOwnerRemovedFromScene"]

def methodName (function : String) : String :=
  if lifecycleMethods.contains function then function else Script.mangle function

def methodNames (behavior : Behavior) : Dictionary String :=
  .ofEntries (behavior.functions.map fun function => (function.name, methodName function.name))

end Behavior

structure GeneratedModule where
  code : String
  diagnostics : Diagnostics
deriving DecidableEq, Repr

structure BehaviorGenerator where
  project : Project
  events : EventsCompiler
  shims : List Shim

namespace BehaviorModule

open Template (placeholder)

/-- The method name of a function that has none. -/
def unknownMethod : String := "UNKNOWN_FUNCTION_missing_mangled_name"

def template : String :=
  let ns := placeholder "CODE_NAMESPACE"
  let qualified := ns ++ "." ++ placeholder "RUNTIME_BEHAVIOR_CLASSNAME"
  ns ++ " = " ++ ns ++ " || \x7b\x7d;\n\n" ++
  "/**\n" ++
  " * Behavior generated from " ++ placeholder "BEHAVIOR_FULL_NAME" ++ "\n" ++
  " * @class " ++ placeholder "RUNTIME_BEHAVIOR_CLASSNAME" ++ "\n" ++
  " * @extends kiln.RuntimeBehavior\n" ++
  " * @constructor\n" ++
  " */\n" ++
  qualified ++ " = function(runtimeScene, behaviorData, owner)\n" ++
  "\x7b\n" ++
  "    kiln.RuntimeBehavior.call(this, runtimeScene, behaviorData, owner);\n" ++
  "    this._runtimeScene = runtimeScene;\n\n" ++
  "    this._behaviorData = \x7b\x7d;\n" ++
  placeholder "INITIALIZE_PROPERTIES_CODE" ++ "\x7d;\n\n" ++
  qualified ++ ".prototype = Object.create( kiln.RuntimeBehavior.prototype );\n" ++
  "kiln.registerBehavior(" ++ placeholder "BEHAVIOR_TYPE" ++ ", " ++ qualified ++ ");\n\n" ++
  "// Hot-reload:\n" ++
  qualified ++ ".prototype.updateFromBehaviorData = " ++
    "function(oldBehaviorData, newBehaviorData) \x7b\n" ++
  placeholder "UPDATE_FROM_BEHAVIOR_DATA_CODE" ++ "\n" ++
  "    return true;\n" ++
  "\x7d;\n\n" ++
  "// Properties:\n" ++
  placeholder "PROPERTIES_CODE" ++ "\n" ++
  "// Methods:\n" ++
  placeholder "METHODS_CODE"

def methodName (names : Dictionary String) (function : EventsFunction) : String :=
  (Dictionary.find? function.name names).getD unknownMethod

def methodDiagnostic? (behavior : Behavior) (names : Dictionary String)
    (function : EventsFunction) : Option Diagnostic :=
  match Dictionary.find? function.name names with
  | some _ => none
  | none =>
    some (.warning .unmappedFunctionName
      ("no mangled name for events function `" ++ function.name ++ "`; emitted as `" ++
        unknownMethod ++ "`")
      (some (behavior.name ++ "." ++ function.name)))

def methodRequest (behavior : Behavior) (codeNamespace : String) (names : Dictionary String)
    (forRuntime : Bool) (function : EventsFunction) : MethodRequest :=
  let qualifiedName :=
    codeNamespace ++ "." ++ behavior.name ++ ".prototype." ++ methodName names function
  { function, contextNamespace := qualifiedName ++ "Context", qualifiedName, forRuntime }

/-- All that is asked of the compiler of events, in the order of the functions. -/
def methodRequests (behavior : Behavior) (codeNamespace : String) (names : Dictionary String)
    (forRuntime : Bool) : List MethodRequest :=
  behavior.functions.map (methodRequest behavior codeNamespace names forRuntime)

def shimCode (shims : List Shim) (codeNamespace className method : String) : String :=
  String.join ((Shim.triggered shims method).map fun shim => shim.code codeNamespace className)

end BehaviorModule

namespace BehaviorGenerator

open BehaviorModule
open Template (placeholder)

def method (generator : BehaviorGenerator) (behavior : Behavior) (codeNamespace : String)
    (names : Dictionary String) (forRuntime : Bool) (function : EventsFunction) : ScriptCode :=
  let compiled := generator.events.method generator.project
    (methodRequest behavior codeNamespace names forRuntime function)
  { compiled with
    code := compiled.code ++
      shimCode generator.shims codeNamespace behavior.name (methodName names function) }

/-- The complete module of a behavior. The scripts its methods need are added to
`includes`. -/
def generate (generator : BehaviorGenerator) (extension : String) (behavior : Behavior)
    (codeNamespace : String) (names : Dictionary String) (includes : IncludeList)
    (forRuntime : Bool) : GeneratedModule × IncludeList :=
  let properties := behavior.properties
  let methods := behavior.functions.map
    (generator.method behavior codeNamespace names forRuntime)
  let initialization := String.join (properties.map PropertyCode.initialization)
  let accessors :=
    String.join (properties.map (PropertyCode.accessors codeNamespace behavior.name))
  let reload := String.join (properties.map PropertyCode.hotReload)
  let code := Template.fill template [
    (placeholder "CODE_NAMESPACE", codeNamespace),
    (placeholder "RUNTIME_BEHAVIOR_CLASSNAME", behavior.name),
    (placeholder "BEHAVIOR_FULL_NAME", Script.commentSafe behavior.fullName),
    (placeholder "BEHAVIOR_TYPE", Script.quote (extension ++ "::" ++ behavior.name)),
    (placeholder "INITIALIZE_PROPERTIES_CODE", initialization),
    (placeholder "UPDATE_FROM_BEHAVIOR_DATA_CODE",
      String.ofList (Text.trimEndBy (· == '\n') reload.toList)),
    (placeholder "PROPERTIES_CODE", accessors),
    (placeholder "METHODS_CODE", String.join (methods.map ScriptCode.code))]
  let diagnostics :=
    properties.filterMap (PropertyCode.diagnostic? behavior.name) ++
      behavior.functions.filterMap (methodDiagnostic? behavior names)
  ({ code, diagnostics := ⟨diagnostics⟩ }, includes.extend (methods.flatMap ScriptCode.includes))

end BehaviorGenerator

end GameBundle
