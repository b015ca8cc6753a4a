import GameBundle.Events.Inline
import GameBundle.Proofs.Behavior.Module

/-!
# Methods with inline code as plain text

The method that a function with inline code becomes is literal text with names and the code of
the author in between, and so is the shim for the old name of the method called on destruction.
The module of a behavior puts such methods one behind the other.
-/

namespace GameBundle

open Template (Part fill_parts)

namespace InlineEvents

def methodText (contextNamespace qualifiedName body : String) : String :=
  "\n" ++ contextNamespace ++ " = \x7b\x7d;\n\n" ++ qualifiedName ++ " = function() \x7b\n" ++
  "var that = this;\n" ++
  "var runtimeScene = this._runtimeScene;\n" ++
  body ++ "\n\x7d;\n"

def methodParts : List Part := [
  .literal "\n", .hole "FUNCTION_CODE_NAMESPACE", .literal " = \x7b\x7d;\n\n",
  .hole "FUNCTION_QUALIFIED_NAME", .literal " = function() \x7b\n",
  .literal "var that = this;\n",
  .literal "var runtimeScene = this._runtimeScene;\n",
  .hole "EVENTS_CODE", .literal "\n\x7d;\n"]

/-- The author's code of a function, without blanks at its end. -/
def body (forRuntime : Bool) (function : EventsFunction) : String :=
  trimmed (compile function.name forRuntime function.events).code

def methodValues (request : MethodRequest) : List (String × String) := [
  ("FUNCTION_CODE_NAMESPACE", request.contextNamespace),
  ("FUNCTION_QUALIFIED_NAME", request.qualifiedName),
  ("EVENTS_CODE", body request.forRuntime request.function)]

theorem method_filled (request : MethodRequest) : (method request).code =
    String.join (methodParts.map (Part.filled (methodValues request))) := by
  have whole : methodTemplate = String.join (methodParts.map Part.source) := rfl
  have fits : methodParts.all (Part.fits ["FUNCTION_CODE_NAMESPACE", "FUNCTION_QUALIFIED_NAME",
      "EVENTS_CODE"]) = true := rfl
  exact fill_parts methodParts (methodValues request) whole (by decide) fits rfl

theorem method_code (request : MethodRequest) : (method request).code =
    methodText request.contextNamespace request.qualifiedName
      (body request.forRuntime request.function) := by
  refine (method_filled request).trans ?_
  simp only [methodText, methodParts, methodValues, List.map_cons, List.map_nil, Part.filled_literal,
    Part.filled_hole_self, Part.filled_hole_of_ne, ne_eq, String.reduceEq, not_false_eq_true,
    String.join_cons, String.join_nil, String.append_empty, String.append_assoc]

end InlineEvents

namespace Shim

/-- The method called on destruction hands over to the one with the old name. -/
def destroyText (codeNamespace className : String) : String :=
  "\n" ++ codeNamespace ++ "." ++ className ++ ".prototype.onDestroy = function() \x7b\n" ++
  "  // Redirect call to onOwnerRemovedFromScene (the old name of onDestroy)\n" ++
  "  if (this.onOwnerRemovedFromScene) this.onOwnerRemovedFromScene();\n" ++
  "\x7d;\n"

def destroyParts : List Part := [
  .literal "\n", .hole "CODE_NAMESPACE", .literal ".", .hole "RUNTIME_BEHAVIOR_CLASSNAME",
  .literal ".prototype.onDestroy = function() \x7b\n",
  .literal "  // Redirect call to onOwnerRemovedFromScene (the old name of onDestroy)\n",
  .literal "  if (this.onOwnerRemovedFromScene) this.onOwnerRemovedFromScene();\n",
  .literal "\x7d;\n"]

theorem destroy_filled (codeNamespace className : String) :
    destroy.code codeNamespace className = String.join (destroyParts.map (Part.filled
      [("CODE_NAMESPACE", codeNamespace), ("RUNTIME_BEHAVIOR_CLASSNAME", className)])) := by
  have whole : destroyTemplate = String.join (destroyParts.map Part.source) := rfl
  have fits : destroyParts.all (Part.fits ["CODE_NAMESPACE",
      "RUNTIME_BEHAVIOR_CLASSNAME"]) = true := rfl
  exact fill_parts destroyParts [("CODE_NAMESPACE", codeNamespace),
    ("RUNTIME_BEHAVIOR_CLASSNAME", className)] whole (by decide) fits rfl

theorem destroy_code (codeNamespace className : String) :
    destroy.code codeNamespace className = destroyText codeNamespace className := by
  refine (destroy_filled codeNamespace className).trans ?_
  simp [destroyText, destroyParts, Part.filled_literal, Part.filled_hole_self,
    Part.filled_hole_of_ne, String.append_assoc]

end Shim

namespace BehaviorModule

theorem shimCode_standard (codeNamespace className method : String) :
    shimCode Shim.standard codeNamespace className method =
      if method = "onOwnerRemovedFromScene" then Shim.destroyText codeNamespace className
      else "" := by
  unfold shimCode Shim.triggered Shim.standard
  rw [← Shim.destroy_code]
  by_cases triggers : method = "onOwnerRemovedFromScene"
  · subst triggers
    simp [Shim.destroy]
  · have apart : ("onOwnerRemovedFromScene" == method) = false := by
      simpa using fun same => triggers same.symm
    simp [Shim.destroy, triggers, apart]

end BehaviorModule

namespace BehaviorGenerator

open BehaviorModule (moduleText methodName)
open PropertyCode (initializationText accessorsText reloadText)

def moduleValues (generator : BehaviorGenerator) (extension codeNamespace : String)
    (behavior : Behavior) (names : Dictionary String) (forRuntime : Bool) :
    List (String × String) := [
  ("CODE_NAMESPACE", codeNamespace), ("RUNTIME_BEHAVIOR_CLASSNAME", behavior.name),
  ("BEHAVIOR_FULL_NAME", Script.commentSafe behavior.fullName),
  ("BEHAVIOR_TYPE", Script.quote (extension ++ "::" ++ behavior.name)),
  ("INITIALIZE_PROPERTIES_CODE",
    String.join (behavior.properties.map PropertyCode.initialization)),
  ("UPDATE_FROM_BEHAVIOR_DATA_CODE", String.ofList (Text.trimEndBy (· == '\n')
    (String.join (behavior.properties.map PropertyCode.hotReload)).toList)),
  ("PROPERTIES_CODE",
    String.join (behavior.properties.map (PropertyCode.accessors codeNamespace behavior.name))),
  ("METHODS_CODE", String.join ((behavior.functions.map
    (generator.method behavior codeNamespace names forRuntime)).map ScriptCode.code))]

theorem generate_filled (generator : BehaviorGenerator) (extension codeNamespace : String)
    (behavior : Behavior) (names : Dictionary String) (includes : IncludeList)
    (forRuntime : Bool) :
    (generator.generate extension behavior codeNamespace names includes forRuntime).1.code =
      String.join (BehaviorModule.moduleParts.map (Part.filled
        (generator.moduleValues extension codeNamespace behavior names forRuntime))) :=
  BehaviorModule.template_filled
    (generator.moduleValues extension codeNamespace behavior names forRuntime) rfl

/-- The module of a behavior is its literal text around its fragments. -/
theorem generate_code (generator : BehaviorGenerator) (extension codeNamespace : String)
    (behavior : Behavior) (names : Dictionary String) (includes : IncludeList)
    (forRuntime : Bool) :
    (generator.generate extension behavior codeNamespace names includes forRuntime).1.code =
      moduleText codeNamespace behavior.name (Script.commentSafe behavior.fullName)
        (Script.quote (extension ++ "::" ++ behavior.name))
        (String.join (behavior.properties.map initializationText))
        (String.ofList (String.join (behavior.properties.map reloadText)).toList.dropLast)
        (String.join (behavior.properties.map (accessorsText codeNamespace behavior.name)))
        (String.join (behavior.functions.map fun function =>
          (generator.method behavior codeNamespace names forRuntime function).code)) := by
  have methods : behavior.functions.map (fun function =>
      (generator.method behavior codeNamespace names forRuntime function).code) =
      (behavior.functions.map (generator.method behavior codeNamespace names forRuntime)).map
        ScriptCode.code := by
    rw [List.map_map]
    rfl
  rw [← BehaviorModule.fill_template, methods, ← PropertyCode.trimEndBy_reloads,
    ← funext PropertyCode.initialization_eq, ← funext PropertyCode.hotReload_eq,
    ← funext (PropertyCode.accessors_eq codeNamespace behavior.name)]
  rfl

/-- The generator that makes methods of inline code and adds the usual shims. -/
def ofInline (project : Project) : BehaviorGenerator := ⟨project, .inline, Shim.standard⟩

theorem ofInline_method_code (project : Project) (behavior : Behavior) (codeNamespace : String)
    (names : Dictionary String) (forRuntime : Bool) (function : EventsFunction) :
    let qualified := codeNamespace ++ "." ++ behavior.name ++ ".prototype." ++
      methodName names function
    ((ofInline project).method behavior codeNamespace names forRuntime function).code =
      InlineEvents.methodText (qualified ++ "Context") qualified
          (InlineEvents.body forRuntime function) ++
        if methodName names function = "onOwnerRemovedFromScene" then
          Shim.destroyText codeNamespace behavior.name
        else "" := by
  intro qualified
  rw [← BehaviorModule.shimCode_standard]
  exact congrArg (· ++ _) (InlineEvents.method_code _)

end BehaviorGenerator

end GameBundle
