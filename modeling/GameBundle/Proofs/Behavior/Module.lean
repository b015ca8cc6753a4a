import GameBundle.Behavior.Module
import GameBundle.Proofs.Include.IncludeList
import GameBundle.Proofs.Template.Parts

/-!
# Modules of behaviors as plain text

The module of a behavior is literal text with names, fragments and compiled code put in
between, and so is every fragment. Nothing that comes from an author or from a compiler of
events is taken for a placeholder.
-/

namespace GameBundle

open Template (Part fill_parts)

namespace PropertyCode

/-- The default of a property; where the type is not known, zero with a remark. -/
def defaultText (property : Property) : String :=
  match property.type with
  | .string | .choice => Script.quote property.value
  | .number => "Number(" ++ Script.quote property.value ++ ") || 0"
  | .boolean => if property.value = "true" then "true" else "false"
  | .unrecognized _ => "0 /* Error: property was of an unrecognized type */"

/-- Hidden properties start from their default, others from the data if it has them. -/
def initializationText (property : Property) : String :=
  if property.hidden then
    "    this._behaviorData." ++ property.name ++ " = " ++ defaultText property ++ ";\n"
  else
    "    this._behaviorData." ++ property.name ++ " = behaviorData." ++ property.name ++
      " !== undefined ? behaviorData." ++ property.name ++ " : " ++ defaultText property ++ ";\n"

/-- A getter and a setter. -/
def accessorsText (codeNamespace className : String) (property : Property) : String :=
  codeNamespace ++ "." ++ className ++ ".prototype." ++ ("_get" ++ property.name) ++
    " = function() \x7b\n    return this._behaviorData." ++ property.name ++
    " !== undefined ? this._behaviorData." ++ property.name ++ " : " ++ defaultText property ++
    ";\n\x7d;\n" ++
  codeNamespace ++ "." ++ className ++ ".prototype." ++ ("_set" ++ property.name) ++
    " = function(newValue) \x7b\n    this._behaviorData." ++ property.name ++
    " = newValue;\n\x7d;\n"

/-- The update of a property whose value has changed. -/
def reloadText (property : Property) : String :=
  "    if (oldBehaviorData." ++ property.name ++ " !== newBehaviorData." ++ property.name ++
    ")\n        this._behaviorData." ++ property.name ++ " = newBehaviorData." ++ property.name ++
    ";\n"

/-! The templates of the fragments in parts. -/

def visibleParts : List Part := [
  .literal "    this._behaviorData.", .hole "PROPERTY_NAME", .literal " = behaviorData.",
  .hole "PROPERTY_NAME", .literal " !== undefined ? behaviorData.", .hole "PROPERTY_NAME",
  .literal " : ", .hole "DEFAULT_VALUE", .literal ";\n"]

def hiddenParts : List Part := [
  .literal "    this._behaviorData.", .hole "PROPERTY_NAME", .literal " = ",
  .hole "DEFAULT_VALUE", .literal ";\n"]

def accessorsParts : List Part := [
  .hole "CODE_NAMESPACE", .literal ".", .hole "RUNTIME_BEHAVIOR_CLASSNAME",
  .literal ".prototype.", .hole "GETTER_NAME",
  .literal " = function() \x7b\n    return this._behaviorData.", .hole "PROPERTY_NAME",
  .literal " !== undefined ? this._behaviorData.", .hole "PROPERTY_NAME", .literal " : ",
  .hole "DEFAULT_VALUE", .literal ";\n\x7d;\n",
  .hole "CODE_NAMESPACE", .literal ".", .hole "RUNTIME_BEHAVIOR_CLASSNAME",
  .literal ".prototype.", .hole "SETTER_NAME",
  .literal " = function(newValue) \x7b\n    this._behaviorData.", .hole "PROPERTY_NAME",
  .literal " = newValue;\n\x7d;\n"]

def reloadParts : List Part := [
  .literal "    if (oldBehaviorData.", .hole "PROPERTY_NAME", .literal " !== newBehaviorData.",
  .hole "PROPERTY_NAME", .literal ")\n        this._behaviorData.", .hole "PROPERTY_NAME",
  .literal " = newBehaviorData.", .hole "PROPERTY_NAME", .literal ";\n"]

theorem initialization_filled (property : Property) :
    initialization property = String.join ((if property.hidden then hiddenParts
      else visibleParts).map (Part.filled
        [("PROPERTY_NAME", property.name), ("DEFAULT_VALUE", defaultValue property)])) := by
  have filled {template : String} (parts : List Part)
      (whole : template = String.join (parts.map Part.source))
      (fits : parts.all (Part.fits ["PROPERTY_NAME", "DEFAULT_VALUE"]) = true) :=
    fill_parts parts [("PROPERTY_NAME", property.name), ("DEFAULT_VALUE", defaultValue property)]
      whole (by decide) fits rfl
  unfold initialization
  cases property.hidden
  · exact filled visibleParts rfl rfl
  · exact filled hiddenParts rfl rfl

theorem defaultValue_eq (property : Property) : defaultValue property = defaultText property := by
  unfold defaultValue defaultText
  cases property.type <;> rfl

theorem initialization_eq (property : Property) :
    initialization property = initializationText property := by
  refine (initialization_filled property).trans ?_
  rw [defaultValue_eq, initializationText]
  cases property.hidden <;>
    simp [visibleParts, hiddenParts, Part.filled_literal, Part.filled_hole_self,
      Part.filled_hole_of_ne, String.append_assoc]

/-- The name of a placeholder is a name like any other. -/
example : initialization ⟨"\x7b\x7bDEFAULT_VALUE\x7d\x7d", .boolean, "", true⟩ =
    "    this._behaviorData.\x7b\x7bDEFAULT_VALUE\x7d\x7d = false;\n" := by
  decide +kernel

def accessorsValues (codeNamespace className : String) (property : Property) :
    List (String × String) := [
  ("CODE_NAMESPACE", codeNamespace), ("RUNTIME_BEHAVIOR_CLASSNAME", className),
  ("GETTER_NAME", Script.getterName property.name),
  ("SETTER_NAME", Script.setterName property.name), ("PROPERTY_NAME", property.name),
  ("DEFAULT_VALUE", defaultValue property)]

theorem accessors_filled (codeNamespace className : String) (property : Property) :
    accessors codeNamespace className property = String.join (accessorsParts.map
      (Part.filled (accessorsValues codeNamespace className property))) := by
  have whole : accessorsTemplate = String.join (accessorsParts.map Part.source) := by
    decide +kernel
  have fits : accessorsParts.all (Part.fits ["CODE_NAMESPACE", "RUNTIME_BEHAVIOR_CLASSNAME",
      "GETTER_NAME", "SETTER_NAME", "PROPERTY_NAME", "DEFAULT_VALUE"]) = true := rfl
  exact fill_parts accessorsParts (accessorsValues codeNamespace className property) whole
    (by decide) fits rfl

theorem accessors_eq (codeNamespace className : String) (property : Property) :
    accessors codeNamespace className property =
      accessorsText codeNamespace className property := by
  refine (accessors_filled codeNamespace className property).trans ?_
  unfold accessorsText
  simp [accessorsParts, accessorsValues, Script.getterName, Script.setterName, defaultValue_eq,
    Part.filled_literal, Part.filled_hole_self, Part.filled_hole_of_ne, String.append_assoc]

theorem hotReload_filled (property : Property) : hotReload property =
    String.join (reloadParts.map (Part.filled [("PROPERTY_NAME", property.name)])) := by
  have whole : reloadTemplate = String.join (reloadParts.map Part.source) := rfl
  have fits : reloadParts.all (Part.fits ["PROPERTY_NAME"]) = true := rfl
  exact fill_parts reloadParts [("PROPERTY_NAME", property.name)] whole (by decide) fits rfl

theorem hotReload_eq (property : Property) : hotReload property = reloadText property := by
  refine (hotReload_filled property).trans ?_
  unfold reloadText
  simp [reloadParts, Part.filled_literal, Part.filled_hole_self, String.append_assoc]

/-- Every update ends with one line feed, so of all updates together only the last line feed
is dropped. -/
theorem trimEndBy_reloads (properties : List Property) :
    Text.trimEndBy (· == '\n') (String.join (properties.map reloadText)).toList =
      (String.join (properties.map reloadText)).toList.dropLast := by
  obtain rfl | ⟨front, last, rfl⟩ := List.eq_nil_or_concat properties
  · rfl
  · obtain ⟨body, ended⟩ : ∃ body, (reloadText last).toList = body ++ [';', '\n'] := by
      unfold reloadText
      exact ⟨_, String.toList_append⟩
    rw [List.concat_eq_append, List.map_append, String.join_append, List.map_singleton,
      String.join_cons, String.join_nil, String.append_empty, String.toList_append, ended,
      ← List.append_assoc]
    simp [Text.trimEndBy]

end PropertyCode

namespace BehaviorModule

open PropertyCode (initializationText accessorsText reloadText)

def moduleText (codeNamespace className fullName type initialization reload accessors
    methods : String) : String :=
  codeNamespace ++ " = " ++ codeNamespace ++ " || \x7b\x7d;\n\n" ++
  "/**\n" ++
  " * Behavior generated from " ++ fullName ++ "\n" ++
  " * @class " ++ className ++ "\n" ++
  " * @extends kiln.RuntimeBehavior\n" ++
  " * @constructor\n" ++
  " */\n" ++
  codeNamespace ++ "." ++ className ++ " = function(runtimeScene, behaviorData, owner)\n" ++
  "\x7b\n" ++
  "    kiln.RuntimeBehavior.call(this, runtimeScene, behaviorData, owner);\n" ++
  "    this._runtimeScene = runtimeScene;\n\n" ++
  "    this._behaviorData = \x7b\x7d;\n" ++
  initialization ++ "\x7d;\n\n" ++
  codeNamespace ++ "." ++ className ++
    ".prototype = Object.create( kiln.RuntimeBehavior.prototype );\n" ++
  "kiln.registerBehavior(" ++ type ++ ", " ++ codeNamespace ++ "." ++ className ++ ");\n\n" ++
  "// Hot-reload:\n" ++
  codeNamespace ++ "." ++ className ++ ".prototype.updateFromBehaviorData = " ++
    "function(oldBehaviorData, newBehaviorData) \x7b\n" ++
  reload ++ "\n" ++
  "    return true;\n" ++
  "\x7d;\n\n" ++
  "// Properties:\n" ++
  accessors ++ "\n" ++
  "// Methods:\n" ++
  methods

def moduleParts : List Part := [
  .hole "CODE_NAMESPACE", .literal " = ", .hole "CODE_NAMESPACE", .literal " || \x7b\x7d;\n\n",
  .literal "/**\n",
  .literal " * Behavior generated from ", .hole "BEHAVIOR_FULL_NAME", .literal "\n",
  .literal " * @class ", .hole "RUNTIME_BEHAVIOR_CLASSNAME", .literal "\n",
  .literal " * @extends kiln.RuntimeBehavior\n",
  .literal " * @constructor\n",
  .literal " */\n",
  .hole "CODE_NAMESPACE", .literal ".", .hole "RUNTIME_BEHAVIOR_CLASSNAME",
  .literal " = function(runtimeScene, behaviorData, owner)\n",
  .literal "\x7b\n",
  .literal "    kiln.RuntimeBehavior.call(this, runtimeScene, behaviorData, owner);\n",
  .literal "    this._runtimeScene = runtimeScene;\n\n",
  .literal "    this._behaviorData = \x7b\x7d;\n",
  .hole "INITIALIZE_PROPERTIES_CODE", .literal "\x7d;\n\n",
  .hole "CODE_NAMESPACE", .literal ".", .hole "RUNTIME_BEHAVIOR_CLASSNAME",
  .literal ".prototype = Object.create( kiln.RuntimeBehavior.prototype );\n",
  .literal "kiln.registerBehavior(", .hole "BEHAVIOR_TYPE", .literal ", ",
  .hole "CODE_NAMESPACE", .literal ".", .hole "RUNTIME_BEHAVIOR_CLASSNAME", .literal ");\n\n",
  .literal "// Hot-reload:\n",
  .hole "CODE_NAMESPACE", .literal ".", .hole "RUNTIME_BEHAVIOR_CLASSNAME",
  .literal ".prototype.updateFromBehaviorData = ",
  .literal "function(oldBehaviorData, newBehaviorData) \x7b\n",
  .hole "UPDATE_FROM_BEHAVIOR_DATA_CODE", .literal "\n",
  .literal "    return true;\n",
  .literal "\x7d;\n\n",
  .literal "// Properties:\n",
  .hole "PROPERTIES_CODE", .literal "\n",
  .literal "// Methods:\n",
  .hole "METHODS_CODE"]

def moduleHoles : List String := ["CODE_NAMESPACE", "RUNTIME_BEHAVIOR_CLASSNAME",
  "BEHAVIOR_FULL_NAME", "BEHAVIOR_TYPE", "INITIALIZE_PROPERTIES_CODE",
  "UPDATE_FROM_BEHAVIOR_DATA_CODE", "PROPERTIES_CODE", "METHODS_CODE"]

theorem template_filled (values : List (String × String))
    (named : values.map Prod.fst = moduleHoles) :
    Template.fill template (Template.placeholders values) =
      String.join (moduleParts.map (Part.filled values)) := by
  have whole : template = String.join (moduleParts.map Part.source) := by
    unfold template
    simp only [moduleParts, List.map_cons, List.map_nil, Part.source, String.join_cons,
      String.join_nil, String.append_empty, String.append_assoc]
  exact fill_parts moduleParts _ whole (by decide) rfl named

theorem fill_template (codeNamespace className fullName type initialization reload accessors
    methods : String) :
    Template.fill template (Template.placeholders [("CODE_NAMESPACE", codeNamespace),
      ("RUNTIME_BEHAVIOR_CLASSNAME", className), ("BEHAVIOR_FULL_NAME", fullName),
      ("BEHAVIOR_TYPE", type), ("INITIALIZE_PROPERTIES_CODE", initialization),
      ("UPDATE_FROM_BEHAVIOR_DATA_CODE", reload), ("PROPERTIES_CODE", accessors),
      ("METHODS_CODE", methods)]) =
    moduleText codeNamespace className fullName type initialization reload accessors methods := by
  refine (template_filled _ rfl).trans ?_
  unfold moduleText
  simp only [moduleParts, List.map_cons, List.map_nil, Part.filled_literal, Part.filled_hole_self,
    Part.filled_hole_of_ne, ne_eq, String.reduceEq, not_false_eq_true, String.join_cons,
    String.join_nil, String.append_empty, String.append_assoc]

end BehaviorModule

namespace BehaviorGenerator

open BehaviorModule (moduleText unknownMethod methodRequest)
open PropertyCode (initializationText accessorsText reloadText)

def compiled (generator : BehaviorGenerator) (behavior : Behavior) (codeNamespace : String)
    (forRuntime : Bool) (function : EventsFunction) (method : String) : ScriptCode :=
  generator.events.method generator.project {
    function
    contextNamespace :=
      codeNamespace ++ "." ++ behavior.name ++ ".prototype." ++ method ++ "Context"
    qualifiedName := codeNamespace ++ "." ++ behavior.name ++ ".prototype." ++ method
    forRuntime }

def shimsText (generator : BehaviorGenerator) (behavior : Behavior)
    (codeNamespace method : String) : String :=
  String.join ((generator.shims.filter (·.trigger = method)).map
    (·.code codeNamespace behavior.name))

def typeWarnings (behavior : Behavior) : List Diagnostic :=
  (behavior.properties.filter (!·.type.isKnown)).map fun property => {
    code := ⟨101⟩
    severity := .warning
    phase := .codegen
    message := "property `" ++ property.name ++ "` has unrecognized type `" ++
      property.type.name ++ "`"
    subject := some (behavior.name ++ "." ++ property.name) }

def nameWarnings (behavior : Behavior) (names : Dictionary String) : List Diagnostic :=
  (behavior.functions.filter fun function => (Dictionary.find? function.name names).isNone).map
    fun function => {
      code := ⟨100⟩
      severity := .warning
      phase := .codegen
      message := "no mangled name for events function `" ++ function.name ++
        "`; emitted as `" ++ "UNKNOWN_FUNCTION_missing_mangled_name" ++ "`"
      subject := some (behavior.name ++ "." ++ function.name) }

theorem filterMap_propertyDiagnostic (behavior : Behavior) :
    behavior.properties.filterMap (PropertyCode.diagnostic? behavior.name) =
      typeWarnings behavior := by
  rw [typeWarnings, ← List.filterMap_eq_map, List.filterMap_filter]
  congr 1
  funext property
  unfold PropertyCode.diagnostic?
  cases type : property.type with
  | unrecognized name =>
    simp only [Function.comp_apply, type]
    rfl
  | _ => rfl

theorem filterMap_methodDiagnostic (behavior : Behavior) (names : Dictionary String) :
    behavior.functions.filterMap (BehaviorModule.methodDiagnostic? behavior names) =
      nameWarnings behavior names := by
  rw [nameWarnings, ← List.filterMap_eq_map, List.filterMap_filter]
  congr 1
  funext function
  unfold BehaviorModule.methodDiagnostic?
  cases Dictionary.find? function.name names
  · rfl
  · rfl

variable (generator : BehaviorGenerator) (extension codeNamespace : String) (behavior : Behavior)
  (names : Dictionary String) (includes : IncludeList) (forRuntime : Bool)

/-- The module of a behavior is its literal text with everything in its place. -/
theorem generate_eq_concatenation :
    let method (function : EventsFunction) : String :=
      (Dictionary.find? function.name names).getD "UNKNOWN_FUNCTION_missing_mangled_name"
    let compiled (function : EventsFunction) : ScriptCode :=
      generator.compiled behavior codeNamespace forRuntime function (method function)
    let reported := behavior.functions.flatMap fun function => (compiled function).includes
    let result := generator.generate extension behavior codeNamespace names includes forRuntime
    result.1.code = moduleText codeNamespace behavior.name (Script.commentSafe behavior.fullName)
      (Script.quote (extension ++ "::" ++ behavior.name))
      (String.join (behavior.properties.map initializationText))
      (String.ofList (String.join (behavior.properties.map reloadText)).toList.dropLast)
      (String.join (behavior.properties.map (accessorsText codeNamespace behavior.name)))
      (String.join (behavior.functions.map fun function =>
        (compiled function).code ++
          generator.shimsText behavior codeNamespace (method function))) ∧
    result.1.diagnostics.items = typeWarnings behavior ++ nameWarnings behavior names ∧
    result.2 = includes.extend reported ∧
    (includes.WellFormed → result.2.paths = (includes.paths ++ reported).eraseDups) := by
  intro method compiled reported result
  have extended : result.2 = includes.extend reported := by
    simp only [result, generate, List.flatMap_map]
    rfl
  refine ⟨?_, ?_, extended, fun whole => extended ▸ IncludeList.paths_extend whole reported⟩
  · have methods : behavior.functions.map (fun function => (compiled function).code ++
        generator.shimsText behavior codeNamespace (method function)) =
        (behavior.functions.map (generator.method behavior codeNamespace names forRuntime)).map
          ScriptCode.code := by
      rw [List.map_map]
      rfl
    rw [← BehaviorModule.fill_template, methods, ← PropertyCode.trimEndBy_reloads,
      ← funext PropertyCode.initialization_eq, ← funext PropertyCode.hotReload_eq,
      ← funext (PropertyCode.accessors_eq codeNamespace behavior.name)]
    rfl
  · rw [← filterMap_propertyDiagnostic, ← filterMap_methodDiagnostic]
    rfl

end BehaviorGenerator

end GameBundle
