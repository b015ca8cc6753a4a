import GameBundle.Diagnostic
import GameBundle.Project.Behavior
import GameBundle.Script.Identifier
import GameBundle.Script.Quoted
import GameBundle.Template

/-!
# Code of properties

A property adds three fragments to the module of its behavior: the initialization in
the constructor, a getter and a setter, and the update after a reload. A property of
an unknown type gets a marker for its default value and a diagnostic.
-/

namespace GameBundle.PropertyCode

open Template (placeholder)

/-- Stands for the default value of a property whose type is not known. -/
def unrecognizedMarker : String := "0 /* Error: property was of an unrecognized type */"

def defaultValue (property : Property) : String :=
  match property.type with
  | .string | .choice => Script.quote property.value
  | .number => "Number(" ++ Script.quote property.value ++ ") || 0"
  | .boolean => if property.value = "true" then "true" else "false"
  | .unrecognized _ => unrecognizedMarker

def propertyName : String := placeholder "PROPERTY_NAME"

def visibleTemplate : String :=
  "    this._behaviorData." ++ propertyName ++ " = behaviorData." ++ propertyName ++
  " !== undefined ? behaviorData." ++ propertyName ++ " : " ++ placeholder "DEFAULT_VALUE" ++ ";\n"

def hiddenTemplate : String :=
  "    this._behaviorData." ++ propertyName ++ " = " ++ placeholder "DEFAULT_VALUE" ++ ";\n"

def accessorsTemplate : String :=
  let prototype :=
    placeholder "CODE_NAMESPACE" ++ "." ++ placeholder "RUNTIME_BEHAVIOR_CLASSNAME" ++ ".prototype."
  prototype ++ placeholder "GETTER_NAME" ++ " = function() \x7b\n" ++
  "    return this._behaviorData." ++ propertyName ++ " !== undefined ? this._behaviorData." ++
  propertyName ++ " : " ++ placeholder "DEFAULT_VALUE" ++ ";\n\x7d;\n" ++
  prototype ++ placeholder "SETTER_NAME" ++ " = function(newValue) \x7b\n" ++
  "    this._behaviorData." ++ propertyName ++ " = newValue;\n\x7d;\n"

def reloadTemplate : String :=
  "    if (oldBehaviorData." ++ propertyName ++ " !== newBehaviorData." ++ propertyName ++ ")\n" ++
  "        this._behaviorData." ++ propertyName ++ " = newBehaviorData." ++ propertyName ++ ";\n"

/-- Hidden properties start from their default; visible ones read the data of the
instance and fall back to the default. -/
def initialization (property : Property) : String :=
  Template.fill (if property.hidden then hiddenTemplate else visibleTemplate) [
    (propertyName, property.name),
    (placeholder "DEFAULT_VALUE", defaultValue property)]

/-- Getter and setter, also for a hidden property. -/
def accessors (codeNamespace className : String) (property : Property) : String :=
  Template.fill accessorsTemplate [
    (placeholder "CODE_NAMESPACE", codeNamespace),
    (placeholder "RUNTIME_BEHAVIOR_CLASSNAME", className),
    (placeholder "GETTER_NAME", Script.getterName property.name),
    (placeholder "SETTER_NAME", Script.setterName property.name),
    (propertyName, property.name),
    (placeholder "DEFAULT_VALUE", defaultValue property)]

/-- Takes over the new value when old and new data differ. -/
def hotReload (property : Property) : String :=
  Template.fill reloadTemplate [(propertyName, property.name)]

def diagnostic? (className : String) (property : Property) : Option Diagnostic :=
  match property.type with
  | .unrecognized type =>
    some (.warning .unrecognizedPropertyType
      ("property `" ++ property.name ++ "` has unrecognized type `" ++ type ++ "`")
      (some (className ++ "." ++ property.name)))
  | _ => none

end GameBundle.PropertyCode
