import GameBundle.Json.Decoder

/-!
# Behaviors

An extension declares behaviors; a behavior is a list of typed properties and a
list of functions made of events. Declaration order is kept everywhere, since
generated code follows it. Events stay opaque documents here.
-/

namespace GameBundle

/-- Types that are not known are kept by name. -/
inductive PropertyType where
  | string
  | number
  | boolean
  | choice
  | unrecognized (name : String)
deriving DecidableEq, Repr

namespace PropertyType

def name : PropertyType → String
  | .string => "String"
  | .number => "Number"
  | .boolean => "Boolean"
  | .choice => "Choice"
  | .unrecognized name => name

def ofName (name : String) : PropertyType :=
  if name = "String" then .string
  else if name = "Number" then .number
  else if name = "Boolean" then .boolean
  else if name = "Choice" then .choice
  else .unrecognized name

def isKnown : PropertyType → Bool
  | .unrecognized _ => false
  | _ => true

theorem name_ofName (text : String) : (ofName text).name = text := by
  unfold ofName
  repeat' split
  all_goals simp_all [name]

end PropertyType

structure Property where
  name : String
  type : PropertyType
  /-- Default value, as text whatever the type. -/
  value : String
  hidden : Bool
deriving DecidableEq, Repr

namespace Property

def toJson (property : Property) : Json :=
  .object [("hidden", .bool property.hidden), ("name", .string property.name),
    ("type", .string property.type.name), ("value", .string property.value)]

def recordType : Json.RecordType Property where
  name := "PropertyDescriptor"
  blank := ⟨"", .string, "", false⟩
  fields := [
    .required "name" .text fun name p => { p with name },
    .required "type" (.map PropertyType.ofName .text) fun type p => { p with type },
    .optional "value" .text fun value p => { p with value },
    .optional "hidden" .bool fun hidden p => { p with hidden }]

end Property

structure EventsFunction where
  name : String
  fullName : String
  events : List Json
deriving DecidableEq

namespace EventsFunction

def toJson (function : EventsFunction) : Json :=
  .object [("events", .array function.events), ("fullName", .string function.fullName),
    ("name", .string function.name)]

def recordType : Json.RecordType EventsFunction where
  name := "EventsFunction"
  blank := ⟨"", "", []⟩
  fields := [
    .required "name" .text fun name f => { f with name },
    .optional "fullName" .text fun fullName f => { f with fullName },
    .optional "events" (.list .value) fun events f => { f with events }]

end EventsFunction

structure Behavior where
  name : String
  fullName : String
  description : String
  properties : List Property
  functions : List EventsFunction
deriving DecidableEq

namespace Behavior

def toJson (behavior : Behavior) : Json :=
  .object [("description", .string behavior.description),
    ("eventsFunctions", .list EventsFunction.toJson behavior.functions),
    ("fullName", .string behavior.fullName), ("name", .string behavior.name),
    ("propertyDescriptors", .list Property.toJson behavior.properties)]

def recordType : Json.RecordType Behavior where
  name := "EventsBasedBehavior"
  blank := ⟨"", "", "", [], []⟩
  fields := [
    .required "name" .text fun name b => { b with name },
    .optional "fullName" .text fun fullName b => { b with fullName },
    .optional "description" .text fun description b => { b with description },
    .optional "propertyDescriptors" (.list Property.recordType.decode)
      fun properties b => { b with properties },
    .optional "eventsFunctions" (.list EventsFunction.recordType.decode)
      fun functions b => { b with functions }]

end Behavior

structure Extension where
  name : String
  fullName : String
  behaviors : List Behavior
deriving DecidableEq

namespace Extension

def behavior? (extension : Extension) (name : String) : Option Behavior :=
  extension.behaviors.find? fun behavior => behavior.name == name

def toJson (extension : Extension) : Json :=
  .object [("eventsBasedBehaviors", .list Behavior.toJson extension.behaviors),
    ("fullName", .string extension.fullName), ("name", .string extension.name)]

def recordType : Json.RecordType Extension where
  name := "EventsFunctionsExtension"
  blank := ⟨"", "", []⟩
  fields := [
    .required "name" .text fun name e => { e with name },
    .optional "fullName" .text fun fullName e => { e with fullName },
    .optional "eventsBasedBehaviors" (.list Behavior.recordType.decode)
      fun behaviors e => { e with behaviors }]

end Extension

end GameBundle
