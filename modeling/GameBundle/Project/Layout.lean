import GameBundle.Json.Decoder

/-!
# Layouts

A layout is a scene of a game: its objects, their groups, its layers with their
effects, and the events that drive it. External layouts and external events belong
to a layout from outside. Objects, instances and events stay opaque documents.
-/

namespace GameBundle

/-- A named group of objects; only events refer to it. -/
structure ObjectGroup where
  name : String
  objects : List String
deriving DecidableEq, Repr

namespace ObjectGroup

def toJson (group : ObjectGroup) : Json :=
  .object [("name", .string group.name), ("objects", .strings group.objects)]

def recordType : Json.RecordType ObjectGroup where
  name := "ObjectGroup"
  blank := ⟨"", []⟩
  fields := [
    .required "name" .text fun name g => { g with name },
    .optional "objects" (.list .text) fun objects g => { g with objects }]

end ObjectGroup

structure LayerEffect where
  name : String
  effectType : String
deriving DecidableEq, Repr

namespace LayerEffect

def toJson (effect : LayerEffect) : Json :=
  .object [("effectType", .string effect.effectType), ("name", .string effect.name)]

def recordType : Json.RecordType LayerEffect where
  name := "LayerEffect"
  blank := ⟨"", ""⟩
  fields := [
    .required "name" .text fun name e => { e with name },
    .required "effectType" .text fun effectType e => { e with effectType }]

end LayerEffect

structure Layer where
  name : String
  effects : List LayerEffect
deriving DecidableEq, Repr

namespace Layer

def toJson (layer : Layer) : Json :=
  .object [("effects", .list LayerEffect.toJson layer.effects), ("name", .string layer.name)]

def recordType : Json.RecordType Layer where
  name := "Layer"
  blank := ⟨"", []⟩
  fields := [
    .required "name" .text fun name l => { l with name },
    .optional "effects" (.list LayerEffect.recordType.decode) fun effects l => { l with effects }]

end Layer

structure Layout where
  name : String
  objects : List Json
  objectGroups : List ObjectGroup
  layers : List Layer
  events : List Json
deriving DecidableEq

namespace Layout

def toJson (layout : Layout) : Json :=
  .object [("events", .array layout.events), ("layers", .list Layer.toJson layout.layers),
    ("name", .string layout.name),
    ("objectGroups", .list ObjectGroup.toJson layout.objectGroups),
    ("objects", .array layout.objects)]

def recordType : Json.RecordType Layout where
  name := "Layout"
  blank := ⟨"", [], [], [], []⟩
  fields := [
    .required "name" .text fun name l => { l with name },
    .optional "objects" (.list .value) fun objects l => { l with objects },
    .optional "objectGroups" (.list ObjectGroup.recordType.decode)
      fun objectGroups l => { l with objectGroups },
    .optional "layers" (.list Layer.recordType.decode) fun layers l => { l with layers },
    .optional "events" (.list .value) fun events l => { l with events }]

end Layout

/-- Instances that can be put into a layout while the game runs. -/
structure ExternalLayout where
  name : String
  associatedLayout : String
  instances : List Json
deriving DecidableEq

namespace ExternalLayout

def toJson (layout : ExternalLayout) : Json :=
  .object [("associatedLayout", .string layout.associatedLayout),
    ("instances", .array layout.instances), ("name", .string layout.name)]

def recordType : Json.RecordType ExternalLayout where
  name := "ExternalLayout"
  blank := ⟨"", "", []⟩
  fields := [
    .required "name" .text fun name l => { l with name },
    .optional "associatedLayout" .text fun associatedLayout l => { l with associatedLayout },
    .optional "instances" (.list .value) fun instances l => { l with instances }]

end ExternalLayout

structure ExternalEvents where
  name : String
  associatedLayout : String
  events : List Json
deriving DecidableEq

namespace ExternalEvents

def toJson (shared : ExternalEvents) : Json :=
  .object [("associatedLayout", .string shared.associatedLayout),
    ("events", .array shared.events), ("name", .string shared.name)]

def recordType : Json.RecordType ExternalEvents where
  name := "ExternalEvents"
  blank := ⟨"", "", []⟩
  fields := [
    .required "name" .text fun name e => { e with name },
    .optional "associatedLayout" .text fun associatedLayout e => { e with associatedLayout },
    .optional "events" (.list .value) fun events e => { e with events }]

end ExternalEvents

end GameBundle
