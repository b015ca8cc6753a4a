import GameBundle.Proofs.Json.Record
import GameBundle.Project.Basic

/-!
# Records of a project

Every record of a project document is taken in the form in which it is written. Texts and
switches always are. What has to be said of a record is that its lists are taken back, that its
numbers are small, and that no kind is written under a name that stands for another.
-/

namespace GameBundle

open Json

namespace LayerEffect

theorem faithful : recordType.Faithful toJson 0 fun _ _ => True where
  blank _ := trivial
  keeps _ := .skip id (.skip id .nil)
  covers := RecordType.covers_of_blank (fun _ => rfl) (by decide)
  stores _ := ⟨_, rfl, .cons rfl rfl (.cons rfl rfl .nil)⟩

end LayerEffect

namespace Layer

theorem faithful : recordType.Faithful toJson 2 fun setting layer =>
    (Decoder.list LayerEffect.recordType.decode).Reads (.list LayerEffect.toJson) setting
      layer.effects where
  blank free := Decoder.list_reads_nil (Nat.le_of_succ_le free)
  keeps free := .skip id (.cons (fun taken _ =>
    Decoder.list_stable LayerEffect.faithful.stable free taken) .nil)
  covers := RecordType.covers_of_blank (fun _ => rfl) (by decide)
  stores effects := ⟨_, rfl, .cons rfl (Field.store_of_reads effects _) (.cons rfl rfl .nil)⟩

end Layer

namespace ObjectGroup

theorem faithful : recordType.Faithful toJson 1 fun setting group =>
    (Decoder.list .text).Reads .strings setting group.objects where
  blank free := Decoder.list_reads_nil free
  keeps free := .skip id (.cons (fun taken _ =>
    Decoder.list_stable Decoder.text_stable free taken) .nil)
  covers := RecordType.covers_of_blank (fun _ => rfl) (by decide)
  stores objects := ⟨_, rfl, .cons rfl rfl (.cons rfl (Field.store_of_reads objects _) .nil)⟩

end ObjectGroup

namespace Layout

/-- The lists of a layout are taken back. -/
structure Holds (setting : Setting) (layout : Layout) : Prop where
  objects : (Decoder.list .value).Reads .array setting layout.objects
  objectGroups : (Decoder.list ObjectGroup.recordType.decode).Reads (.list ObjectGroup.toJson)
    setting layout.objectGroups
  layers : (Decoder.list Layer.recordType.decode).Reads (.list Layer.toJson) setting layout.layers
  events : (Decoder.list .value).Reads .array setting layout.events

theorem faithful : recordType.Faithful toJson 4 Holds where
  blank free := by
    have one : 1 ≤ _ := Nat.le_trans (by decide) free
    exact ⟨Decoder.values_reads_nil one, Decoder.list_reads_nil one,
      Decoder.list_reads_nil one, Decoder.values_reads_nil one⟩
  keeps {setting} free := by
    have one : 1 ≤ setting.room := Nat.le_trans (by decide) free
    have three : 3 ≤ setting.room := Nat.le_trans (by decide) free
    exact .skip (fun held => { held with })
      (.cons (fun taken held => { held with objects := Decoder.values_stable one taken })
      (.cons (fun taken held => { held with
        objectGroups := Decoder.list_stable ObjectGroup.faithful.stable three taken })
      (.cons (fun taken held => { held with
        layers := Decoder.list_stable Layer.faithful.stable free taken })
      (.cons (fun taken held => { held with events := Decoder.values_stable one taken }) .nil))))
  covers := RecordType.covers_of_blank (fun _ => rfl) (by decide)
  stores held := ⟨_, rfl, .cons rfl (Field.store_of_reads held.events _)
    (.cons rfl (Field.store_of_reads held.layers _)
    (.cons rfl rfl
    (.cons rfl (Field.store_of_reads held.objectGroups _)
    (.cons rfl (Field.store_of_reads held.objects _) .nil))))⟩

end Layout

namespace ExternalLayout

theorem faithful : recordType.Faithful toJson 1 fun setting layout =>
    (Decoder.list .value).Reads .array setting layout.instances where
  blank free := Decoder.values_reads_nil free
  keeps free := .skip id (.skip id (.cons (fun taken _ =>
    Decoder.values_stable free taken) .nil))
  covers := RecordType.covers_of_blank (fun _ => rfl) (by decide)
  stores instances := ⟨_, rfl,
    .cons rfl rfl (.cons rfl (Field.store_of_reads instances _) (.cons rfl rfl .nil))⟩

end ExternalLayout

namespace ExternalEvents

theorem faithful : recordType.Faithful toJson 1 fun setting shared =>
    (Decoder.list .value).Reads .array setting shared.events where
  blank free := Decoder.values_reads_nil free
  keeps free := .skip id (.skip id (.cons (fun taken _ =>
    Decoder.values_stable free taken) .nil))
  covers := RecordType.covers_of_blank (fun _ => rfl) (by decide)
  stores events := ⟨_, rfl,
    .cons rfl rfl (.cons rfl (Field.store_of_reads events _) (.cons rfl rfl .nil))⟩

end ExternalEvents

namespace Property

theorem type_stable : Decoder.Stable 0 (.map PropertyType.ofName .text) fun type =>
    .string type.name :=
  Decoder.map_stable PropertyType.name_ofName Decoder.text_stable

theorem faithful : recordType.Faithful toJson 0 fun setting property =>
    (Decoder.map PropertyType.ofName .text).Reads (fun type => .string type.name) setting
      property.type where
  blank _ := rfl
  keeps free := .skip id (.cons (fun taken _ => type_stable free taken) (.skip id (.skip id .nil)))
  covers := RecordType.covers_of_blank (fun _ => rfl) (by decide)
  stores type := ⟨_, rfl,
    .cons rfl rfl (.cons rfl rfl (.cons rfl (Field.store_of_reads type _) (.cons rfl rfl .nil)))⟩

end Property

namespace EventsFunction

theorem faithful : recordType.Faithful toJson 1 fun setting function =>
    (Decoder.list .value).Reads .array setting function.events where
  blank free := Decoder.values_reads_nil free
  keeps free := .skip id (.skip id (.cons (fun taken _ =>
    Decoder.values_stable free taken) .nil))
  covers := RecordType.covers_of_blank (fun _ => rfl) (by decide)
  stores events := ⟨_, rfl,
    .cons rfl (Field.store_of_reads events _) (.cons rfl rfl (.cons rfl rfl .nil))⟩

end EventsFunction

namespace Behavior

/-- The lists of a behavior are taken back. -/
structure Holds (setting : Setting) (behavior : Behavior) : Prop where
  properties : (Decoder.list Property.recordType.decode).Reads (.list Property.toJson) setting
    behavior.properties
  functions : (Decoder.list EventsFunction.recordType.decode).Reads (.list EventsFunction.toJson)
    setting behavior.functions

theorem faithful : recordType.Faithful toJson 3 Holds where
  blank {setting} free := by
    have one : 1 ≤ setting.room := Nat.le_trans (by decide) free
    exact ⟨Decoder.list_reads_nil one, Decoder.list_reads_nil one⟩
  keeps {setting} free := by
    have two : 2 ≤ setting.room := Nat.le_of_succ_le free
    exact .skip (fun held => { held with }) (.skip (fun held => { held with })
      (.skip (fun held => { held with })
      (.cons (fun taken held => { held with
        properties := Decoder.list_stable Property.faithful.stable two taken })
      (.cons (fun taken held => { held with
        functions := Decoder.list_stable EventsFunction.faithful.stable free taken }) .nil))))
  covers := RecordType.covers_of_blank (fun _ => rfl) (by decide)
  stores held := ⟨_, rfl, .cons rfl rfl (.cons rfl (Field.store_of_reads held.functions _)
    (.cons rfl rfl (.cons rfl rfl (.cons rfl (Field.store_of_reads held.properties _) .nil))))⟩

end Behavior

namespace Extension

theorem faithful : recordType.Faithful toJson 5 fun setting extension =>
    (Decoder.list Behavior.recordType.decode).Reads (.list Behavior.toJson) setting
      extension.behaviors where
  blank free := Decoder.list_reads_nil (Nat.le_trans (by decide) free)
  keeps free := .skip id (.skip id (.cons (fun taken _ =>
    Decoder.list_stable Behavior.faithful.stable free taken) .nil))
  covers := RecordType.covers_of_blank (fun _ => rfl) (by decide)
  stores behaviors := ⟨_, rfl,
    .cons rfl (Field.store_of_reads behaviors _) (.cons rfl rfl (.cons rfl rfl .nil))⟩

end Extension

namespace Resource

theorem kind_stable : Decoder.Stable 0 (.map ResourceKind.ofName .text) fun kind =>
    .string kind.name :=
  Decoder.map_stable ResourceKind.name_ofName Decoder.text_stable

theorem faithful : recordType.Faithful toJson 0 fun setting resource =>
    (Decoder.map ResourceKind.ofName .text).Reads (fun kind => .string kind.name) setting
      resource.kind where
  blank _ := rfl
  keeps free := .skip id (.cons (fun taken _ => kind_stable free taken) (.skip id .nil))
  covers := RecordType.covers_of_blank (fun _ => rfl) (by decide)
  stores kind := ⟨_, rfl,
    .cons rfl rfl (.cons rfl (Field.store_of_reads kind _) (.cons rfl rfl .nil))⟩

end Resource

namespace ResourceTable

theorem faithful : recordType.Faithful toJson 2 fun setting table =>
    (Decoder.list Resource.recordType.decode).Reads (.list Resource.toJson) setting
      table.resources where
  blank free := Decoder.list_reads_nil (Nat.le_of_succ_le free)
  keeps free := .cons (fun taken _ => Decoder.list_stable Resource.faithful.stable free taken) .nil
  covers := RecordType.covers_of_blank (fun _ => rfl) (by decide)
  stores resources := ⟨_, rfl, .cons rfl (Field.store_of_reads resources _) .nil⟩

end ResourceTable

namespace PlatformAssets

theorem reads_empty {setting : Setting} (free : 1 ≤ setting.room) :
    decode.Reads toJson setting empty := by
  obtain ⟨inner, opened, -⟩ := Setting.enter_of_pos free
  show (setting.enter >>= fun _ => pure []) >>= (fun names => pure (PlatformAssets.mk names)) = _
  rw [opened]
  rfl

theorem stable : Decoder.Stable 2 decode toJson :=
  Decoder.map_stable (fun _ => rfl)
    (Decoder.dictionary_stable (Decoder.dictionary_stable Decoder.text_stable))

end PlatformAssets

namespace LoadingScreen

theorem faithful : recordType.Faithful toJson 0 fun _ _ => True where
  blank _ := trivial
  keeps _ := .skip id .nil
  covers := RecordType.covers_of_blank (fun _ => rfl) (by decide)
  stores _ := ⟨_, rfl, .cons rfl rfl .nil⟩

end LoadingScreen

namespace SourceFile

theorem faithful : recordType.Faithful toJson 0 fun _ _ => True where
  blank _ := trivial
  keeps _ := .skip id (.skip id .nil)
  covers := RecordType.covers_of_blank (fun _ => rfl) (by decide)
  stores _ := ⟨_, rfl, .cons rfl rfl (.cons rfl rfl .nil)⟩

end SourceFile

namespace Project

/-- The numbers of a project are small, and its parts are taken back. -/
structure Holds (setting : Setting) (project : Project) : Prop where
  gameResolutionWidth : project.gameResolutionWidth < Nat.pow 2 32
  gameResolutionHeight : project.gameResolutionHeight < Nat.pow 2 32
  loadingScreen : LoadingScreen.recordType.decode.Reads LoadingScreen.toJson setting
    project.loadingScreen
  layouts : (Decoder.list Layout.recordType.decode).Reads (.list Layout.toJson) setting
    project.layouts
  externalLayouts : (Decoder.list ExternalLayout.recordType.decode).Reads
    (.list ExternalLayout.toJson) setting project.externalLayouts
  externalEvents : (Decoder.list ExternalEvents.recordType.decode).Reads
    (.list ExternalEvents.toJson) setting project.externalEvents
  extensions : (Decoder.list Extension.recordType.decode).Reads (.list Extension.toJson) setting
    project.extensions
  resources : ResourceTable.recordType.decode.Reads ResourceTable.toJson setting project.resources
  platformAssets : PlatformAssets.decode.Reads PlatformAssets.toJson setting project.platformAssets
  sourceFiles : (Decoder.list SourceFile.recordType.decode).Reads (.list SourceFile.toJson) setting
    project.sourceFiles

theorem holds_blank {setting : Setting} (free : 7 ≤ setting.room) : Holds setting (blank "") := by
  have one : 1 ≤ setting.room := Nat.le_trans (by decide) free
  have more : 1 < setting.room := Nat.le_trans (by decide) free
  obtain ⟨inner, opened, room⟩ := Setting.enter_of_pos more
  exact {
    gameResolutionWidth := by decide
    gameResolutionHeight := by decide
    loadingScreen := LoadingScreen.faithful.reads opened trivial
    layouts := Decoder.list_reads_nil one
    externalLayouts := Decoder.list_reads_nil one
    externalEvents := Decoder.list_reads_nil one
    extensions := Decoder.list_reads_nil one
    resources := ResourceTable.faithful.reads opened (Decoder.list_reads_nil room)
    platformAssets := PlatformAssets.reads_empty one
    sourceFiles := Decoder.list_reads_nil one }

theorem keeps {setting : Setting} (free : 7 ≤ setting.room) :
    Field.AllKeep recordType.fields setting (Holds setting) := by
  have room {less : Nat} (le : less ≤ 7) : less ≤ setting.room := Nat.le_trans le free
  exact .skip (fun held => { held with }) (.skip (fun held => { held with })
    (.skip (fun held => { held with }) (.skip (fun held => { held with })
    (.skip (fun held => { held with })
    (.cons (fun taken held => { held with gameResolutionWidth := Decoder.lt_of_unsigned taken })
    (.cons (fun taken held => { held with gameResolutionHeight := Decoder.lt_of_unsigned taken })
    (.skip (fun held => { held with }) (.skip (fun held => { held with })
    (.skip (fun held => { held with })
    (.cons (fun taken held => { held with
      loadingScreen := LoadingScreen.faithful.stable (room (by decide)) taken })
    (.cons (fun taken held => { held with
      layouts := Decoder.list_stable Layout.faithful.stable (room (by decide)) taken })
    (.cons (fun taken held => { held with
      externalLayouts :=
        Decoder.list_stable ExternalLayout.faithful.stable (room (by decide)) taken })
    (.cons (fun taken held => { held with
      externalEvents :=
        Decoder.list_stable ExternalEvents.faithful.stable (room (by decide)) taken })
    (.cons (fun taken held => { held with
      extensions := Decoder.list_stable Extension.faithful.stable free taken })
    (.cons (fun taken held => { held with
      resources := ResourceTable.faithful.stable (room (by decide)) taken })
    (.cons (fun taken held => { held with
      platformAssets := PlatformAssets.stable (room (by decide)) taken })
    (.cons (fun taken held => { held with
      sourceFiles := Decoder.list_stable SourceFile.faithful.stable (room (by decide)) taken })
    .nil)))))))))))))))))

theorem covers (project : Project) : recordType.Covers project.toJson.keys := by
  by_cases unsaved : project.projectFile = ""
  · have same : project.toJson.keys = (blank "").toJson.keys := by
      simp [toJson, keys, unsaved, blank]
    rw [same]
    decide
  · have same : project.toJson.keys =
        (toJson { blank "" with projectFile := "game.json" }).keys := by
      simp [toJson, keys, unsaved]
    rw [same]
    decide

theorem stores_projectFile {setting : Setting} (path : String) (record : Project)
    (unsaved : record.projectFile = "") :
    recordType.Stores setting (if path = "" then [] else [("projectFile", .string path)]) record
      { record with projectFile := path } := by
  split
  · rename_i none
    have same : { record with projectFile := path } = record := by
      rw [none, ← unsaved]
    rw [same]
    exact .nil
  · exact .cons rfl rfl .nil

theorem faithful : recordType.Faithful toJson 7 Holds where
  blank := holds_blank
  keeps := keeps
  covers := covers
  stores {inner project} held := by
    -- what the members in front of the project file make of the blank record
    let stored : Project :=
      { project with projectFile := "", resources := .empty, sourceFiles := [], version := "1.0.0" }
    have width := Decoder.unsigned_reads held.gameResolutionWidth inner
    have height := Decoder.unsigned_reads held.gameResolutionHeight inner
    refine ⟨_, rfl,
      .append (.append ?_ (stores_projectFile project.projectFile stored rfl)) ?_⟩
    · exact .cons rfl rfl (.cons rfl rfl
        (.cons rfl (Field.store_of_reads held.extensions _)
        (.cons rfl (Field.store_of_reads held.externalEvents _)
        (.cons rfl (Field.store_of_reads held.externalLayouts _)
        (.cons rfl rfl
        (.cons rfl (Field.store_of_reads height _)
        (.cons rfl (Field.store_of_reads width _)
        (.cons rfl (Field.store_of_reads held.layouts _)
        (.cons rfl (Field.store_of_reads held.loadingScreen _)
        (.cons rfl rfl (.cons rfl rfl (.cons rfl rfl
        (.cons rfl (Field.store_of_reads held.platformAssets _) .nil)))))))))))))
    · exact .cons rfl (Field.store_of_reads held.resources _)
        (.cons rfl (Field.store_of_reads held.sourceFiles _) (.cons rfl rfl .nil))

end Project

end GameBundle
