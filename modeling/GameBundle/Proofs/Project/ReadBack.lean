import GameBundle.Proofs.Json.Printed
import GameBundle.Proofs.Project.Records

/-!
# Reading a project back

A project that was read, from whatever text, is read again from its own document. Only the
numbers inside values without a type matter: integers of 64 bits are printed exactly.
-/

namespace GameBundle

open Json

section Untyped

@[simp] theorem LayerEffect.isIntegral_toJson (effect : LayerEffect) :
    effect.toJson.isIntegral = true := by
  simp [toJson]

@[simp] theorem Layer.isIntegral_toJson (layer : Layer) : layer.toJson.isIntegral = true := by
  simp [toJson]

@[simp] theorem ObjectGroup.isIntegral_toJson (group : ObjectGroup) :
    group.toJson.isIntegral = true := by
  simp [toJson, strings]

@[simp] theorem Property.isIntegral_toJson (property : Property) :
    property.toJson.isIntegral = true := by
  simp [toJson]

@[simp] theorem Resource.isIntegral_toJson (resource : Resource) :
    resource.toJson.isIntegral = true := by
  simp [toJson]

@[simp] theorem ResourceTable.isIntegral_toJson (table : ResourceTable) :
    table.toJson.isIntegral = true := by
  simp [toJson]

@[simp] theorem LoadingScreen.isIntegral_toJson (screen : LoadingScreen) :
    screen.toJson.isIntegral = true := by
  simp [toJson]

@[simp] theorem SourceFile.isIntegral_toJson (source : SourceFile) :
    source.toJson.isIntegral = true := by
  simp [toJson]

@[simp] theorem PlatformAssets.isIntegral_toJson (assets : PlatformAssets) :
    assets.toJson.isIntegral = true := by
  rw [toJson, isIntegral_object, List.forall_mem_map]
  intro platform _
  rw [isIntegral_object, List.forall_mem_map]
  simp

@[simp] theorem ExternalLayout.isIntegral_toJson {layout : ExternalLayout} :
    layout.toJson.isIntegral = true ↔ ∀ value ∈ layout.instances, value.isIntegral = true := by
  simp [toJson]

@[simp] theorem ExternalEvents.isIntegral_toJson {shared : ExternalEvents} :
    shared.toJson.isIntegral = true ↔ ∀ value ∈ shared.events, value.isIntegral = true := by
  simp [toJson]

@[simp] theorem EventsFunction.isIntegral_toJson {function : EventsFunction} :
    function.toJson.isIntegral = true ↔ ∀ value ∈ function.events, value.isIntegral = true := by
  simp [toJson]

def Layout.untypedValues (layout : Layout) : List Json := layout.objects ++ layout.events

@[simp] theorem Layout.isIntegral_toJson {layout : Layout} :
    layout.toJson.isIntegral = true ↔ ∀ value ∈ layout.untypedValues, value.isIntegral = true := by
  simp [toJson, untypedValues, or_imp, forall_and, and_comm]

@[simp] theorem Behavior.isIntegral_toJson {behavior : Behavior} :
    behavior.toJson.isIntegral = true ↔
      ∀ function ∈ behavior.functions, ∀ value ∈ function.events, value.isIntegral = true := by
  simp [toJson]

def Extension.untypedValues (extension : Extension) : List Json :=
  extension.behaviors.flatMap fun behavior => behavior.functions.flatMap EventsFunction.events

@[simp] theorem Extension.isIntegral_toJson {extension : Extension} :
    extension.toJson.isIntegral = true ↔
      ∀ value ∈ extension.untypedValues, value.isIntegral = true := by
  simp only [untypedValues, List.forall_mem_flatMap]
  simp [toJson]

end Untyped

namespace Project

def untypedValues (project : Project) : List Json :=
  project.layouts.flatMap Layout.untypedValues ++
    project.externalLayouts.flatMap ExternalLayout.instances ++
    project.externalEvents.flatMap ExternalEvents.events ++
    project.extensions.flatMap Extension.untypedValues

theorem isIntegral_toJson {project : Project} (width : project.gameResolutionWidth < Nat.pow 2 32)
    (height : project.gameResolutionHeight < Nat.pow 2 32)
    (integral : ∀ value ∈ project.untypedValues, value.isIntegral = true) :
    project.toJson.isIntegral = true := by
  simp only [untypedValues, List.forall_mem_append, List.forall_mem_flatMap] at integral
  obtain ⟨⟨⟨layouts, externalLayouts⟩, externalEvents⟩, extensions⟩ := integral
  have file : ∀ member ∈ if project.projectFile = "" then []
      else [("projectFile", Json.string project.projectFile)], member.2.isIntegral = true := by
    split <;> simp
  simp only [toJson, isIntegral_object, List.forall_mem_append, List.forall_mem_cons]
  simp only [isIntegral_string, isIntegral_list, isIntegral_natural width,
    isIntegral_natural height, LoadingScreen.isIntegral_toJson, ResourceTable.isIntegral_toJson,
    PlatformAssets.isIntegral_toJson, SourceFile.isIntegral_toJson, Layout.isIntegral_toJson,
    Extension.isIntegral_toJson, ExternalLayout.isIntegral_toJson, ExternalEvents.isIntegral_toJson]
  simp only [implies_true, true_and, and_true, List.not_mem_nil, false_imp_iff]
  exact ⟨⟨extensions, externalEvents, externalLayouts, layouts⟩, file⟩

theorem holds_of_parse {text : String} {project : Project} (read : parse text = .ok project) :
    ∃ inner, Setting.ofText.enter = .ok inner ∧ Holds inner project := by
  obtain ⟨draft, taken⟩ := Decoder.exists_of_ofText read
  exact faithful.of_decode (by decide) taken

theorem parse_of_holds {inner : Setting} {project : Project}
    (opened : Setting.ofText.enter = .ok inner) (held : Holds inner project)
    (integral : ∀ value ∈ project.untypedValues, value.isIntegral = true) :
    parse project.text = .ok project := by
  have document := isIntegral_toJson held.gameResolutionWidth held.gameResolutionHeight integral
  unfold parse Project.text
  rw [Decoder.ofText_text _ document]
  exact faithful.reads opened held

/-- A project that was read is read again from its own document. -/
theorem parse_text {text : String} {project : Project} (read : parse text = .ok project)
    (integral : ∀ value ∈ project.untypedValues, value.isIntegral = true) :
    parse project.text = .ok project := by
  obtain ⟨inner, opened, held⟩ := holds_of_parse read
  exact parse_of_holds opened held integral

/-- A document with a layout given as an array, a value that repeats a key, and parts that are
not known. -/
def storedText : String :=
  "\x7b \"name\": \"Caf\\u00e9\",\n" ++
  "\"layouts\": [[\"Main\", [\x7b\"z\": 1, \"a\": [-5], \"z\": \"\\n\"\x7d]]],\n" ++
  "\"resources\": [[[\"f\", \"bitmapFont\", \"f.fnt\"]]],\n" ++
  "\"orientation\": \"portrait\", \"beta\": 1.5 \x7d"

def storedProject : Project :=
  { blank "Café" with
    orientation := "portrait"
    layouts := [{
      name := "Main"
      objects := [.object [("a", .array [.integer (-5)]), ("z", .string "\n")]]
      objectGroups := []
      layers := []
      events := [] }]
    resources := ⟨[⟨"f", .other "bitmapFont", "f.fnt"⟩]⟩ }

theorem parse_storedText : parse storedText = .ok storedProject := by
  have kept : (parse storedText).toOption = some storedProject := by decide +kernel
  cases parsed : parse storedText with
  | error cause => rw [parsed] at kept; cases kept
  | ok project => rw [parsed] at kept; exact congrArg Except.ok (Option.some.inj kept)

theorem stored_parse_text : parse storedText = .ok storedProject ∧
    (∀ value ∈ storedProject.untypedValues, value.isIntegral = true) ∧
    parse storedProject.text = .ok storedProject := by
  have integral : ∀ value ∈ storedProject.untypedValues, value.isIntegral = true := by decide
  exact ⟨parse_storedText, integral, parse_text parse_storedText integral⟩

end Project

end GameBundle
