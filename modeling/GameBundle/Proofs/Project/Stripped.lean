import Mathlib.Data.List.Forall2
import Mathlib.Tactic.MkIffOfInductiveProp
import GameBundle.Bundle.DataScript
import GameBundle.Project.Stripped

/-!
# What stripping forgets

Two projects are stripped to the same project just when they differ in code alone: in the path
of the project file, the events and object groups of layouts, the shared events, and the events
of behavior functions. So nothing of the code of a game can be told from the document that is
shipped, and nothing but code is left out of it.
-/

namespace GameBundle

theorem map_eq_map_iff_forall₂ {α β : Type} {f : α → β} {same : α → α → Prop}
    (kernel : ∀ a b, f a = f b ↔ same a b) {first second : List α} :
    first.map f = second.map f ↔ List.Forall₂ same first second := by
  have images : same = fun a b => f a = f b := by
    funext a b
    exact propext (kernel a b).symm
  rw [← List.forall₂_eq_eq_eq, List.forall₂_map_left_iff, List.forall₂_map_right_iff, images]

/-- Layouts that differ in nothing but their events and object groups. -/
@[mk_iff]
structure Layout.SameData (first second : Layout) : Prop where
  name : first.name = second.name
  objects : first.objects = second.objects
  layers : first.layers = second.layers

/-- Shared events that differ in nothing but their events. -/
@[mk_iff]
structure ExternalEvents.SameData (first second : ExternalEvents) : Prop where
  name : first.name = second.name
  associatedLayout : first.associatedLayout = second.associatedLayout

@[mk_iff]
structure EventsFunction.SameData (first second : EventsFunction) : Prop where
  name : first.name = second.name
  fullName : first.fullName = second.fullName

/-- Behaviors that differ in nothing but the events of their functions. -/
@[mk_iff]
structure Behavior.SameData (first second : Behavior) : Prop where
  name : first.name = second.name
  fullName : first.fullName = second.fullName
  description : first.description = second.description
  properties : first.properties = second.properties
  functions : List.Forall₂ EventsFunction.SameData first.functions second.functions

/-- Extensions that differ in nothing but the events of the functions of their behaviors. -/
@[mk_iff]
structure Extension.SameData (first second : Extension) : Prop where
  name : first.name = second.name
  fullName : first.fullName = second.fullName
  behaviors : List.Forall₂ Behavior.SameData first.behaviors second.behaviors

/-- Projects that differ in nothing but code and the path of the project file. -/
@[mk_iff]
structure Project.SameData (first second : Project) : Prop where
  name : first.name = second.name
  author : first.author = second.author
  version : first.version = second.version
  packageName : first.packageName = second.packageName
  orientation : first.orientation = second.orientation
  gameResolutionWidth : first.gameResolutionWidth = second.gameResolutionWidth
  gameResolutionHeight : first.gameResolutionHeight = second.gameResolutionHeight
  firstLayout : first.firstLayout = second.firstLayout
  adMobAppId : first.adMobAppId = second.adMobAppId
  loadingScreen : first.loadingScreen = second.loadingScreen
  layouts : List.Forall₂ Layout.SameData first.layouts second.layouts
  externalLayouts : first.externalLayouts = second.externalLayouts
  externalEvents : List.Forall₂ ExternalEvents.SameData first.externalEvents second.externalEvents
  extensions : List.Forall₂ Extension.SameData first.extensions second.extensions
  resources : first.resources = second.resources
  platformAssets : first.platformAssets = second.platformAssets
  sourceFiles : first.sourceFiles = second.sourceFiles

theorem Layout.stripped_eq_iff (first second : Layout) :
    first.stripped = second.stripped ↔ first.SameData second := by
  cases first; cases second
  simp [stripped, sameData_iff]

theorem ExternalEvents.stripped_eq_iff (first second : ExternalEvents) :
    first.stripped = second.stripped ↔ first.SameData second := by
  cases first; cases second
  simp [stripped, sameData_iff]

theorem EventsFunction.stripped_eq_iff (first second : EventsFunction) :
    first.stripped = second.stripped ↔ first.SameData second := by
  cases first; cases second
  simp [stripped, sameData_iff]

theorem Behavior.stripped_eq_iff (first second : Behavior) :
    first.stripped = second.stripped ↔ first.SameData second := by
  cases first; cases second
  simp [stripped, sameData_iff, map_eq_map_iff_forall₂ EventsFunction.stripped_eq_iff]

theorem Extension.stripped_eq_iff (first second : Extension) :
    first.stripped = second.stripped ↔ first.SameData second := by
  cases first; cases second
  simp [stripped, sameData_iff, map_eq_map_iff_forall₂ Behavior.stripped_eq_iff]

namespace Project

theorem stripped_eq_iff (first second : Project) :
    first.stripped = second.stripped ↔ first.SameData second := by
  cases first; cases second
  simp [stripped, sameData_iff, map_eq_map_iff_forall₂ Layout.stripped_eq_iff,
    map_eq_map_iff_forall₂ ExternalEvents.stripped_eq_iff,
    map_eq_map_iff_forall₂ Extension.stripped_eq_iff]

end Project

theorem forall₂_map_self {α : Type} {same : α → α → Prop} {f : α → α} (kept : ∀ a, same a (f a))
    (values : List α) : List.Forall₂ same values (values.map f) :=
  List.forall₂_map_right_iff.mpr (List.forall₂_same.mpr fun a _ => kept a)

theorem Layout.sameData_stripped (layout : Layout) : layout.SameData layout.stripped :=
  ⟨rfl, rfl, rfl⟩

theorem ExternalEvents.sameData_stripped (shared : ExternalEvents) :
    shared.SameData shared.stripped :=
  ⟨rfl, rfl⟩

theorem EventsFunction.sameData_stripped (function : EventsFunction) :
    function.SameData function.stripped :=
  ⟨rfl, rfl⟩

theorem Behavior.sameData_stripped (behavior : Behavior) : behavior.SameData behavior.stripped :=
  ⟨rfl, rfl, rfl, rfl, forall₂_map_self EventsFunction.sameData_stripped _⟩

theorem Extension.sameData_stripped (extension : Extension) :
    extension.SameData extension.stripped :=
  ⟨rfl, rfl, forall₂_map_self Behavior.sameData_stripped _⟩

namespace Project

/-- A project without code and without the path of a project file. -/
structure Bare (project : Project) : Prop where
  projectFile : project.projectFile = ""
  layouts : ∀ layout ∈ project.layouts, layout.events = [] ∧ layout.objectGroups = []
  externalEvents : ∀ shared ∈ project.externalEvents, shared.events = []
  functions : ∀ extension ∈ project.extensions, ∀ behavior ∈ extension.behaviors,
    ∀ function ∈ behavior.functions, function.events = []

theorem sameData_stripped (project : Project) : project.SameData project.stripped where
  name := rfl
  author := rfl
  version := rfl
  packageName := rfl
  orientation := rfl
  gameResolutionWidth := rfl
  gameResolutionHeight := rfl
  firstLayout := rfl
  adMobAppId := rfl
  loadingScreen := rfl
  layouts := forall₂_map_self Layout.sameData_stripped _
  externalLayouts := rfl
  externalEvents := forall₂_map_self ExternalEvents.sameData_stripped _
  extensions := forall₂_map_self Extension.sameData_stripped _
  resources := rfl
  platformAssets := rfl
  sourceFiles := rfl

theorem bare_stripped (project : Project) : project.stripped.Bare where
  projectFile := rfl
  layouts := by simp [stripped, Layout.stripped]
  externalEvents := by simp [stripped, ExternalEvents.stripped]
  functions := by
    simp [stripped, Extension.stripped, Behavior.stripped, EventsFunction.stripped]

/-- The game finds the layouts of its project, without their code. -/
theorem layout?_stripped (project : Project) (name : String) :
    project.stripped.layout? name = (project.layout? name).map Layout.stripped := by
  unfold layout? stripped
  rw [List.find?_map]
  rfl

theorem extension?_stripped (project : Project) (name : String) :
    project.stripped.extension? name = (project.extension? name).map Extension.stripped := by
  unfold extension? stripped
  rw [List.find?_map]
  rfl

/-- Stripping forgets the code of a project and nothing else: projects have the same stripped
form just when they differ in code alone, which differs from the project in code alone, has no
code, and is its own stripped form. -/
theorem stripped_forgets_code (first second : Project) :
    (first.stripped = second.stripped ↔ first.SameData second) ∧
      (first.SameData second →
        ∀ options, dataScript first.stripped options = dataScript second.stripped options) ∧
      first.SameData first.stripped ∧
      first.stripped.Bare ∧
      first.stripped.stripped = first.stripped := by
  have again : first.stripped = first.stripped.stripped :=
    (stripped_eq_iff first first.stripped).mpr first.sameData_stripped
  refine ⟨stripped_eq_iff first second, fun same options => ?_, first.sameData_stripped,
    first.bare_stripped, again.symm⟩
  rw [(stripped_eq_iff first second).mpr same]

end Project

end GameBundle
