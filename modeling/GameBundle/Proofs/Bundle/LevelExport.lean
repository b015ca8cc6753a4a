import GameBundle.Proofs.Bundle.ExportedResources

/-!
# Exports without double dots

When no effect and no event asks for a script with double dots, all that an export changes
lies in its output directories, and all that it looks at lies there, in the runtime
directory, or is named by the project.
-/

namespace GameBundle

open Memory (locate Way Admits Agree Orderly)

namespace Path

/-- Whether a text has no double dots between slashes. -/
def isFlat (more : String) : Bool := (splitParts more.toList).all fun part => part != ['.', '.']

theorem isInner_iff {more : String} :
    isInner more = true ↔ (Path.mk more).isAbsolute = false ∧ isFlat more = true := by
  rw [isInner, isFlat, Bool.and_eq_true, Bool.not_eq_true']

theorem isFlat_of_level {more : String} (level : .up ∉ (Path.mk more).components) :
    isFlat more = true := by
  unfold isFlat
  rw [List.all_eq_true]
  intro part member
  rw [bne_iff_ne]
  rintro rfl
  apply level
  rw [components_eq]
  refine List.mem_append_right _ (List.mem_map.mpr ⟨['.', '.'], ?_, rfl⟩)
  exact List.mem_filter.mpr ⟨member, rfl⟩

theorem isInner_of_flat {front more : String} (clean : '/' ∉ front.toList)
    (level : front.toList ≠ ['.', '.']) (solid : front.toList ≠ []) (flat : isFlat more = true) :
    isInner (front ++ "/" ++ more) = true := by
  have parts : splitParts (front ++ "/" ++ more).toList = front.toList :: splitParts more.toList := by
    rw [String.toList_append, String.toList_append, List.append_assoc]
    change splitParts (front.toList ++ '/' :: more.toList) = _
    rw [splitParts_append_slash, splitParts_of_clean clean]
    rfl
  have relative : (Path.mk (front ++ "/" ++ more)).isAbsolute = false := by
    obtain ⟨c, rest, chars⟩ := List.exists_cons_of_ne_nil solid
    rw [chars, List.mem_cons, not_or] at clean
    simp [isAbsolute, String.toList_append, chars, Ne.symm clean.1]
  rw [isInner_iff]
  refine ⟨relative, ?_⟩
  rw [isFlat, parts, List.all_cons, Bool.and_eq_true]
  exact ⟨by simpa using level, flat⟩

/-- An absolute path without double dots and without a file name is that of the root. -/
theorem locate_of_nameless {path : Path} (absolute : path.isAbsolute = true)
    (level : .up ∉ path.components) (nameless : path.fileName? = none) (home : Place) :
    locate home path = [] := by
  have solid : path.solidParts = [] := by
    by_contra inhabited
    have last := List.getLast_mem inhabited
    have named : path.components.getLast? =
        some (Component.ofPart (path.solidParts.getLast inhabited)) := by
      rw [components_eq, List.getLast?_append, List.getLast?_map,
        List.getLast?_eq_some_getLast inhabited]
      rfl
    unfold fileName? at nameless
    rw [named] at nameless
    by_cases up : path.solidParts.getLast inhabited = ['.', '.']
    · apply level
      rw [components_eq]
      exact List.mem_append_right _ (List.mem_map.mpr ⟨_, last, by simp [Component.ofPart, up]⟩)
    · simp [Component.ofPart, up] at nameless
  rw [Memory.locate_eq_solidParts, solid, if_pos absolute]
  rfl

end Path

namespace LoadOrder

theorem bundleName_of_inner {script : String} (inner : Path.isInner script = true) :
    bundleName script = script := by
  rw [bundleName, if_neg (by simp [Path.relative_of_isInner inner])]

theorem prefix_source_of_inner {script : String} (inner : Path.isInner script = true)
    (home : Place) (runtime : Path) :
    locate home runtime <+: locate home (source runtime script) := by
  rw [source, if_neg (by simp [Path.relative_of_isInner inner])]
  exact Memory.prefix_locate_join inner

/-- A script without double dots keeps a flat name in the bundle. Only that of the root is
absolute there. -/
theorem bundleName_of_level {script : String} (level : .up ∉ (Path.mk script).components) :
    Path.isFlat (bundleName script) = true ∧
      ((Path.mk (bundleName script)).isAbsolute = true → ∀ home runtime,
        locate home (source runtime script) = []) := by
  have flat := Path.isFlat_of_level level
  cases absolute : (Path.mk script).isAbsolute with
  | false =>
    have inner := Path.isInner_iff.mpr ⟨absolute, flat⟩
    rw [bundleName_of_inner inner]
    exact ⟨flat, fun rooted => by rw [absolute] at rooted; cases rooted⟩
  | true =>
    unfold bundleName source
    simp only [absolute, if_true]
    cases named : (Path.mk script).fileName? with
    | some name =>
      have inner := Path.isInner_of_isName (Path.isName_of_fileName? named)
      obtain ⟨relative, flat⟩ := Path.isInner_iff.mp inner
      exact ⟨flat, fun rooted => by rw [Option.getD_some, relative] at rooted; cases rooted⟩
    | none =>
      exact ⟨flat, fun _ home _ => Path.locate_of_nameless absolute level named home⟩

end LoadOrder

theorem ResourceTable.fileOf_cases (table : ResourceTable) (name : String) :
    table.fileOf name = "" ∨ ∃ resource ∈ table.resources, table.fileOf name = resource.file := by
  unfold fileOf
  split
  · rename_i resource found
    exact .inr ⟨resource, List.mem_of_find?_eq_some found, rfl⟩
  · exact .inl rfl

theorem Project.NamesFiles.assetFile {project : Project} (named : project.NamesFiles)
    (platform name : String) :
    project.assetFile platform name = "" ∨ Path.IsName (project.assetFile platform name) := by
  unfold Project.assetFile
  rcases project.resources.fileOf_cases (project.platformAssets.resourceName platform name) with
    blank | ⟨resource, listed, same⟩
  · exact .inl blank
  · rw [same]
    exact named resource listed

theorem Mobile.isInner_iconPath {source : PackageSource} (named : source.project.NamesFiles)
    (mobile : source.profile.webRoot = "www") {platform size path : String}
    (entered : iconPath? source platform size = some path) : Path.isInner path = true := by
  unfold iconPath? at entered
  dsimp only at entered
  split at entered
  · cases entered
  · rename_i inhabited
    obtain rfl := Option.some.inj entered
    have isName := (named.assetFile platform (iconName size)).resolve_left inhabited
    rw [mobile]
    exact Path.isInner_of_flat (by decide) (by decide) (by decide)
      (Path.isInner_iff.mp (Path.isInner_of_isName isName)).2

theorem PackageSource.exists_inner_of_mem_lookedFor {source : PackageSource} (target : Target)
    (profile : source.profile = target.profile) (named : source.project.NamesFiles)
    (flat : ∀ script ∈ source.scripts, Path.isFlat script = true) {path : Path}
    (member : path ∈ source.lookedFor) :
    ∃ file, Path.isInner file = true ∧ (path = source.webRoot / file ∨ path = source.directory / file) := by
  unfold lookedFor at member
  rw [profile, Exporter.target_profile] at member
  cases target with
  | preview => cases member
  | html5 => cases member
  | facebookInstantGames => cases member
  | electron =>
    refine ⟨source.project.assetFile "desktop" "icon-512", ?_, .inl (List.mem_singleton.mp member)⟩
    rcases named.assetFile "desktop" "icon-512" with blank | isName
    · rw [blank]
      decide
    · exact Path.isInner_of_isName isName
  | cordova =>
    obtain ⟨file, listed, rfl⟩ := List.mem_map.mp member
    have mobile : source.profile.webRoot = "www" := by rw [profile]; rfl
    refine ⟨file, ?_, .inr rfl⟩
    rcases List.mem_append.mp listed with android | ios
    · obtain ⟨size, -, entered⟩ := List.mem_filterMap.mp android
      exact Mobile.isInner_iconPath named mobile entered
    · obtain ⟨size, -, entered⟩ := List.mem_filterMap.mp ios
      exact Mobile.isInner_iconPath named mobile entered
  | cocos2d =>
    obtain ⟨script, listed, rfl⟩ := List.mem_map.mp member
    have native : source.profile.includesDir = "src" := by rw [profile]; rfl
    refine ⟨Native.scriptPath source script, ?_, .inr rfl⟩
    rw [Native.scriptPath, native]
    exact Path.isInner_of_flat (by decide) (by decide) (by decide) (flat script listed)

namespace Exporter

variable {home : Place} {shared above : Place → Prop} {exporter : Exporter}
  {request : ExportRequest} {place : OutputPlace} {project : Project}

theorem mem_allScripts {script : String}
    (member : script ∈ (exporter.allScripts request place project).paths) :
    Path.isPlain script.toList = true ∨
      script ∈ LoadOrder.requested exporter.events request.target.profile project ∨
      ∃ name, Path.IsName name ∧ script = (place.code / name).text := by
  rcases asked_or_data_of_mem member with asked | data
  · exact LoadOrder.mem_asked asked
  · exact .inr (.inr ⟨"data.js", by decide, data⟩)

/-- No effect and no event asks for a script with double dots. -/
def AsksLevel (exporter : Exporter) (request : ExportRequest) (project : Project) : Prop :=
  ∀ script ∈ LoadOrder.requested exporter.events request.target.profile project,
    .up ∉ (Path.mk script).components

theorem AsksLevel.bundleName (level : exporter.AsksLevel request project)
    (rooted : place.code.isAbsolute = true ∨ place.code.text = "") {script : String}
    (member : script ∈ (exporter.allScripts request place project).paths) :
    Path.isFlat (LoadOrder.bundleName script) = true ∧
      ((Path.mk (LoadOrder.bundleName script)).isAbsolute = true → ∀ home runtime,
        locate home (LoadOrder.source runtime script) = []) := by
  have proper {name : String} (inner : Path.isInner name = true)
      (same : LoadOrder.bundleName script = name) :
      Path.isFlat (LoadOrder.bundleName script) = true ∧
        ((Path.mk (LoadOrder.bundleName script)).isAbsolute = true → ∀ home runtime,
          locate home (LoadOrder.source runtime script) = []) := by
    obtain ⟨relative, flat⟩ := Path.isInner_iff.mp inner
    rw [same]
    exact ⟨flat, fun absolute => by rw [relative] at absolute; cases absolute⟩
  rcases mem_allScripts member with plain | requested | ⟨name, isName, rfl⟩
  · have inner := Path.isInner_of_isPlain plain
    exact proper inner (LoadOrder.bundleName_of_inner inner)
  · exact LoadOrder.bundleName_of_level (level script requested)
  · exact proper (Path.isInner_of_isName isName) (LoadOrder.bundleName_join rooted isName)

/-- Scripts come from the runtime directory or from the directory of code, or have the
absolute path under which they are asked for. -/
theorem AsksLevel.source (level : exporter.AsksLevel request project)
    (rooted : place.code.isAbsolute = true ∨ place.code.text = "") {script : String}
    (member : script ∈ (exporter.allScripts request place project).paths) (runtime : Path) :
    locate home runtime <+: locate home (LoadOrder.source runtime script) ∨
      place.Holds home (locate home (LoadOrder.source runtime script)) ∨
      (script ∈ LoadOrder.requested exporter.events request.target.profile project ∧
        (Path.mk script).isAbsolute = true ∧ LoadOrder.source runtime script = ⟨script⟩) := by
  rcases mem_allScripts member with plain | requested | ⟨name, isName, rfl⟩
  · exact .inl (LoadOrder.prefix_source_of_inner (Path.isInner_of_isPlain plain) home runtime)
  · cases absolute : (Path.mk script).isAbsolute with
    | true => exact .inr (.inr ⟨requested, rfl, if_pos absolute⟩)
    | false =>
      have flat := Path.isFlat_of_level (level script requested)
      exact .inl (LoadOrder.prefix_source_of_inner (Path.isInner_iff.mpr ⟨absolute, flat⟩) home
        runtime)
  · have inner := Path.isInner_of_isName isName
    cases absolute : (place.code / name).isAbsolute with
    | true =>
      rw [LoadOrder.source, if_pos absolute]
      exact .inr (.inl (OutputPlace.holds_join inner OutputPlace.holds_code))
    | false =>
      have same := LoadOrder.bundleName_join rooted isName
      rw [LoadOrder.bundleName, if_neg (by simpa using absolute)] at same
      rw [same]
      exact .inl (LoadOrder.prefix_source_of_inner inner home runtime)

/-- An export whose scripts have no double dots changes nothing but its directories. -/
theorem confined_of_asksLevel {codeDirectory : Path} {disk : Memory}
    (level : ∀ exported session,
      (exportedProject request (outputPlace request codeDirectory disk)).start disk =
        (.ok exported, session) → exporter.AsksLevel request exported) :
    let place := outputPlace request codeDirectory disk
    Memory.Confined (place.Holds disk.home) (place.IsUnder disk.home) disk
      (exporter.exportWith request codeDirectory disk).2 := by
  intro place
  rcases confined_exportWith exporter request codeDirectory disk with
    confined | ⟨exported, session, ran, confined⟩
  · exact confined
  have stays (script : String) : ¬exporter.Escapes request place exported disk.home
      (exporter.exportWith request codeDirectory disk).2 script := by
    intro escapes
    obtain ⟨flat, nameless⟩ :=
      LoadOrder.bundleName_of_level (level exported session ran script escapes.requested)
    have outer := escapes.outer
    rw [← Bool.not_eq_true, Path.isInner_iff, not_and] at outer
    cases absolute : (Path.mk (LoadOrder.bundleName script)).isAbsolute with
    | false => exact outer absolute flat
    | true =>
      have found := escapes.found
      rw [scriptCopy, nameless absolute] at found
      cases found
  refine confined.mono ?_ ?_
  · rintro spot (holds | ⟨script, escapes, -⟩)
    · exact holds
    · exact absurd escapes (stays script)
  · rintro spot (under | ⟨script, escapes, -⟩)
    · exact under
    · exact absurd escapes (stays script)

theorem isInner_templates (target : Target) :
    ∀ file ∈ target.profile.indexTemplate :: target.packageTemplates, Path.isInner file = true := by
  cases target <;> decide

theorem prefix_templateInputs {path : Path} (member : path ∈ exporter.templateInputs request.target) :
    locate home exporter.settings.runtimeDirectory <+: locate home path := by
  obtain ⟨file, listed, rfl⟩ := List.mem_map.mp member
  exact Memory.prefix_locate_join (isInner_templates request.target file listed)

theorem AsksLevel.flat_bundleNames (level : exporter.AsksLevel request project)
    (rooted : place.code.isAbsolute = true ∨ place.code.text = "") :
    ∀ script ∈ LoadOrder.bundleNames (exporter.allScripts request place project),
      Path.isFlat script = true := by
  intro name named
  obtain ⟨script, listed, rfl⟩ := LoadOrder.mem_bundleNames.mp named
  exact (level.bundleName rooted listed).1

/-- The scripts that the entry point looks for lie in the bundle. -/
theorem AsksLevel.holds_listed (level : exporter.AsksLevel request project)
    (rooted : place.code.isAbsolute = true ∨ place.code.text = "") {script : String}
    (member : script ∈ exporter.listedScripts request place project)
    (relative : (Path.mk script).isAbsolute = false) :
    place.Holds home (locate home (request.target.profile.webRootIn place.bundle / script)) := by
  unfold listedScripts at member
  split at member
  · rename_i lists
    have here : request.target.profile.includesDir = "" := by
      revert lists
      cases request.target <;> decide
    obtain ⟨name, named, rfl⟩ := List.mem_map.mp member
    have flat := level.flat_bundleNames rooted name named
    rw [LoadOrder.listedName, if_pos here] at relative ⊢
    exact OutputPlace.holds_join (Path.isInner_iff.mpr ⟨relative, flat⟩) (holds_webRoot _)
  · cases member

/-- Assembling a bundle whose scripts have no double dots looks into the runtime directory and
the output directories, and at the scripts and source files that the project names. -/
theorem AsksLevel.steady_assemble (level : exporter.AsksLevel request project)
    (rooted : place.code.isAbsolute = true ∨ place.code.text = "") (named : project.NamesFiles)
    (runtime : ∀ spot, locate home exporter.settings.runtimeDirectory <+: spot → shared spot)
    (touched : ∀ spot, place.Touches home spot → shared spot)
    (external : ∀ script ∈ ExternalScript.ofProject project place.code,
      shared (locate home script.source))
    (requested : ∀ script ∈ (exporter.allScripts request place project).paths,
      script ∈ LoadOrder.requested exporter.events request.target.profile project →
      (Path.mk script).isAbsolute = true → shared (locate home ⟨script⟩)) :
    Work.Steady (Agree home shared above) (exporter.assemble request place project) := by
  have shares {spot : Place} (holds : place.Holds home spot) : shared spot :=
    touched spot (.inl holds)
  have admits {spot : Place} (holds : place.Holds home spot) : Admits shared above spot :=
    ⟨shares holds, fun other before =>
      .inl (touched other (holds.touches (before.trans (List.dropLast_prefix spot))))⟩
  apply Exporter.steady_assemble
  · simp only [lookedAt, List.forall_mem_append, List.forall_mem_map]
    refine ⟨⟨⟨⟨?_, external⟩, ?_⟩, ?_⟩, ?_⟩
    · exact fun path member => runtime _ (prefix_templateInputs member)
    · intro script member
      rcases level.source rooted member exporter.settings.runtimeDirectory with
        inside | holds | ⟨asked, absolute, same⟩
      · exact runtime _ inside
      · exact shares holds
      · rw [same]
        exact requested script member asked absolute
    · intro script member
      obtain ⟨listed, relative⟩ := List.mem_filter.mp member
      exact shares (level.holds_listed rooted listed (by simpa using relative))
    · intro path member
      obtain ⟨file, inner, rfl | rfl⟩ := PackageSource.exists_inner_of_mem_lookedFor
        request.target rfl named (level.flat_bundleNames rooted) member
      · exact shares (OutputPlace.holds_join inner (holds_webRoot request.target))
      · exact shares (OutputPlace.holds_join inner OutputPlace.holds_bundle)
  · exact fun file member => admits (holds_writtenFiles file member)
  · exact fun script member => admits (holds_external member)
  · simp only [copiedFiles, List.forall_mem_append, List.forall_mem_map]
    refine ⟨fun script member apart => ?_, fun copy member _ => ?_⟩
    · obtain ⟨flat, nameless⟩ := level.bundleName rooted member
      cases absolute : (Path.mk (LoadOrder.bundleName script)).isAbsolute with
      | true => exact absurd (nameless absolute home _) apart
      | false =>
        exact admits (OutputPlace.holds_join (Path.isInner_iff.mpr ⟨absolute, flat⟩)
          (.inl (prefix_includesDirIn request.target home place.bundle)))
    · obtain ⟨file, inner, same⟩ := PackageSource.exists_inner_of_mem_copies member
      rw [same]
      exact admits (OutputPlace.holds_join inner OutputPlace.holds_bundle)
  · exact fun other before => .inl (touched other
      (OutputPlace.Holds.touches (OutputPlace.holds_join (by decide) OutputPlace.holds_bundle) before))

end Exporter

end GameBundle
