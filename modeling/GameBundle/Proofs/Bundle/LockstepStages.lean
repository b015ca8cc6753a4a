import GameBundle.Bundle.Inputs
import GameBundle.Proofs.Bundle.Footprint
import GameBundle.Proofs.Bundle.Lockstep

/-!
# Stages in lockstep

For every stage it is known beforehand which files it looks at. When two states of the
files agree on these and on the places that the stage changes, it runs in lockstep in
both: the outcome and the reports are the same, and the files agree afterwards.
-/

namespace GameBundle

open Memory (locate Way Admits Agree)

variable {home : Place} {shared above : Place → Prop}

namespace Work

/-- A step that runs in lockstep beside itself takes no report back. -/
theorem reports_grow {α : Type} {work : Work Memory α} {session later : Session Memory}
    {outcome : Except ExportFault α}
    (steady : Steady (Agree session.disk.home (fun _ => True) fun _ => True) work)
    (ran : work.exec session = (outcome, later)) :
    session.diagnostics.items <+: later.diagnostics.items :=
  steady.grows ran (.self session.disk)

theorem steady_write {path : Path} (admits : Admits shared above (locate home path))
    (text : String) : Steady (Agree home shared above) (write path text) :=
  .change fun _ _ agree => agree.write admits text

theorem steady_template {path : Path} (inside : shared (locate home path)) :
    Steady (Agree home shared above) (template path) := by
  refine .look (fun x y agree => ?_) fun read => ?_
  · rw [show Storage.readText path x = Storage.readText path y from agree.readText_eq inside]
  · refine Lockstep.narrow ?_ fun _ _ known => known.1
    cases read with
    | ok text => exact .pure text
    | error cause => exact .throw _

theorem steady_createDirs {path : Path} (way : Way shared above (locate home path)) :
    Steady (Agree home shared above) (createDirs path) :=
  .change fun _ _ agree => (agree.createDirs way).mono
    (fun _ _ _ held => held.mono (fun _ => .inl) fun _ => .inr) fun _ _ => id

theorem steady_copy {source target : Path} (inside : shared (locate home source))
    (admits : Admits shared above (locate home target)) :
    Steady (Agree home shared above) (copy source target) :=
  .change fun _ _ agree => agree.copy inside admits

theorem steady_found {α : Type} {path : Path} {found missing : Work Memory α}
    (inside : shared (locate home path))
    (there : locate home path ≠ [] → Steady (Agree home shared above) found)
    (absent : Steady (Agree home shared above) missing) :
    Steady (Agree home shared above)
      (isFile path >>= fun held => if held = true then found else missing) := by
  refine .isFile (fun x y agree => agree.isFile_eq inside) ?_ absent
  by_cases root : locate home path = []
  · intro start one other abreast
    have held : one.disk.isFile path = true := abreast.files.2
    rw [Memory.isFile, (abreast.files.1.place_eq path).1, root] at held
    cases held
  · exact (there root).narrow fun _ _ known => known.1

end Work

open Work (Steady Lockstep)

namespace PackageSource

variable {source : PackageSource}

theorem steady_write {file : String}
    (admits : Admits shared above (locate home (source.directory / file))) (text : String) :
    Steady (Agree home shared above) (source.write file text) :=
  .bind (Work.steady_write admits text) fun _ => .pure _

theorem steady_copy {origin : Path} {file : String} (inside : shared (locate home origin))
    (admits : Admits shared above (locate home (source.directory / file))) :
    Steady (Agree home shared above) (source.copy origin file) :=
  .bind (Work.steady_copy inside admits) fun _ => .pure _

theorem steady_copyTemplate {template file : String}
    (inside : shared (locate home (source.runtime / template)))
    (admits : locate home (source.runtime / template) ≠ [] →
      Admits shared above (locate home (source.directory / file))) :
    Steady (Agree home shared above) (source.copyTemplate template file) :=
  Work.steady_found inside (fun apart => steady_copy inside (admits apart)) (.throw _)

theorem steady_writeManifest {template : String}
    (inside : shared (locate home (source.runtime / template)))
    (admits : Admits shared above (locate home (source.directory / "package.json"))) :
    Steady (Agree home shared above) (source.writeManifest template) :=
  .bind (Work.steady_template inside) fun _ => steady_write admits _

def icons (source : PackageSource) : List String :=
  (Mobile.androidIcons.map Prod.fst).filterMap (Mobile.iconPath? source "android") ++
    Mobile.iosIcons.filterMap (Mobile.iconPath? source "ios")

def lookedFor (source : PackageSource) : List Path :=
  match source.profile.target with
  | .preview => []
  | .html5 => []
  | .facebookInstantGames => []
  | .electron => [source.webRoot / source.project.assetFile "desktop" "icon-512"]
  | .cordova => source.icons.map (source.directory / ·)
  | .cocos2d => source.scripts.map fun script => source.directory / Native.scriptPath source script

end PackageSource

theorem Desktop.steady_copyIcon {source : PackageSource}
    (inside : shared (locate home (source.webRoot / source.project.assetFile "desktop" "icon-512")))
    (admits : locate home (source.webRoot / source.project.assetFile "desktop" "icon-512") ≠ [] →
      Admits shared above (locate home (source.directory / "buildResources/icon.png"))) :
    Steady (Agree home shared above) (copyIcon source) := by
  unfold copyIcon
  dsimp only
  split
  · exact .pure _
  · refine Work.steady_found inside (fun apart => ?_) (.bind (.warn _ _ _) fun _ => .pure _)
    exact .bind (source.steady_copy inside (admits apart)) fun _ => .pure _

theorem Mobile.missingIcons_congr {source : PackageSource} {one other : Memory}
    (same : ∀ path ∈ source.icons,
      one.isFile (source.directory / path) = other.isFile (source.directory / path)) :
    missingIcons source one = missingIcons source other := by
  have missing {platform size : String}
      (listed : ∀ path, iconPath? source platform size = some path → path ∈ source.icons) :
      missingIcon? source platform one size = missingIcon? source platform other size := by
    unfold missingIcon?
    cases icon : iconPath? source platform size with
    | none => rfl
    | some path =>
      have equal : Storage.isFile (source.directory / path) one =
          Storage.isFile (source.directory / path) other := same path (listed path icon)
      simp only [equal]
  have android : ∀ size ∈ androidIcons.map Prod.fst,
      missingIcon? source "android" one size = missingIcon? source "android" other size := by
    intro size member
    refine missing fun path icon => ?_
    unfold PackageSource.icons
    exact List.mem_append_left _ (List.mem_filterMap.mpr ⟨size, member, icon⟩)
  have ios : ∀ size ∈ iosIcons,
      missingIcon? source "ios" one size = missingIcon? source "ios" other size := by
    intro size member
    refine missing fun path icon => ?_
    unfold PackageSource.icons
    exact List.mem_append_right _ (List.mem_filterMap.mpr ⟨size, member, icon⟩)
  unfold missingIcons
  rw [List.filterMap_congr android, List.filterMap_congr ios]

/-- A list is parted alike by tests that agree on it. -/
private theorem partition_congr {α : Type} {items : List α} {p q : α → Bool}
    (same : ∀ item ∈ items, p item = q item) : items.partition p = items.partition q := by
  rw [List.partition_eq_filter_filter, List.partition_eq_filter_filter, List.filter_congr same]
  congr 1
  apply List.filter_congr
  intro item member
  simp [same item member]

namespace PackageSource

variable {source : PackageSource}

/-- Wrapping a bundle runs in lockstep when the states agree on the templates, on what is
looked for and on the files of the package. -/
theorem steady_package
    (templates : ∀ file ∈ source.profile.target.packageTemplates,
      shared (locate home (source.runtime / file)))
    (looked : ∀ path ∈ source.lookedFor, shared (locate home path))
    (writes : ∀ file ∈ source.profile.target.packageWrites,
      Admits shared above (locate home (source.directory / file)))
    (copies : ∀ copy ∈ source.copies, locate home copy.1 ≠ [] →
      Admits shared above (locate home copy.2))
    (dirs : Way shared above (locate home (source.directory / "buildResources"))) :
    Steady (Agree home shared above) source.package := by
  unfold package
  unfold lookedFor at looked
  unfold PackageSource.copies at copies
  cases target : source.profile.target with
  | preview => exact .pure _
  | html5 => exact .pure _
  | facebookInstantGames =>
    rw [target] at templates writes
    refine .bind (Work.steady_template (templates _ (by simp [Target.packageTemplates]))) fun _ => ?_
    exact .bind (steady_write (writes _ (by simp [Target.packageWrites])) _) fun _ => .pure _
  | electron =>
    rw [target] at templates writes
    simp only [target, List.forall_mem_singleton] at looked copies
    refine .bind (steady_writeManifest (templates _ (by simp [Target.packageTemplates]))
      (writes _ (by simp [Target.packageWrites]))) fun _ => ?_
    refine .bind (Work.steady_template (templates _ (by simp [Target.packageTemplates]))) fun _ => ?_
    refine .bind (steady_write (writes _ (by simp [Target.packageWrites])) _) fun _ => ?_
    refine .bind (Work.steady_createDirs dirs) fun _ => ?_
    exact .bind (Desktop.steady_copyIcon looked copies) fun _ => .pure _
  | cordova =>
    rw [target] at templates writes
    simp only [target, List.forall_mem_map] at looked
    refine .look (fun x y agree => ?_) fun _ => Lockstep.narrow ?_ fun _ _ known => known.1
    · rw [Mobile.missingIcons_congr fun path member => agree.isFile_eq (looked path member)]
    refine .bind (.report _) fun _ => ?_
    refine .bind (Work.steady_template (templates _ (by simp [Target.packageTemplates]))) fun _ => ?_
    refine .bind (steady_write (writes _ (by simp [Target.packageWrites])) _) fun _ => ?_
    refine .bind (steady_writeManifest (templates _ (by simp [Target.packageTemplates]))
      (writes _ (by simp [Target.packageWrites]))) fun _ => .pure _
  | cocos2d =>
    rw [target] at templates writes
    simp only [target, List.forall_mem_cons, List.forall_mem_map] at looked copies
    obtain ⟨main, engine, -⟩ := copies
    refine .bind (steady_copyTemplate (templates _ (by simp [Target.packageTemplates])) main) ?_
    refine fun _ => .bind (steady_copyTemplate
      (templates _ (by simp [Target.packageTemplates])) engine) fun _ => ?_
    refine .look (fun x y agree => ?_) fun _ => Lockstep.narrow ?_ fun _ _ known => known.1
    · have parted : (source.scripts.map (Native.scriptPath source)).partition
            (fun path => Storage.isFile (source.directory / path) x) =
          (source.scripts.map (Native.scriptPath source)).partition
            (fun path => Storage.isFile (source.directory / path) y) := by
        apply partition_congr
        intro path member
        obtain ⟨script, listed, rfl⟩ := List.mem_map.mp member
        exact agree.isFile_eq (looked script listed)
      dsimp only
      rw [parted]
    refine .bind (.report _) fun _ => ?_
    refine .bind (Work.steady_template (templates _ (by simp [Target.packageTemplates]))) fun _ => ?_
    exact .bind (steady_write (writes _ (by simp [Target.packageWrites])) _) fun _ => .pure _

end PackageSource

namespace ResourceExport

variable {directory destination : Path}

theorem steady_exportFile {source target : Path} (inside : shared (locate home source))
    (admits : Admits shared above (locate home target)) (name : String) :
    Steady (Agree home shared above) (exportFile name source target) :=
  Work.steady_found inside (fun _ => Work.steady_copy inside admits) (.warn _ _ _)

/-- Exporting resources runs in lockstep when the states agree on their files and on what
lies directly in the destination. -/
theorem abreast_exportFrom {resources : List Resource}
    (inside : ∀ resource ∈ resources, resource.file ≠ "" →
      shared (locate home (directory / resource.file)))
    (admits : ∀ name, Path.IsName name → Admits shared above (locate home (destination / name)))
    (taken : Taken) {start : Diagnostics} {one other : Session Memory}
    (abreast : Session.Abreast (Agree home shared above) start one other) :
    ((exportFrom directory destination taken resources).run one).1 =
        ((exportFrom directory destination taken resources).run other).1 ∧
      Session.Abreast (Agree home shared above) start
        ((exportFrom directory destination taken resources).run one).2
        ((exportFrom directory destination taken resources).run other).2 := by
  induction resources generalizing taken one other with
  | nil => exact ⟨rfl, abreast⟩
  | cons resource rest ih =>
    rw [List.forall_mem_cons] at inside
    rw [run_exportFrom_cons, run_exportFrom_cons]
    by_cases blank : resource.file = ""
    · obtain ⟨same, later⟩ := ih inside.2 taken abreast
      simp only [blank, if_true]
      exact ⟨congrArg (·.after resource) same, later⟩
    · have step := steady_exportFile (inside.1 blank)
        (admits _ (isName_exportedName taken (directory / resource.file))) resource.name start one
        other abreast
      simp only [blank, if_false]
      generalize Work.exec _ one = here at step
      generalize Work.exec _ other = there at step
      cases step with
      | error fault held => exact ⟨rfl, held⟩
      | ok done held =>
        obtain ⟨same, later⟩ := ih inside.2 (takeName taken (directory / resource.file)
          (exportedName taken (directory / resource.file))) held
        exact ⟨congrArg (·.after { resource with
          file := exportedName taken (directory / resource.file) }) same, later⟩

end ResourceExport

namespace EntryPoint

theorem steady_complete {directory : Path} {scripts : List String}
    (looked : ∀ script ∈ scripts, (Path.mk script).isAbsolute = false →
      shared (locate home (directory / script)))
    (template spec : String) :
    Steady (Agree home shared above) (complete template directory scripts spec) := by
  refine .look (fun x y agree => ?_) fun _ => Lockstep.narrow ?_ fun _ _ known => known.1
  · have parted : scripts.partition (isLoadable directory x) =
        scripts.partition (isLoadable directory y) := by
      apply partition_congr
      intro script member
      unfold isLoadable
      cases absolute : (Path.mk script).isAbsolute with
      | true => rw [Bool.true_or, Bool.true_or]
      | false => exact congrArg (false || ·) (agree.isFile_eq (looked script member absolute))
    dsimp only
    rw [parted]
  · exact .bind (.report _) fun _ => .pure _

theorem steady_render {profile : TargetProfile} {runtime directory : Path} {scripts : List String}
    (template : shared (locate home (runtime / profile.indexTemplate)))
    (looked : ∀ script ∈ (if profile.indexIncludes then scripts else []),
      (Path.mk script).isAbsolute = false →
        shared (locate home (profile.webRootIn directory / script)))
    (admits : Admits shared above (locate home (profile.webRootIn directory / "index.html"))) :
    Steady (Agree home shared above) (render profile runtime directory scripts) :=
  .bind (Work.steady_template template) fun _ => .bind (steady_complete looked _ _) fun _ =>
    .bind (Work.steady_write admits _) fun _ => .pure _

end EntryPoint

namespace Exporter

def listedScripts (exporter : Exporter) (request : ExportRequest) (place : OutputPlace)
    (project : Project) : List String :=
  if request.target.profile.indexIncludes then
    (LoadOrder.bundleNames (exporter.allScripts request place project)).map
      (LoadOrder.listedName request.target.profile.includesDir)
  else []

/-- The files that are looked at once the resources are exported: templates, scripts that are
copied, scripts that the entry point lists, and what the package looks for. -/
def lookedAt (exporter : Exporter) (request : ExportRequest) (place : OutputPlace)
    (project : Project) : List Path :=
  let profile := request.target.profile
  exporter.templateInputs request.target ++
    (ExternalScript.ofProject project place.code).map ExternalScript.source ++
    (exporter.allScripts request place project).paths.map
      (LoadOrder.source exporter.settings.runtimeDirectory) ++
    ((exporter.listedScripts request place project).filter fun script =>
      !(Path.mk script).isAbsolute).map (profile.webRootIn place.bundle / ·) ++
    (exporter.packageSource request place project).lookedFor

theorem steady_copyExternal {script : ExternalScript} (inside : shared (locate home script.source))
    (admits : Admits shared above (locate home script.target)) :
    Steady (Agree home shared above) (copyExternal script) := by
  refine .bind (.attempt fun x y agree => agree.copy inside admits) fun outcome => ?_
  cases outcome with
  | ok done => exact .pure _
  | error cause => exact .warn _ _ _

theorem steady_writeGenerated {script : GeneratedScript}
    (admits : Admits shared above (locate home script.path)) :
    Steady (Agree home shared above) (writeGenerated script) :=
  .bind (Work.steady_write admits _) fun _ => .report _

theorem steady_materialize {runtime includesDir : Path} {script : String}
    (inside : shared (locate home (LoadOrder.source runtime script)))
    (admits : locate home (LoadOrder.source runtime script) ≠ [] →
      Admits shared above (locate home (includesDir / LoadOrder.bundleName script))) :
    Steady (Agree home shared above) (materialize runtime includesDir script) :=
  Work.steady_found inside (fun apart => Work.steady_copy inside (admits apart)) (.warn _ _ _)

theorem steady_packageFiles {source : PackageSource}
    (templates : ∀ file ∈ source.profile.target.packageTemplates,
      shared (locate home (source.runtime / file)))
    (looked : ∀ path ∈ source.lookedFor, shared (locate home path))
    (writes : ∀ file ∈ source.profile.target.packageWrites,
      Admits shared above (locate home (source.directory / file)))
    (copies : ∀ copy ∈ source.copies, locate home copy.1 ≠ [] →
      Admits shared above (locate home copy.2))
    (dirs : Way shared above (locate home (source.directory / "buildResources"))) :
    Steady (Agree home shared above) (packageFiles source) := by
  unfold packageFiles
  split
  · exact PackageSource.steady_package templates looked writes copies dirs
  · exact .pure _

/-- Assembling a bundle runs in lockstep when the states agree on what is looked at and on
where files are put. -/
theorem steady_assemble {exporter : Exporter} {request : ExportRequest} {place : OutputPlace}
    {project : Project}
    (looked : ∀ path ∈ exporter.lookedAt request place project, shared (locate home path))
    (writes : ∀ file ∈ exporter.writtenFiles request place project,
      Admits shared above (locate home file))
    (external : ∀ script ∈ ExternalScript.ofProject project place.code,
      Admits shared above (locate home script.target))
    (copies : ∀ copy ∈ exporter.copiedFiles request place project, locate home copy.1 ≠ [] →
      Admits shared above (locate home copy.2))
    (dirs : Way shared above (locate home (place.bundle / "buildResources"))) :
    Steady (Agree home shared above) (exporter.assemble request place project) := by
  simp only [lookedAt, writtenFiles, copiedFiles, templateInputs, List.map_cons,
    List.forall_mem_append, List.forall_mem_map, List.forall_mem_cons] at looked writes copies
  obtain ⟨⟨⟨⟨⟨template, templates⟩, origins⟩, sources⟩, listed⟩, lookedFor⟩ := looked
  obtain ⟨⟨generated, data, page, -⟩, package⟩ := writes
  obtain ⟨scripts, packaged⟩ := copies
  refine .bind (.forM fun script member => steady_writeGenerated (generated script member))
    fun _ => ?_
  refine .bind (.forM fun script member =>
    steady_copyExternal (origins script member) (external script member)) fun _ => ?_
  refine .bind (Work.steady_write data _) fun _ => ?_
  refine .bind (.forM fun script member =>
    steady_materialize (sources script member) (scripts script member)) fun _ => ?_
  refine .bind (EntryPoint.steady_render template ?_ page) fun _ => ?_
  · intro script member relative
    exact listed script (List.mem_filter.mpr ⟨member, by simp [relative]⟩)
  have packages : Steady (Agree home shared above)
      (packageFiles (exporter.packageSource request place project)) := by
    have target : (exporter.packageSource request place project).profile.target =
        request.target := target_profile request.target
    apply steady_packageFiles _ lookedFor _ packaged dirs
    all_goals rw [target]
    · exact templates
    · exact package
  refine .bind packages fun files => .get fun one other same => ?_
  rw [same]

theorem steady_assemble_of_all (all : ∀ spot, shared spot) {exporter : Exporter}
    {request : ExportRequest} {place : OutputPlace} {project : Project} :
    Steady (Agree home shared above) (exporter.assemble request place project) :=
  steady_assemble (fun _ _ => all _) (fun _ _ => Memory.admits_of_all all _)
    (fun _ _ => Memory.admits_of_all all _) (fun _ _ _ => Memory.admits_of_all all _)
    fun other _ => .inl (all other)

end Exporter

end GameBundle
