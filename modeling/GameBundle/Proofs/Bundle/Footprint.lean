import GameBundle.Proofs.Bundle.ResourceExport
import GameBundle.Proofs.Bundle.Stages
import GameBundle.Proofs.Storage.Relations

/-!
# Footprints of the stages

For every stage it is known beforehand which operations on files it can carry out.
Emptying the directories makes and clears these two, exporting resources copies files
directly into the web root, and assembling a bundle writes and copies the files listed
here and no others. What each of these operations keeps is kept by the stage, whether
it succeeds or not.
-/

namespace GameBundle

variable {σ : Type} [Storage σ] {R : σ → σ → Prop} [IsPreorder σ R]

theorem Work.keeps_template (path : Path) : Keeps R (Work.template path : Work σ String) := by
  refine .bind (.look _) fun read => ?_
  cases read with
  | error cause => exact .throw trivial
  | ok text => exact .pure text

theorem Work.copyFound_eq_ok {source target : Path} {code : Code} {message subject : String}
    {session later : Session Memory}
    (ran : (Work.isFile source >>= fun found => if found = true then Work.copy source target
      else Work.warn code message subject).exec session = (.ok (), later)) :
    (session.disk.isFile source = false ∧
        later = { session with diagnostics := session.diagnostics.warn code message subject }) ∨
      ∃ bytes, session.disk.tree.get? (session.disk.place source) = some (.file bytes) ∧
        session.disk.place target ≠ [] ∧
        later = { session with disk := session.disk.put (session.disk.place target) bytes } := by
  rw [Work.isFile, exec_look_bind] at ran
  cases found : session.disk.isFile source with
  | true =>
    rw [if_pos (show Storage.isFile source session.disk = true from found)] at ran
    obtain ⟨bytes, read⟩ := Tree.isFile_iff.mp found
    obtain ⟨copied, reports⟩ := exec_change_eq_ok ran
    obtain ⟨inside, put⟩ := Memory.copy_eq_ok copied read
    refine .inr ⟨bytes, read, inside, ?_⟩
    rw [← put, ← reports]
  | false =>
    rw [if_neg (by simp [show Storage.isFile source session.disk = false from found]), exec_warn,
      Prod.mk.injEq] at ran
    exact .inl ⟨rfl, ran.2.symm⟩

/-- The files that are written into the package of a target, from the bundle. -/
def Target.packageWrites : Target → List String
  | .preview => []
  | .html5 => []
  | .facebookInstantGames => ["fbapp-config.json"]
  | .electron => ["package.json", "main.js"]
  | .cordova => ["config.xml", "package.json"]
  | .cocos2d => ["project.json"]

namespace PackageSource

def copies (source : PackageSource) : List (Path × Path) :=
  match source.profile.target with
  | .preview => []
  | .html5 => []
  | .facebookInstantGames => []
  | .electron => [(source.webRoot / source.project.assetFile "desktop" "icon-512",
      source.directory / "buildResources/icon.png")]
  | .cordova => []
  | .cocos2d => [(source.runtime / "Cocos2d/main.js", source.directory / "main.js"),
      (source.runtime / "Cocos2d/cocos2d-js-v3.10.js", source.directory / "cocos2d-js-v3.10.js")]

variable {source : PackageSource}

theorem keeps_write {file : String}
    (writes : ∀ (text : String) (disk : σ), R disk (Storage.write (source.directory / file) text disk).2)
    (text : String) : Work.Keeps R (source.write file text : Work σ Path) :=
  .bind (Work.keeps_write (writes text)) fun _ => .pure _

theorem keepsAt_copy {origin : Path} {file : String} {session : Session σ}
    (related : R session.disk (Storage.copy origin (source.directory / file) session.disk).2) :
    Work.KeepsAt R (source.copy origin file) session :=
  .bind (Work.keepsAt_copy related) fun _ middle _ => Work.Keeps.pure _ middle

theorem keeps_copyTemplate {template file : String}
    (copies : ∀ disk : σ, Storage.isFile (source.runtime / template) disk = true →
      R disk (Storage.copy (source.runtime / template) (source.directory / file) disk).2) :
    Work.Keeps R (source.copyTemplate template file : Work σ Path) :=
  .isFile (fun session found => keepsAt_copy (copies session.disk found)) (.throw trivial)

theorem keeps_writeManifest
    (writes : ∀ (text : String) (disk : σ),
      R disk (Storage.write (source.directory / "package.json") text disk).2)
    (template : String) : Work.Keeps R (source.writeManifest template : Work σ Path) :=
  .bind (Work.keeps_template _) fun _ => keeps_write writes _

end PackageSource

theorem Desktop.keeps_copyIcon {source : PackageSource}
    (copies : ∀ disk : σ,
      Storage.isFile (source.webRoot / source.project.assetFile "desktop" "icon-512") disk = true →
      R disk (Storage.copy (source.webRoot / source.project.assetFile "desktop" "icon-512")
        (source.directory / "buildResources/icon.png") disk).2) :
    Work.Keeps R (copyIcon source : Work σ (List Path)) := by
  unfold copyIcon
  dsimp only
  split
  · exact .pure _
  · refine .isFile (fun session found => ?_) (.bind (.warn _ _ _) fun _ => .pure _)
    have copied := source.keepsAt_copy (copies session.disk found)
    exact .bind copied fun _ middle _ => Work.Keeps.pure _ middle

theorem PackageSource.keeps_package {source : PackageSource}
    (writes : ∀ file ∈ source.profile.target.packageWrites, ∀ (text : String) (disk : σ),
      R disk (Storage.write (source.directory / file) text disk).2)
    (copies : ∀ copy ∈ source.copies, ∀ disk : σ, Storage.isFile copy.1 disk = true →
      R disk (Storage.copy copy.1 copy.2 disk).2)
    (dirs : ∀ disk : σ, R disk (Storage.createDirs (source.directory / "buildResources") disk).2) :
    Work.Keeps R (source.package : Work σ (List Path)) := by
  unfold package
  unfold PackageSource.copies at copies
  cases target : source.profile.target with
  | preview => exact .pure _
  | html5 => exact .pure _
  | facebookInstantGames =>
    rw [target] at writes
    refine .bind (Work.keeps_template _) fun _ => ?_
    exact .bind (keeps_write (writes _ (by simp [Target.packageWrites])) _) fun _ => .pure _
  | electron =>
    simp only [target, List.forall_mem_singleton] at writes copies
    refine .bind (keeps_writeManifest (writes _ (by simp [Target.packageWrites])) _) fun _ => ?_
    refine .bind (Work.keeps_template _) fun _ => ?_
    refine .bind (keeps_write (writes _ (by simp [Target.packageWrites])) _) fun _ => ?_
    refine .bind (Work.keeps_createDirs dirs) fun _ => ?_
    exact .bind (Desktop.keeps_copyIcon copies) fun _ => .pure _
  | cordova =>
    rw [target] at writes
    refine .bind (.look _) fun _ => .bind (.report _) fun _ => ?_
    refine .bind (Work.keeps_template _) fun _ => ?_
    refine .bind (keeps_write (writes _ (by simp [Target.packageWrites])) _) fun _ => ?_
    refine .bind (keeps_writeManifest (writes _ (by simp [Target.packageWrites])) _) fun _ => ?_
    exact .pure _
  | cocos2d =>
    simp only [target, List.forall_mem_cons] at writes copies
    obtain ⟨main, engine, -⟩ := copies
    refine .bind (keeps_copyTemplate main) fun _ => .bind (keeps_copyTemplate engine) fun _ => ?_
    refine .bind (.look _) fun _ => .bind (.report _) fun _ => ?_
    refine .bind (Work.keeps_template _) fun _ => ?_
    exact .bind (keeps_write (writes _ (by simp [Target.packageWrites])) _) fun _ => .pure _

namespace ResourceExport

theorem keeps_exportFile {source target : Path}
    (copies : ∀ disk : σ, Storage.isFile source disk = true →
      R disk (Storage.copy source target disk).2)
    (name : String) : Work.Keeps R (exportFile name source target : Work σ Unit) := by
  exact .isFile (fun session found => Work.keepsAt_copy (copies session.disk found)) (.warn _ _ _)

theorem keeps_exportFrom {directory destination : Path}
    (copies : ∀ (source : Path) (name : String), Path.IsName name → ∀ disk : σ,
      Storage.isFile source disk = true → R disk (Storage.copy source (destination / name) disk).2)
    (taken : Taken) (resources : List Resource) (session : Session σ) :
    R session.disk ((exportFrom directory destination taken resources).run session).2.disk ∧
      ∀ fault, ((exportFrom directory destination taken resources).run session).1.fault? =
        some fault → fault.IsOfFiles := by
  induction resources generalizing taken session with
  | nil => exact ⟨refl_of R session.disk, fun _ stopped => by cases stopped⟩
  | cons resource rest ih =>
    rw [run_exportFrom_cons]
    split
    · exact ih taken session
    · have kept := keeps_exportFile (copies (directory / resource.file) _
        (isName_exportedName taken (directory / resource.file))) resource.name session
      unfold Work.KeepsAt at kept
      dsimp only
      split
      · rename_i ran
        rw [ran] at kept
        refine ⟨kept.1, fun fault stopped => ?_⟩
        cases stopped
        exact kept.2 _ rfl
      · rename_i ran
        rw [ran] at kept
        obtain ⟨related, ofFiles⟩ := ih _ _
        exact ⟨trans_of R kept.1 related, ofFiles⟩

end ResourceExport

theorem EntryPoint.keeps_render {profile : TargetProfile} {directory : Path}
    (writes : ∀ (text : String) (disk : σ),
      R disk (Storage.write (profile.webRootIn directory / "index.html") text disk).2)
    (runtime : Path) (scripts : List String) :
    Work.Keeps R (render profile runtime directory scripts : Work σ Path) := by
  refine .bind (Work.keeps_template _) fun _ => .bind ?_ fun _ => ?_
  · exact .bind (.look _) fun _ => .bind (.report _) fun _ => .pure _
  · exact .bind (Work.keeps_write (writes _)) fun _ => .pure _

namespace Exporter

theorem target_profile (target : Target) : target.profile.target = target := by
  cases target <;> rfl

theorem keeps_prepare {place : OutputPlace} {webRoot : Path}
    (makes : ∀ path ∈ [place.bundle, place.code, webRoot], ∀ disk : σ,
      R disk (Storage.createDirs path disk).2)
    (clears : ∀ path ∈ [place.bundle, place.code], ∀ disk : σ,
      R disk (Storage.clearDir path disk).2) :
    Work.Keeps R (prepare place webRoot : Work σ Unit) := by
  have empties (path : Path) (member : path ∈ [place.bundle, place.code]) :
      Work.Keeps R (Work.emptyDir path : Work σ Unit) := by
    have listed : path ∈ [place.bundle, place.code, webRoot] :=
      (List.prefix_append [place.bundle, place.code] [webRoot]).subset member
    exact Work.keeps_emptyDir (makes path listed) (clears path member)
  refine .bind (empties _ (by simp)) fun _ => .bind (empties _ (by simp)) fun _ => ?_
  exact Work.keeps_createDirs (makes webRoot (by simp))

theorem keeps_withExportedResources {destination : Path}
    (copies : ∀ (source : Path) (name : String), Path.IsName name → ∀ disk : σ,
      Storage.isFile source disk = true → R disk (Storage.copy source (destination / name) disk).2)
    (project : Project) :
    Work.Keeps R (project.withExportedResources destination : Work σ Project) := by
  intro session
  obtain ⟨related, ofFiles⟩ := ResourceExport.keeps_exportFrom copies [] _ session
  refine .bind ⟨related, fun fault failed => ?_⟩ fun done middle ran => ?_
  · cases failed
  · cases ran
    split
    · rename_i fault stopped
      exact Work.Keeps.throw (R := R) (ofFiles fault stopped) _
    · exact Work.Keeps.pure (R := R) _ _

theorem keeps_exportedProject {request : ExportRequest} {place : OutputPlace}
    (prepared : Work.Keeps R
      (prepare place (request.target.profile.webRootIn place.bundle) : Work σ Unit))
    (copies : ∀ (source : Path) (name : String), Path.IsName name → ∀ disk : σ,
      Storage.isFile source disk = true →
      R disk (Storage.copy source (request.target.profile.webRootIn place.bundle / name) disk).2) :
    Work.Keeps R (exportedProject request place : Work σ Project) :=
  .bind prepared fun _ => .bind (keeps_withExportedResources copies _) fun _ =>
    .bind (.look _) fun _ => .pure _

/-- The files that are written once the resources are exported: generated scripts, the
data, the page, and what the package consists of. -/
def writtenFiles (exporter : Exporter) (request : ExportRequest) (place : OutputPlace)
    (project : Project) : List Path :=
  let profile := request.target.profile
  (GeneratedScript.ofProject exporter.events project place.code (!profile.isPreview)).map
      GeneratedScript.path ++
    [place.code / "data.js", profile.webRootIn place.bundle / "index.html"] ++
    request.target.packageWrites.map (place.bundle / ·)

/-- The files that are copied once the resources are exported if their sources are files:
scripts of the bundle and what the package takes over. -/
def copiedFiles (exporter : Exporter) (request : ExportRequest) (place : OutputPlace)
    (project : Project) : List (Path × Path) :=
  let profile := request.target.profile
  let runtime := exporter.settings.runtimeDirectory
  let includes := exporter.allScripts request place project
  includes.paths.map (fun script => (LoadOrder.source runtime script,
      profile.includesDirIn place.bundle / LoadOrder.bundleName script)) ++
    PackageSource.copies {
      project := shipped project request.layout
      profile
      runtime
      directory := place.bundle
      scripts := LoadOrder.bundleNames includes }

theorem keeps_copyExternal {script : ExternalScript}
    (copies : ∀ disk : σ, R disk (Storage.copy script.source script.target disk).2) :
    Work.Keeps R (copyExternal script : Work σ Unit) := by
  refine .bind (.attempt copies) fun outcome => ?_
  cases outcome with
  | ok done => exact .pure _
  | error cause => exact .warn _ _ _

theorem keeps_materialize {runtime includesDir : Path} {script : String}
    (copies : ∀ disk : σ, Storage.isFile (LoadOrder.source runtime script) disk = true →
      R disk (Storage.copy (LoadOrder.source runtime script)
        (includesDir / LoadOrder.bundleName script) disk).2) :
    Work.Keeps R (materialize runtime includesDir script : Work σ Unit) :=
  .isFile (fun session found => Work.keepsAt_copy (copies session.disk found)) (.warn _ _ _)

theorem keeps_writeGenerated {script : GeneratedScript}
    (writes : ∀ disk : σ, R disk (Storage.write script.path script.code disk).2) :
    Work.Keeps R (writeGenerated script : Work σ Unit) :=
  .bind (Work.keeps_write writes) fun _ => .report _

theorem keeps_packageFiles {source : PackageSource}
    (writes : ∀ file ∈ source.profile.target.packageWrites, ∀ (text : String) (disk : σ),
      R disk (Storage.write (source.directory / file) text disk).2)
    (copies : ∀ copy ∈ source.copies, ∀ disk : σ, Storage.isFile copy.1 disk = true →
      R disk (Storage.copy copy.1 copy.2 disk).2)
    (dirs : ∀ disk : σ, R disk (Storage.createDirs (source.directory / "buildResources") disk).2) :
    Work.Keeps R (packageFiles source : Work σ (List Path)) := by
  unfold packageFiles
  split
  · exact PackageSource.keeps_package writes copies dirs
  · exact .pure _

theorem keeps_assemble {exporter : Exporter} {request : ExportRequest} {place : OutputPlace}
    {project : Project}
    (writes : ∀ file ∈ exporter.writtenFiles request place project, ∀ (text : String) (disk : σ),
      R disk (Storage.write file text disk).2)
    (external : ∀ script ∈ ExternalScript.ofProject project place.code, ∀ disk : σ,
      R disk (Storage.copy script.source script.target disk).2)
    (copies : ∀ copy ∈ exporter.copiedFiles request place project, ∀ disk : σ,
      Storage.isFile copy.1 disk = true → R disk (Storage.copy copy.1 copy.2 disk).2)
    (dirs : ∀ disk : σ, R disk (Storage.createDirs (place.bundle / "buildResources") disk).2) :
    Work.Keeps R (exporter.assemble request place project : Work σ ExportReport) := by
  simp only [writtenFiles, copiedFiles, List.forall_mem_append, List.forall_mem_map,
    List.forall_mem_cons] at writes copies
  obtain ⟨⟨generated, data, page, -⟩, package⟩ := writes
  obtain ⟨scripts, packaged⟩ := copies
  refine .bind (.forM fun script member => keeps_writeGenerated (generated script member _))
    fun _ => ?_
  refine .bind (.forM fun script member => keeps_copyExternal (external script member)) fun _ => ?_
  refine .bind (Work.keeps_write (data _)) fun _ => ?_
  refine .bind (.forM fun script member => keeps_materialize (scripts script member)) fun _ => ?_
  refine .bind (EntryPoint.keeps_render page _ _) fun _ => ?_
  refine .bind (keeps_packageFiles ?_ packaged dirs) fun files => .bind .get fun _ => .pure _
  rw [target_profile]
  exact package

theorem isOfFiles_build {exporter : Exporter} {request : ExportRequest} {place : OutputPlace}
    {session : Session σ} {fault : ExportFault}
    (failed : ((exporter.build request place).exec session).1 = .error fault) :
    fault.IsOfFiles := by
  have : IsPreorder σ fun _ _ => True :=
    { refl := fun _ => trivial, trans := fun _ _ _ _ _ => trivial }
  have exports : Work.Keeps (fun _ _ => True) (exportedProject request place : Work σ Project) :=
    keeps_exportedProject (keeps_prepare (fun _ _ _ => trivial) fun _ _ _ => trivial)
      fun _ _ _ _ _ => trivial
  have builds : Work.Keeps (fun _ _ => True) (exporter.build request place : Work σ ExportReport) :=
    .bind exports fun _ => keeps_assemble (fun _ _ _ _ => trivial) (fun _ _ _ => trivial)
      (fun _ _ _ _ => trivial) fun _ => trivial
  exact (builds session).2 fault failed

end Exporter

open Memory (locate Way Admits Within Toward)

namespace TargetProfile

theorem prefix_webRootIn (target : Target) (home : Place) (directory : Path) :
    locate home directory <+: locate home (target.profile.webRootIn directory) := by
  apply Memory.prefix_locate_join
  cases target <;> decide

end TargetProfile

namespace Exporter

variable {home : Place} {free above : Place → Prop} {last : Memory}

/-- Assembling a bundle is confined when all files may be put where they are listed. Copies
count only when their sources are files in the end. -/
theorem toward_assemble {exporter : Exporter} {request : ExportRequest} {place : OutputPlace}
    {project : Project}
    (writes : ∀ file ∈ exporter.writtenFiles request place project,
      Admits free above (locate home file))
    (external : ∀ script ∈ ExternalScript.ofProject project place.code,
      (last.tree.isFile (locate home script.source) = true → free (locate home script.target)) ∧
        Way free above (locate home script.target).dropLast)
    (copies : ∀ copy ∈ exporter.copiedFiles request place project,
      last.tree.isFile (locate home copy.1) = true → Admits free above (locate home copy.2))
    (dirs : Way free above (locate home (place.bundle / "buildResources"))) :
    Work.Keeps (Toward last home free above) (exporter.assemble request place project) :=
  keeps_assemble (fun file member => Memory.toward_write (writes file member))
    (fun script member => Memory.toward_copy (external script member).1 (external script member).2)
    (fun copy member _ found => Memory.toward_copy_found (copies copy member) found)
    (Memory.toward_createDirs dirs)

end Exporter

end GameBundle
