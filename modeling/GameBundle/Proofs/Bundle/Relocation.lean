import GameBundle.Proofs.Bundle.BlindStages
import GameBundle.Proofs.Bundle.MovedResources
import GameBundle.Proofs.Bundle.Supply

/-!
# Bundles of a project that is moved

Exports of a project from twin directories leave the same files and report the same, up to
where missing files are said to be. Code and data are made from projects that differ in
nothing else than the path of the project file, which events of inline code do not look at
and which is not shipped.
-/

namespace GameBundle

open Memory (Twinned Spares Way Admits locate)
open Work (Tandem Blind)

def Project.movedTo (project : Project) (file : String) : Project :=
  { project with projectFile := file }

/-- With the file of the project at either path, its directory holds the same. -/
abbrev Project.TwinnedAt (project : Project) (home : Place) (here there : String) :
    Memory → Prop :=
  Twinned home (locate home (project.movedTo here).directory)
    (locate home (project.movedTo there).directory)

def ExportRequest.movedTo (request : ExportRequest) (file : String) : ExportRequest :=
  { request with project := request.project.movedTo file }

/-- The report without the places of files that the project names. -/
def ExportReport.unplaced (report : ExportReport) : ExportReport :=
  { report with diagnostics := report.diagnostics.unplaced }

/-- Outcomes of exports that differ in the places of files that the project names. -/
inductive SameUnplaced : Except ExportFault ExportReport → Except ExportFault ExportReport → Prop
  | done {report twin : ExportReport} (same : report.unplaced = twin.unplaced) :
    SameUnplaced (.ok report) (.ok twin)
  | failed (fault : ExportFault) : SameUnplaced (.error fault) (.error fault)
  | strict (target : Target) {one other : Diagnostics} (same : one.unplaced = other.unplaced) :
    SameUnplaced (.error (.strict target one.size (one.texts.headD "")))
      (.error (.strict target other.size (other.texts.headD "")))

/-- Reports that differ in places only get the same verdict. -/
theorem ExportReport.sameUnplaced_verdict {report twin : ExportReport}
    (same : report.unplaced = twin.unplaced) (strict : Bool) :
    SameUnplaced (report.verdict strict) (twin.verdict strict) := by
  have target : report.target = twin.target :=
    show report.unplaced.target = twin.unplaced.target by rw [same]
  have diagnostics : report.diagnostics.unplaced = twin.diagnostics.unplaced :=
    show report.unplaced.diagnostics = twin.unplaced.diagnostics by rw [same]
  have warned : report.diagnostics.hasWarnings = twin.diagnostics.hasWarnings := by
    rw [← Diagnostics.hasWarnings_unplaced, diagnostics, Diagnostics.hasWarnings_unplaced]
  unfold verdict
  rw [warned, target]
  split
  · exact .strict _ diagnostics
  · exact .done same

theorem Project.directory_text_ne (project : Project) : project.directory.text ≠ "" := by
  unfold directory
  split
  · split
    · decide
    · assumption
  · decide

namespace ExternalScript

/-- Scripts copied to the same place, from corresponding places in two directories. -/
structure Twins (home one other : Place) (code : Path) (script twin : ExternalScript) : Prop where
  target : script.target = twin.target
  named : ∃ name, Path.IsName name ∧ script.target = code / name
  source : ∃ rest, locate home script.source = one ++ rest ∧ locate home twin.source = other ++ rest

theorem twins_ofProject (home : Place) (project : Project) (here there : String) (code : Path)
    (inner : ∀ source ∈ project.sourceFiles, Path.isInner source.fileName = true) :
    List.Forall₂ (Twins home (locate home (project.movedTo here).directory)
        (locate home (project.movedTo there).directory) code)
      (ofProject (project.movedTo here) code) (ofProject (project.movedTo there) code) := by
  refine List.rel_filterMap (fun _ _ => id) (List.forall₂_iff_get.mpr ⟨?_, fun index bound _ => ?_⟩)
  · rw [List.length_mapIdx, List.length_mapIdx]
    rfl
  · have bound : index < project.sourceFiles.length := by rwa [List.length_mapIdx] at bound
    have inside := inner _ (List.getElem_mem bound)
    rw [List.get_eq_getElem, List.get_eq_getElem, List.getElem_mapIdx, List.getElem_mapIdx]
    change Option.Rel _ (ofSource? _ code project.sourceFiles[index] index)
      (ofSource? _ code project.sourceFiles[index] index)
    unfold ofSource?
    split
    · exact .some ⟨rfl, ⟨_, isName_file index, rfl⟩, _, Memory.locate_join_inner inside,
        Memory.locate_join_inner inside⟩
    · exact .none

end ExternalScript

namespace Exporter

variable {home one other : Place} {place : OutputPlace}

section

variable (first : Spares (place.Holds home) (place.IsUnder home) one)
  (second : Spares (place.Holds home) (place.IsUnder home) other)

include first second

theorem tandem_createDirs {path : Path} (holds : place.Holds home (locate home path)) :
    Tandem (Twinned home one other) (fun _ _ => Twinned home one other) (Work.createDirs path)
      (Work.createDirs path) :=
  .change (fun _ _ => rfl) fun disk twinned =>
    twinned.of_within (Memory.within_createDirs holds.way disk) first second

theorem tandem_emptyDir {path : Path}
    (holds : ∀ spot, locate home path <+: spot → place.Holds home spot) :
    Tandem (Twinned home one other) (fun _ _ => Twinned home one other) (Work.emptyDir path)
      (Work.emptyDir path) :=
  .bind (tandem_createDirs first second (holds _ List.prefix_rfl)) fun _ _ =>
    .change (fun _ _ => rfl) fun disk twinned =>
      twinned.of_within (Memory.within_clearDir holds disk) first second

theorem tandem_prepare (request : ExportRequest) :
    Tandem (Twinned home one other) (fun _ _ => Twinned home one other)
      (prepare place (request.target.profile.webRootIn place.bundle))
      (prepare place (request.target.profile.webRootIn place.bundle)) :=
  .bind (tandem_emptyDir first second fun _ => .inl) fun _ _ =>
    .bind (tandem_emptyDir first second fun _ => .inr) fun _ _ =>
      tandem_createDirs first second (holds_webRoot request.target)

theorem tandem_writeGenerated {script : GeneratedScript}
    (holds : place.Holds home (locate home script.path)) :
    Tandem (Twinned home one other) (fun _ _ => Twinned home one other) (writeGenerated script)
      (writeGenerated script) :=
  .bind (.change (fun _ _ => rfl) fun disk twinned =>
    twinned.of_within (Memory.within_write holds.admits _ disk) first second) fun _ _ => .report _

theorem tandem_copyExternal {script twin : ExternalScript}
    (twins : script.Twins home one other place.code twin) :
    Tandem (Twinned home one other) (fun _ _ => Twinned home one other) (copyExternal script)
      (copyExternal twin) := by
  obtain ⟨target, ⟨name, isName, named⟩, rest, here, there⟩ := twins
  have holds : place.Holds home (locate home script.target) := by
    rw [named]
    exact OutputPlace.holds_join (Path.isInner_of_isName isName) OutputPlace.holds_code
  have copies : Tandem (Twinned home one other)
      (fun outcome result disk => outcome = result ∧ Twinned home one other disk)
      (Work.attempt (Storage.copy script.source script.target))
      (Work.attempt (Storage.copy twin.source script.target)) :=
    .attempt (fun disk twinned => twinned.copy_eq here there holds.admits.way first second)
      fun disk twinned =>
        twinned.of_within (Memory.within_copy holds.admits script.source disk) first second
  unfold copyExternal
  rw [← target]
  refine copies.bindSame fun outcome => ?_
  cases outcome with
  | ok _ => exact .pure fun _ => id
  | error cause => exact .warnPlaced (.inr rfl) _ _ _

end

theorem splashed_movedTo (profile : TargetProfile) (project : Project) (file : String) :
    splashed profile (project.movedTo file) = (splashed profile project).movedTo file := by
  unfold splashed
  split <;> rfl

theorem splashed_sourceFiles (profile : TargetProfile) (project : Project) :
    (splashed profile project).sourceFiles = project.sourceFiles := by
  unfold splashed
  split <;> rfl

theorem unplaced_reportOf (exporter : Exporter) (request : ExportRequest) (place : OutputPlace)
    (project : Project) (written : List Path) (diagnostics : Diagnostics) :
    (exporter.reportOf request place project written diagnostics).unplaced =
      exporter.reportOf request place project written diagnostics.unplaced := by
  unfold ExportReport.unplaced reportOf
  rfl

section

variable {exporter : Exporter} (inline : exporter.events = .inline) (request : ExportRequest)
  (place : OutputPlace) {project : Project} (here there : String)
  (inner : ∀ source ∈ project.sourceFiles, Path.isInner source.fileName = true)

include inline in
/-- Inline code is compiled alike wherever the project lies. -/
theorem generated_movedTo (directory : Path) (forRuntime : Bool) :
    GeneratedScript.ofProject exporter.events (project.movedTo here) directory forRuntime =
      GeneratedScript.ofProject exporter.events (project.movedTo there) directory forRuntime := by
  rw [inline]
  rfl

include inline inner

theorem scriptsOf_movedTo :
    exporter.scriptsOf request place (project.movedTo here) =
      exporter.scriptsOf request place (project.movedTo there) := by
  have twins := ExternalScript.twins_ofProject [] project here there place.code inner
  have targets : (ExternalScript.ofProject (project.movedTo here) place.code).map (·.target.text) =
      (ExternalScript.ofProject (project.movedTo there) place.code).map (·.target.text) := by
    rw [← List.forall₂_eq_eq_eq, List.forall₂_map_left_iff, List.forall₂_map_right_iff]
    exact twins.imp fun script twin held => congrArg Path.text held.target
  unfold scriptsOf LoadOrder.gathered
  dsimp only
  rw [generated_movedTo inline here there, targets]
  rfl

theorem allScripts_movedTo :
    exporter.allScripts request place (project.movedTo here) =
      exporter.allScripts request place (project.movedTo there) := by
  unfold allScripts
  rw [scriptsOf_movedTo inline request place here there inner]

theorem packageSource_movedTo :
    exporter.packageSource request place (project.movedTo here) =
      exporter.packageSource request place (project.movedTo there) := by
  unfold packageSource
  rw [allScripts_movedTo inline request place here there inner]
  rfl

theorem reportOf_movedTo (written : List Path) (diagnostics : Diagnostics) :
    exporter.reportOf request place (project.movedTo here) written diagnostics =
      exporter.reportOf request place (project.movedTo there) written diagnostics := by
  unfold reportOf
  rw [allScripts_movedTo inline request place here there inner,
    scriptsOf_movedTo inline request place here there inner,
    generated_movedTo inline here there]

theorem tandem_finish :
    Tandem (fun _ => True) (fun one other (_ : Memory) => one.unplaced = other.unplaced)
      (exporter.finish request place (project.movedTo here))
      (exporter.finish request place (project.movedTo there)) := by
  unfold finish
  rw [allScripts_movedTo inline request place here there inner,
    packageSource_movedTo inline request place here there inner]
  refine (EntryPoint.blind_render _ _ _ _).andThen fun page => ?_
  refine (blind_packageFiles _).andThen fun files session twin alongside _ => ?_
  rw [Work.exec_bind_of_ok (Work.exec_get session), Work.exec_bind_of_ok (Work.exec_get twin)]
  refine .ok alongside ?_
  rw [reportOf_movedTo inline request place here there inner, unplaced_reportOf, unplaced_reportOf,
    alongside.reports]

theorem tandem_assemble
    (first : Spares (place.Holds home) (place.IsUnder home)
      (locate home (project.movedTo here).directory))
    (second : Spares (place.Holds home) (place.IsUnder home)
      (locate home (project.movedTo there).directory)) :
    Tandem (project.TwinnedAt home here there) (fun one other _ => one.unplaced = other.unplaced)
      (exporter.assemble request place (project.movedTo here))
      (exporter.assemble request place (project.movedTo there)) := by
  rw [assemble_eq, assemble_eq]
  unfold supply
  simp only [bind_assoc]
  rw [generated_movedTo inline here there, scriptsOf_movedTo inline request place here there inner,
    allScripts_movedTo inline request place here there inner]
  refine .bind (.forMSame fun script member => ?_) fun _ _ => ?_
  · obtain ⟨name, isName, path⟩ := GeneratedScript.exists_isName_path member
    refine tandem_writeGenerated first second ?_
    rw [path]
    exact OutputPlace.holds_join (Path.isInner_of_isName isName) OutputPlace.holds_code
  · refine .bind (.forM (ExternalScript.twins_ofProject home project here there place.code inner)
      fun script twin twins => tandem_copyExternal first second twins) fun _ _ => ?_
    refine (Work.blind_write _ _).andThen fun _ => ?_
    refine (Work.Blind.forM fun script => blind_materialize _ _ script).andThen fun _ => ?_
    exact tandem_finish inline request place here there inner

end

/-- One project with its file at two paths. -/
def IsMoved (here there : String) (sources : List SourceFile) (one other : Project) : Prop :=
  ∃ project : Project, one = project.movedTo here ∧ other = project.movedTo there ∧
    project.sourceFiles = sources

/-- An export to which it is all the same in which of two directories its project lies: they
hold the same, lie apart from the output, and all files are looked for inside. A resource whose
file is the directory itself is exported under the name of the directory. -/
structure Movable (request : ExportRequest) (here there : String) (codeDirectory : Path)
    (disk : Memory) : Prop where
  proper : ∀ name ∈ disk.home, Path.IsName name
  twinned : ∀ rest, disk.tree.get? (disk.place (request.movedTo here).project.directory ++ rest) =
    disk.tree.get? (disk.place (request.movedTo there).project.directory ++ rest)
  apart : ∀ file ∈ [here, there], ∀ output ∈ [request.directory, codeDirectory],
    ¬disk.place (request.movedTo file).project.directory <+: disk.place output ∧
      ¬disk.place output <+: disk.place (request.movedTo file).project.directory
  resources : ∀ resource ∈ request.project.resources.resources, resource.file ≠ "" →
    Path.isInner resource.file = true
  named : ∀ resource ∈ request.project.resources.resources, resource.file ≠ "" →
    (Path.mk resource.file).fileName? ≠ none ∨
      (request.movedTo here).project.directory.fileName? =
        (request.movedTo there).project.directory.fileName?
  sources : ∀ source ∈ request.project.sourceFiles, Path.isInner source.fileName = true

variable {exporter : Exporter} {request : ExportRequest} {here there : String}
  {codeDirectory : Path} {disk : Memory}

/-- The output directories leave the directory of the project alone. -/
theorem Movable.spares (movable : Movable request here there codeDirectory disk) {file : String}
    (member : file ∈ [here, there]) :
    let place := outputPlace request codeDirectory disk
    Spares (place.Holds disk.home) (place.IsUnder disk.home)
      (locate disk.home (request.movedTo file).project.directory) := by
  intro place rest
  have bundle : locate disk.home place.bundle = disk.place request.directory :=
    Memory.place_absolute movable.proper request.directory
  have code : locate disk.home place.code = disk.place codeDirectory :=
    Memory.place_absolute movable.proper codeDirectory
  have inBundle := movable.apart file member request.directory (by simp)
  have inCode := movable.apart file member codeDirectory (by simp)
  have lies : locate disk.home (request.movedTo file).project.directory <+:
      locate disk.home (request.movedTo file).project.directory ++ rest := List.prefix_append _ _
  constructor
  · rintro (held | held)
    · rw [bundle] at held
      exact (List.prefix_or_prefix_of_prefix lies held).elim inBundle.1 inBundle.2
    · rw [code] at held
      exact (List.prefix_or_prefix_of_prefix lies held).elim inCode.1 inCode.2
  · rintro (under | under)
    · rw [bundle] at under
      exact inBundle.1 (lies.trans under)
    · rw [code] at under
      exact inCode.1 (lies.trans under)

theorem tandem_withExportedResources {webRoot : Path} {project : Project}
    (first : Spares (place.Holds home) (place.IsUnder home)
      (locate home (project.movedTo here).directory))
    (second : Spares (place.Holds home) (place.IsUnder home)
      (locate home (project.movedTo there).directory))
    (inside : place.Holds home (locate home webRoot))
    (inner : ∀ resource ∈ project.resources.resources, resource.file ≠ "" →
      Path.isInner resource.file = true)
    (named : ∀ resource ∈ project.resources.resources, resource.file ≠ "" →
      (Path.mk resource.file).fileName? ≠ none ∨
        (project.movedTo here).directory.fileName? = (project.movedTo there).directory.fileName?) :
    Tandem (project.TwinnedAt home here there)
      (fun one other disk => IsMoved here there project.sourceFiles one other ∧
        project.TwinnedAt home here there disk)
      ((project.movedTo here).withExportedResources webRoot)
      ((project.movedTo there).withExportedResources webRoot) := by
  have unused : ResourceExport.Relative [] := nofun
  have exports : Tandem (project.TwinnedAt home here there)
      (fun done twinDone disk => done = twinDone ∧
        (done.fault? = none → project.TwinnedAt home here there disk))
      (liftM ((project.movedTo here).exportedResources webRoot : StateM _ _))
      (liftM ((project.movedTo there).exportedResources webRoot : StateM _ _)) :=
    .lift fun session twin alongside twinned => ResourceExport.alongside_exportFrom
      (project.movedTo here).directory_text_ne (project.movedTo there).directory_text_ne first second
      (fun name isName =>
        (OutputPlace.holds_join (Path.isInner_of_isName isName) inside).admits)
      project.resources.resources inner named unused alongside twinned
  refine exports.bindSame fun done => ?_
  cases fault : done.fault? with
  | some cause => exact .throw _
  | none =>
    exact .pure fun disk kept =>
      ⟨⟨{ project with resources := ⟨done.resources⟩ }, rfl, rfl, rfl⟩, kept rfl⟩

theorem tandem_projectWithResources {webRoot : Path} (project : Project)
    (first : Spares (place.Holds home) (place.IsUnder home)
      (locate home (project.movedTo here).directory))
    (second : Spares (place.Holds home) (place.IsUnder home)
      (locate home (project.movedTo there).directory))
    (inside : place.Holds home (locate home webRoot))
    (inner : ∀ resource ∈ project.resources.resources, resource.file ≠ "" →
      Path.isInner resource.file = true)
    (named : ∀ resource ∈ project.resources.resources, resource.file ≠ "" →
      (Path.mk resource.file).fileName? ≠ none ∨
        (project.movedTo here).directory.fileName? = (project.movedTo there).directory.fileName?) :
    Tandem (project.TwinnedAt home here there)
      (fun one other disk => IsMoved here there project.sourceFiles one other ∧
        project.TwinnedAt home here there disk)
      (projectWithResources (project.movedTo here) webRoot)
      (projectWithResources (project.movedTo there) webRoot) := by
  refine .bind (tandem_withExportedResources first second inside inner named) ?_
  intro one other session twin alongside held
  obtain ⟨⟨exported, rfl, rfl, sources⟩, twinned⟩ := held
  refine Tandem.look (fun _ _ => rfl) (fun resources => .pure fun disk kept => ?_) session twin
    alongside twinned
  exact ⟨⟨{ exported with resources }, rfl, rfl, sources⟩, kept⟩

theorem assemble_movedTo (exporter : Exporter) (request : ExportRequest) (file : String)
    (place : OutputPlace) (project : Project) :
    (exporter.assemble (request.movedTo file) place project : Work Memory ExportReport) =
      exporter.assemble request place project := rfl

/-- Code and data are made from projects that differ in the path of the project file only. -/
theorem tandem_build (inline : exporter.events = .inline)
    (movable : Movable request here there codeDirectory disk) :
    let place := outputPlace request codeDirectory disk
    Tandem (request.project.TwinnedAt disk.home here there)
      (fun one other _ => one.unplaced = other.unplaced)
      (exporter.build (request.movedTo here) place) (exporter.build (request.movedTo there) place) := by
  intro place
  have first : Spares (place.Holds disk.home) (place.IsUnder disk.home)
      (locate disk.home (request.movedTo here).project.directory) := movable.spares (by simp)
  have second : Spares (place.Holds disk.home) (place.IsUnder disk.home)
      (locate disk.home (request.movedTo there).project.directory) := movable.spares (by simp)
  have resources : Tandem (request.project.TwinnedAt disk.home here there)
      (fun one other disk' => IsMoved here there request.project.sourceFiles one other ∧
        request.project.TwinnedAt disk.home here there disk')
      (projectWithResources (splashed request.target.profile (request.project.movedTo here))
        (request.target.profile.webRootIn place.bundle))
      (projectWithResources (splashed request.target.profile (request.project.movedTo there))
        (request.target.profile.webRootIn place.bundle)) := by
    rw [splashed_movedTo, splashed_movedTo, ← splashed_sourceFiles request.target.profile]
    refine tandem_projectWithResources (splashed request.target.profile request.project) first second
      (holds_webRoot request.target) ?_ ?_
    · rw [splashed_resources]
      exact movable.resources
    · rw [splashed_resources]
      exact movable.named
  have exported : Tandem (request.project.TwinnedAt disk.home here there)
      (fun one other disk' => IsMoved here there request.project.sourceFiles one other ∧
        request.project.TwinnedAt disk.home here there disk')
      (exportedProject (request.movedTo here) place)
      (exportedProject (request.movedTo there) place) :=
    .bind (tandem_prepare first second request) fun _ _ => resources
  unfold build
  refine exported.bind fun one other session twin alongside held => ?_
  obtain ⟨⟨project, rfl, rfl, sources⟩, twinned⟩ := held
  have inner : ∀ source ∈ project.sourceFiles, Path.isInner source.fileName = true := by
    rw [sources]
    exact movable.sources
  rw [assemble_movedTo, assemble_movedTo]
  exact tandem_assemble inline request place here there inner first second session twin alongside
    twinned

/-- Where a project lies does not change its bundle: exports from twin directories leave the same
files and differ only in where they report files of the project missing. -/
theorem exportWith_moved (inline : exporter.events = .inline)
    (movable : Movable request here there codeDirectory disk) :
    (exporter.exportWith (request.movedTo here) codeDirectory disk).2 =
        (exporter.exportWith (request.movedTo there) codeDirectory disk).2 ∧
      SameUnplaced (exporter.exportWith (request.movedTo here) codeDirectory disk).1
        (exporter.exportWith (request.movedTo there) codeDirectory disk).1 := by
  have meets := tandem_build inline movable ⟨disk, .empty⟩ ⟨disk, .empty⟩ ⟨rfl, rfl⟩
    ⟨rfl, movable.twinned⟩
  change Work.Meets _ ((exporter.build (request.movedTo here)
    (outputPlace (request.movedTo here) codeDirectory disk)).start disk)
    ((exporter.build (request.movedTo there)
      (outputPlace (request.movedTo there) codeDirectory disk)).start disk) at meets
  unfold exportWith
  generalize (exporter.build (request.movedTo here) _).start disk = one at meets
  generalize (exporter.build (request.movedTo there) _).start disk = other at meets
  cases meets with
  | ok alongside same => exact ⟨alongside.disk, ExportReport.sameUnplaced_verdict same _⟩
  | error fault alongside => exact ⟨alongside.disk, .failed fault⟩

/-- A web export of a picture that is found and one that is missing. -/
def pairRequest : ExportRequest :=
  { heroRequest with
    project := { heroRequest.project with
      resources := ⟨[⟨"hero", .image, "hero.png"⟩, ⟨"lost", .image, "lost.png"⟩]⟩ } }

/-- Two directories with the first picture in each, and a runtime that holds an empty page. -/
def pairDisk : Memory where
  tree := ⟨[(["rt", "Runtime", "index.html"], .file .empty), (["rt", "Runtime"], .directory),
    (["rt"], .directory), (["one", "hero.png"], .file ⟨#[137, 80]⟩), (["one"], .directory),
    (["two", "hero.png"], .file ⟨#[137, 80]⟩), (["two"], .directory)]⟩
  home := ["cwd"]
  denied := []

theorem pair_movable :
    Movable pairRequest "/one/game.json" "/two/game.json" ⟨"/out/code"⟩ pairDisk where
  proper := by decide
  twinned rest := by
    have one : pairDisk.place (pairRequest.movedTo "/one/game.json").project.directory = ["one"] :=
      rfl
    have two : pairDisk.place (pairRequest.movedTo "/two/game.json").project.directory = ["two"] :=
      rfl
    rw [one, two]
    simp [pairDisk, Tree.get?, List.lookup_cons]
  apart := by decide +kernel
  resources := by decide +kernel
  named := by decide +kernel
  sources := by decide

theorem pair_moved :
    lone.events = .inline ∧
    Movable pairRequest "/one/game.json" "/two/game.json" ⟨"/out/code"⟩ pairDisk ∧
    (lone.exportWith (pairRequest.movedTo "/one/game.json") ⟨"/out/code"⟩ pairDisk).2 =
        (lone.exportWith (pairRequest.movedTo "/two/game.json") ⟨"/out/code"⟩ pairDisk).2 ∧
      SameUnplaced
        (lone.exportWith (pairRequest.movedTo "/one/game.json") ⟨"/out/code"⟩ pairDisk).1
        (lone.exportWith (pairRequest.movedTo "/two/game.json") ⟨"/out/code"⟩ pairDisk).1 :=
  ⟨rfl, pair_movable, exportWith_moved rfl pair_movable⟩

end Exporter

end GameBundle
