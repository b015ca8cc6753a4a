import GameBundle.Bundle.Export
import GameBundle.Proofs.Bundle.Work

/-!
# Stages of a successful export

A successful export has exported its resources and then assembled the bundle. Exporting
resources changes the table of resources only, and the report of an assembled bundle
lists the scripts as the load order names them.
-/

namespace GameBundle

namespace ExportReport

theorem verdict_eq_ok {report result : ExportReport} {strict : Bool}
    (h : report.verdict strict = .ok result) : result = report := by
  unfold verdict at h
  split at h
  · cases h
  · exact (Except.ok.inj h).symm

end ExportReport

namespace Exporter

variable {σ : Type} [Storage σ] {exporter : Exporter} {request : ExportRequest}

/-- A successful export ran both of its parts, and the report is that of the second. -/
theorem exportWith_eq_ok {codeDirectory : Path} {disk after : σ} {report : ExportReport}
    (h : exporter.exportWith request codeDirectory disk = (.ok report, after)) :
    ∃ exported session final,
      (exportedProject request (outputPlace request codeDirectory disk)).start disk =
        (.ok exported, session) ∧
      (exporter.assemble request (outputPlace request codeDirectory disk) exported).exec session =
        (.ok report, final) ∧ final.disk = after := by
  unfold exportWith at h
  rcases ran : (exporter.build request (outputPlace request codeDirectory disk)).start disk with
    ⟨outcome, final⟩
  rw [ran, Prod.mk.injEq] at h
  obtain ⟨judged, last⟩ := h
  cases outcome with
  | error fault => cases judged
  | ok made =>
    obtain rfl := ExportReport.verdict_eq_ok judged
    obtain ⟨exported, session, first, second⟩ := Work.exec_bind_eq_ok ran
    exact ⟨exported, session, final, first, second, last⟩

/-- An export whose parts both succeed is successful when it is not strict. -/
theorem exportWith_of_ok {codeDirectory : Path} {disk : σ} {report : ExportReport}
    {exported : Project} {session final : Session σ}
    (lenient : (request.strict || exporter.settings.strict) = false)
    (first : (exportedProject request (outputPlace request codeDirectory disk)).start disk =
      (.ok exported, session))
    (second : (exporter.assemble request (outputPlace request codeDirectory disk) exported).exec
      session = (.ok report, final)) :
    exporter.exportWith request codeDirectory disk = (.ok report, final.disk) := by
  have ran : (exporter.build request (outputPlace request codeDirectory disk)).start disk =
      (.ok report, final) := (Work.exec_bind_of_ok first).trans second
  unfold exportWith
  rw [ran, lenient]
  rfl

theorem splashed_directory (profile : TargetProfile) (project : Project) :
    (splashed profile project).directory = project.directory := by
  unfold splashed
  split <;> rfl

theorem splashed_resources (profile : TargetProfile) (project : Project) :
    (splashed profile project).resources = project.resources := by
  unfold splashed
  split <;> rfl

/-- A project was exported by emptying the directories, exporting its resources without
fault, and adding the fonts found beside them. -/
theorem exportedProject_eq_ok {place : OutputPlace} {disk : σ} {exported : Project}
    {session : Session σ}
    (h : (exportedProject request place).start disk = (.ok exported, session)) :
    ∃ emptied done,
      (prepare place (request.target.profile.webRootIn place.bundle)).start disk =
        (.ok (), emptied) ∧
      (ResourceExport.exportFrom request.project.directory
          (request.target.profile.webRootIn place.bundle) []
          request.project.resources.resources).run emptied = (done, session) ∧
      done.fault? = none ∧
      exported = { splashed request.target.profile request.project with
        resources := ResourceTable.addFontsIn ⟨done.resources⟩
          (request.target.profile.webRootIn place.bundle) "" session.disk } := by
  obtain ⟨_, emptied, prepared, later⟩ := Work.exec_bind_eq_ok h
  obtain ⟨copied, middle, copying, adding⟩ := Work.exec_bind_eq_ok later
  obtain ⟨done, between, ran, judged⟩ := Work.exec_bind_eq_ok copying
  obtain ⟨fonts, last, looked, made⟩ := Work.exec_bind_eq_ok adding
  rw [Work.exec_lift, Prod.mk.injEq] at ran
  rw [Work.exec_look, Prod.mk.injEq] at looked
  rw [Work.exec_pure, Prod.mk.injEq] at made
  obtain ⟨fetched, rfl⟩ := looked
  obtain ⟨result, rfl⟩ := made
  cases fault : done.fault? with
  | some cause => simp [fault] at judged
  | none =>
    rw [fault, Work.exec_pure, Prod.mk.injEq] at judged
    obtain ⟨table, rfl⟩ := judged
    refine ⟨emptied, done, prepared, ?_, fault, ?_⟩
    · rw [← splashed_directory request.target.profile,
        ← splashed_resources request.target.profile]
      exact Prod.ext (Except.ok.inj ran.1) ran.2
    · rw [← Except.ok.inj result, ← Except.ok.inj fetched, ← Except.ok.inj table]

theorem exportedProject_of_ok {place : OutputPlace} {disk : σ} {emptied session : Session σ}
    {done : ResourceExport}
    (prepared : (prepare place (request.target.profile.webRootIn place.bundle)).start disk =
      (.ok (), emptied))
    (ran : (ResourceExport.exportFrom request.project.directory
        (request.target.profile.webRootIn place.bundle) []
        request.project.resources.resources).run emptied = (done, session))
    (whole : done.fault? = none) :
    (exportedProject request place).start disk =
      (.ok { splashed request.target.profile request.project with
        resources := ResourceTable.addFontsIn ⟨done.resources⟩
          (request.target.profile.webRootIn place.bundle) "" session.disk }, session) := by
  have copied : (Project.withExportedResources (splashed request.target.profile request.project)
      (request.target.profile.webRootIn place.bundle)).exec emptied =
        (.ok { splashed request.target.profile request.project with
          resources := ⟨done.resources⟩ }, session) := by
    have fetched : (liftM (ResourceExport.exportFrom request.project.directory
        (request.target.profile.webRootIn place.bundle) [] request.project.resources.resources :
          StateM (Session σ) ResourceExport) : Work σ ResourceExport).exec emptied =
            (.ok done, session) := by
      rw [Work.exec_lift, ran]
    unfold Project.withExportedResources Project.exportedResources
    rw [splashed_directory, splashed_resources, Work.exec_bind_of_ok fetched, whole]
    rfl
  have start : (exportedProject request place).start disk = (projectWithResources
      (splashed request.target.profile request.project)
      (request.target.profile.webRootIn place.bundle)).exec emptied :=
    Work.exec_bind_of_ok prepared
  rw [start]
  unfold projectWithResources
  rw [Work.exec_bind_of_ok copied]
  rfl

/-- What else a project declares is not looked at when its resources are exported. -/
theorem exportedProject_congr {other : ExportRequest} {place : OutputPlace} {disk : σ}
    {exported : Project} {session : Session σ}
    (h : (exportedProject request place).start disk = (.ok exported, session))
    (target : other.target = request.target)
    (directory : other.project.directory = request.project.directory)
    (resources : other.project.resources = request.project.resources) :
    (exportedProject other place).start disk =
      (.ok { splashed other.target.profile other.project with resources := exported.resources },
        session) := by
  obtain ⟨emptied, done, prepared, ran, whole, rfl⟩ := exportedProject_eq_ok h
  rw [← target] at prepared
  rw [← target, ← directory, ← resources] at ran
  rw [exportedProject_of_ok prepared ran whole, target]

/-- Exporting resources leaves what else a project declares. -/
theorem exportedProject_declares {place : OutputPlace} {disk : σ} {exported : Project}
    {session : Session σ}
    (h : (exportedProject request place).start disk = (.ok exported, session)) :
    exported.extensions = request.project.extensions ∧
      exported.layouts = request.project.layouts ∧
      exported.sourceFiles = request.project.sourceFiles := by
  obtain ⟨emptied, done, -, -, -, rfl⟩ := exportedProject_eq_ok h
  unfold splashed
  split <;> exact ⟨rfl, rfl, rfl⟩

theorem exportedProject_directory {place : OutputPlace} {disk : σ} {exported : Project}
    {session : Session σ}
    (h : (exportedProject request place).start disk = (.ok exported, session)) :
    exported.directory = request.project.directory := by
  obtain ⟨emptied, done, -, -, -, rfl⟩ := exportedProject_eq_ok h
  exact splashed_directory request.target.profile request.project

def allScripts (exporter : Exporter) (request : ExportRequest) (place : OutputPlace)
    (project : Project) : IncludeList :=
  (exporter.scriptsOf request place project).insert (place.code / "data.js").text

def packageSource (exporter : Exporter) (request : ExportRequest) (place : OutputPlace)
    (project : Project) : PackageSource where
  project := shipped project request.layout
  profile := request.target.profile
  runtime := exporter.settings.runtimeDirectory
  directory := place.bundle
  scripts := LoadOrder.bundleNames (exporter.allScripts request place project)

theorem packageSource_scripts (exporter : Exporter) (request : ExportRequest)
    (place : OutputPlace) (project : Project) :
    (exporter.packageSource request place project).scripts =
      LoadOrder.bundleNames (exporter.allScripts request place project) := rfl

/-- Makes the scripts of a bundle: generated ones, those of the author and the data, and a
copy of each script that the bundle loads. -/
def supply (exporter : Exporter) (request : ExportRequest) (place : OutputPlace)
    (project : Project) : Work σ Unit := do
  let profile := request.target.profile
  (GeneratedScript.ofProject exporter.events project place.code (!profile.isPreview)).forM
    writeGenerated
  (ExternalScript.ofProject project place.code).forM copyExternal
  Work.write (place.code / "data.js") (dataScript (shipped project request.layout)
    (GameOptions.ofIncludes profile.isPreview request.externalLayout
      (exporter.scriptsOf request place project).paths request.hashes))
  (exporter.allScripts request place project).paths.forM
    (materialize exporter.settings.runtimeDirectory (profile.includesDirIn place.bundle))

def reportOf (exporter : Exporter) (request : ExportRequest) (place : OutputPlace)
    (project : Project) (written : List Path) (diagnostics : Diagnostics) : ExportReport where
  target := request.target
  directory := place.bundle
  stages := Stage.plan request.target
  includes := LoadOrder.bundleNames (exporter.allScripts request place project)
  options := GameOptions.ofIncludes request.target.profile.isPreview request.externalLayout
    (exporter.scriptsOf request place project).paths request.hashes
  generated := (GeneratedScript.ofProject exporter.events project place.code
    (!request.target.profile.isPreview)).map GeneratedScript.path ++ [place.code / "data.js"]
  written := written
  diagnostics := diagnostics

section Report

variable (exporter : Exporter) (request : ExportRequest) (place : OutputPlace) (project : Project)
  (written : List Path) (diagnostics : Diagnostics)

@[simp] theorem reportOf_includes :
    (exporter.reportOf request place project written diagnostics).includes =
      LoadOrder.bundleNames (exporter.allScripts request place project) := by
  rw [reportOf]

@[simp] theorem reportOf_options :
    (exporter.reportOf request place project written diagnostics).options =
      GameOptions.ofIncludes request.target.profile.isPreview request.externalLayout
        (exporter.scriptsOf request place project).paths request.hashes := by
  rw [reportOf]

@[simp] theorem reportOf_generated :
    (exporter.reportOf request place project written diagnostics).generated =
      (GeneratedScript.ofProject exporter.events project place.code
        (!request.target.profile.isPreview)).map GeneratedScript.path ++
          [place.code / "data.js"] := by
  rw [reportOf]

@[simp] theorem reportOf_written :
    (exporter.reportOf request place project written diagnostics).written = written := by
  rw [reportOf]

@[simp] theorem reportOf_diagnostics :
    (exporter.reportOf request place project written diagnostics).diagnostics = diagnostics := by
  rw [reportOf]

end Report

/-- Makes the entry point and the package of a bundle, and reports on all of it. -/
def finish (exporter : Exporter) (request : ExportRequest) (place : OutputPlace)
    (project : Project) : Work σ ExportReport := do
  let profile := request.target.profile
  let page ← EntryPoint.render profile exporter.settings.runtimeDirectory place.bundle
    ((LoadOrder.bundleNames (exporter.allScripts request place project)).map
      (LoadOrder.listedName profile.includesDir))
  let files ← packageFiles (exporter.packageSource request place project)
  return exporter.reportOf request place project (page :: files) (← get).diagnostics

theorem assemble_eq (exporter : Exporter) (request : ExportRequest) (place : OutputPlace)
    (project : Project) : (exporter.assemble request place project : Work σ ExportReport) = (do
      exporter.supply request place project
      exporter.finish request place project) := by
  unfold assemble supply finish
  simp only [bind_assoc]
  rfl

/-- The scripts of a bundle were made one kind after the other, and copied at the end. -/
theorem supply_eq_ok {exporter : Exporter} {request : ExportRequest} {place : OutputPlace}
    {project : Project} {session supplied : Session σ}
    (ran : (exporter.supply request place project).exec session = (.ok (), supplied)) :
    ∃ generated copied stored,
      ((GeneratedScript.ofProject exporter.events project place.code
        (!request.target.profile.isPreview)).forM writeGenerated).exec session =
          (.ok (), generated) ∧
      ((ExternalScript.ofProject project place.code).forM copyExternal).exec generated =
        (.ok (), copied) ∧
      (Work.write (place.code / "data.js") (dataScript (shipped project request.layout)
        (GameOptions.ofIncludes request.target.profile.isPreview request.externalLayout
          (exporter.scriptsOf request place project).paths request.hashes))).exec copied =
            (.ok (), stored) ∧
      ((exporter.allScripts request place project).paths.forM
        (materialize exporter.settings.runtimeDirectory
          (request.target.profile.includesDirIn place.bundle))).exec stored =
            (.ok (), supplied) := by
  obtain ⟨_, generated, first, ran⟩ := Work.exec_bind_eq_ok ran
  obtain ⟨_, copied, second, ran⟩ := Work.exec_bind_eq_ok ran
  obtain ⟨_, stored, third, last⟩ := Work.exec_bind_eq_ok ran
  exact ⟨generated, copied, stored, first, second, third, last⟩

theorem finish_eq_ok {exporter : Exporter} {request : ExportRequest} {place : OutputPlace}
    {project : Project} {supplied final : Session σ} {report : ExportReport}
    (ran : (exporter.finish request place project).exec supplied = (.ok report, final)) :
    ∃ page rendered files,
      (EntryPoint.render request.target.profile exporter.settings.runtimeDirectory place.bundle
        ((LoadOrder.bundleNames (exporter.allScripts request place project)).map
          (LoadOrder.listedName request.target.profile.includesDir))).exec supplied =
            (.ok page, rendered) ∧
      (packageFiles (exporter.packageSource request place project)).exec rendered =
        (.ok files, final) ∧
      report = exporter.reportOf request place project (page :: files) final.diagnostics := by
  obtain ⟨page, rendered, first, ran⟩ := Work.exec_bind_eq_ok ran
  obtain ⟨files, packaged, second, ran⟩ := Work.exec_bind_eq_ok ran
  rw [Work.exec_bind_of_ok (Work.exec_get packaged), Work.exec_pure, Prod.mk.injEq] at ran
  obtain ⟨same, rfl⟩ := ran
  exact ⟨page, rendered, files, first, second, (Except.ok.inj same).symm⟩

theorem assemble_includes {place : OutputPlace} {project : Project} {session final : Session σ}
    {report : ExportReport}
    (ran : (exporter.assemble request place project).exec session = (.ok report, final)) :
    report.includes = LoadOrder.bundleNames (exporter.allScripts request place project) := by
  rw [assemble_eq] at ran
  obtain ⟨_, supplied, -, ran⟩ := Work.exec_bind_eq_ok ran
  obtain ⟨page, rendered, files, -, -, rfl⟩ := finish_eq_ok ran
  rw [reportOf_includes]

end Exporter

end GameBundle
