import GameBundle.Proofs.Bundle.FontResources
import GameBundle.Proofs.Bundle.Supply

/-!
# The project that code and data are made from

An export changes the project it is given at one point only, when resources are exported.
The compiler of events is asked about that project afterwards, and nothing it would answer
about another one counts. The data of the game is the same project without what the game
does not need.
-/

namespace GameBundle

namespace Project

def methodCalls (project : Project) (forRuntime : Bool) : List MethodRequest :=
  project.extensions.flatMap fun extension => extension.behaviors.flatMap fun behavior =>
    BehaviorModule.methodRequests behavior
      (Script.behaviorNamespace extension.name behavior.name) behavior.methodNames forRuntime

end Project

/-- Two compilers give the same answers to all that is asked about a project. -/
structure EventsCompiler.AgreeOn (project : Project) (forRuntime : Bool)
    (one other : EventsCompiler) : Prop where
  method : ∀ call ∈ project.methodCalls forRuntime, one.method project call = other.method project call
  layout : ∀ layout ∈ project.layouts,
    one.layout project layout forRuntime = other.layout project layout forRuntime

theorem BehaviorGenerator.generate_congr (one other : BehaviorGenerator)
    {behavior : Behavior} {codeNamespace : String} {names : Dictionary String} {forRuntime : Bool}
    (shims : one.shims = other.shims)
    (same : ∀ call ∈ BehaviorModule.methodRequests behavior codeNamespace names forRuntime,
      one.events.method one.project call = other.events.method other.project call)
    (extension : String) (includes : IncludeList) :
    one.generate extension behavior codeNamespace names includes forRuntime =
      other.generate extension behavior codeNamespace names includes forRuntime := by
  have methods : behavior.functions.map (one.method behavior codeNamespace names forRuntime) =
      behavior.functions.map (other.method behavior codeNamespace names forRuntime) := by
    refine List.map_congr_left fun function member => ?_
    have answer := same _ (List.mem_map_of_mem member)
    unfold method
    rw [answer, shims]
  unfold generate
  rw [methods]

/-- The generated scripts are made from the answers about the project alone. -/
theorem GeneratedScript.ofProject_congr {project : Project} {forRuntime : Bool}
    {one other : EventsCompiler} (agree : one.AgreeOn project forRuntime other)
    (directory : Path) :
    ofProject one project directory forRuntime = ofProject other project directory forRuntime := by
  unfold ofProject
  refine congrArg₂ _ ?_ ?_
  · refine List.flatMap_congr fun extension declared => List.map_congr_left fun behavior member => ?_
    have same : ∀ call ∈ BehaviorModule.methodRequests behavior
        (Script.behaviorNamespace extension.name behavior.name) behavior.methodNames forRuntime,
        one.method project call = other.method project call :=
      fun call asked => agree.method call (List.mem_flatMap.mpr
        ⟨extension, declared, List.mem_flatMap.mpr ⟨behavior, member, asked⟩⟩)
    unfold ofBehavior
    rw [BehaviorGenerator.generate_congr ⟨project, one, Shim.standard⟩
      ⟨project, other, Shim.standard⟩ rfl same]
  · refine List.ext_getElem (by simp) fun index _ inside => ?_
    rw [List.length_mapIdx] at inside
    rw [List.getElem_mapIdx, List.getElem_mapIdx, ofLayout, ofLayout,
      agree.layout _ (List.getElem_mem inside)]

/-- Exporting resources changes the files that they name, and nothing else about them. -/
theorem ResourceExport.declared_exportFrom {σ : Type} [Storage σ] (home destination : Path)
    (taken : Taken) (resources : List Resource) (session : Session σ) :
    ((exportFrom home destination taken resources).run session).1.resources.map
        (fun resource => (resource.name, resource.kind)) =
      resources.map fun resource => (resource.name, resource.kind) := by
  induction resources generalizing taken session with
  | nil => rfl
  | cons resource rest ih =>
    rw [run_exportFrom_cons]
    split
    · exact congrArg (_ :: ·) (ih taken session)
    · dsimp only
      split
      · rfl
      · exact congrArg (_ :: ·) (ih _ _)

namespace Exporter

variable {σ : Type} [Storage σ] {exporter : Exporter} {request : ExportRequest}

/-- A bundle is assembled from the answers about its project alone. -/
theorem assemble_congr {place : OutputPlace} {project : Project} {events : EventsCompiler}
    (agree : events.AgreeOn project (!request.target.profile.isPreview) exporter.events) :
    ({ exporter with events }.assemble request place project : Work σ ExportReport) =
      exporter.assemble request place project := by
  have same := GeneratedScript.ofProject_congr agree place.code
  unfold assemble scriptsOf
  dsimp only
  rw [same]

/-- A successful export leaves the same files and report whatever a compiler answers about
other projects. -/
theorem exportWith_congr {codeDirectory : Path} {disk after : σ} {report : ExportReport}
    {exported : Project} {session : Session σ} {events : EventsCompiler}
    (done : exporter.exportWith request codeDirectory disk = (.ok report, after))
    (first : (exportedProject request (outputPlace request codeDirectory disk)).start disk =
      (.ok exported, session))
    (agree : events.AgreeOn exported (!request.target.profile.isPreview) exporter.events) :
    { exporter with events }.exportWith request codeDirectory disk = (.ok report, after) := by
  rw [← done]
  unfold exportWith build Work.start
  rw [Work.exec_bind_of_ok first, Work.exec_bind_of_ok first, assemble_congr agree]

theorem splashed_eq (profile : TargetProfile) (project : Project) :
    splashed profile project = { project with
      loadingScreen := if profile.splashOff then ⟨false⟩ else project.loadingScreen } := by
  unfold splashed
  split <;> rfl

/-- What follows the data: copies of all scripts, the entry point and the package. -/
def ship (exporter : Exporter) (request : ExportRequest) (place : OutputPlace)
    (project : Project) : Work σ ExportReport := do
  (exporter.allScripts request place project).paths.forM
    (materialize exporter.settings.runtimeDirectory
      (request.target.profile.includesDirIn place.bundle))
  exporter.finish request place project

/-- A bundle that was assembled has its scripts written, those of the author copied, and the
data written, before anything is shipped. -/
theorem assemble_eq_ok {place : OutputPlace} {project : Project} {session final : Session σ}
    {report : ExportReport}
    (ran : (exporter.assemble request place project).exec session = (.ok report, final)) :
    ∃ generated copied stored,
      ((GeneratedScript.ofProject exporter.events project place.code
        (!request.target.profile.isPreview)).forM writeGenerated).exec session =
          (.ok (), generated) ∧
      ((ExternalScript.ofProject project place.code).forM copyExternal).exec generated =
        (.ok (), copied) ∧
      Storage.write (place.code / "data.js")
        (dataScript (shipped project request.layout) report.options) copied.disk =
          (.ok (), stored.disk) ∧
      (exporter.ship request place project).exec stored = (.ok report, final) := by
  rw [assemble_eq] at ran
  obtain ⟨_, supplied, supplying, finishing⟩ := Work.exec_bind_eq_ok ran
  obtain ⟨generated, copied, stored, first, second, third, fourth⟩ := supply_eq_ok supplying
  obtain ⟨_, _, _, -, -, made⟩ := finish_eq_ok finishing
  refine ⟨generated, copied, stored, first, second, ?_, ?_⟩
  · rw [made, reportOf_options]
    exact (Work.exec_change_eq_ok third).1
  · exact (Work.exec_bind_of_ok fourth).trans finishing

/-- A successful export makes code and data from one project: the one it was given, with the
splash screen turned off if the target asks for that, with its resources exported and with
the fonts behind them. -/
theorem code_and_data_share_project {codeDirectory : Path} {disk after : σ}
    {report : ExportReport}
    (done : exporter.exportWith request codeDirectory disk = (.ok report, after)) :
    let profile := request.target.profile
    let place := outputPlace request codeDirectory disk
    let webRoot := profile.webRootIn place.bundle
    ∃ emptied rewritten session exported,
      -- the project, once its resources are exported from the emptied directories
      (prepare place webRoot).start disk = (.ok (), emptied) ∧
      (request.project.exportedResources webRoot).run emptied = (rewritten, session) ∧
      rewritten.fault? = none ∧
      rewritten.resources.map (fun resource => (resource.name, resource.kind)) =
        request.project.resources.resources.map
          (fun resource => (resource.name, resource.kind)) ∧
      exported = { request.project with
        loadingScreen := if profile.splashOff then ⟨false⟩ else request.project.loadingScreen
        resources := ResourceTable.addFontsIn ⟨rewritten.resources⟩ webRoot "" session.disk } ∧
      rewritten.resources <+: exported.resources.resources ∧
      -- all that is asked about it, and nothing else, decides what the export makes
      exported.methodCalls (!profile.isPreview) =
        request.project.methodCalls (!profile.isPreview) ∧
      exported.layouts = request.project.layouts ∧
      (∀ events : EventsCompiler,
        events.AgreeOn exported (!profile.isPreview) exporter.events →
          { exporter with events }.exportWith request codeDirectory disk = (.ok report, after)) ∧
      -- the data is written from it once the code is
      ∃ generated copied stored final,
        ((GeneratedScript.ofProject exporter.events exported place.code
          (!profile.isPreview)).forM writeGenerated).exec session = (.ok (), generated) ∧
        ((ExternalScript.ofProject exported place.code).forM copyExternal).exec generated =
          (.ok (), copied) ∧
        let document :=
          { exported.stripped with firstLayout := request.layout.getD request.project.firstLayout }
        Storage.write (place.code / "data.js") (dataScript document report.options) copied.disk =
          (.ok (), stored.disk) ∧
        document.resources = exported.resources ∧
        (exporter.ship request place exported).exec stored = (.ok report, final) ∧
        final.disk = after := by
  intro profile place webRoot
  obtain ⟨exported, session, final, first, second, last⟩ := exportWith_eq_ok done
  obtain ⟨emptied, rewritten, prepared, ran, whole, shape⟩ := exportedProject_eq_ok first
  obtain ⟨generated, copied, stored, written, gathered, data, rest⟩ := assemble_eq_ok second
  rw [splashed_eq] at shape
  have independent (events : EventsCompiler)
      (agree : events.AgreeOn exported (!profile.isPreview) exporter.events) :=
    exportWith_congr done first agree
  have fonts : rewritten.resources <+: exported.resources.resources := by
    rw [shape]
    exact ResourceTable.prefix_addFontsIn ⟨rewritten.resources⟩ webRoot "" session.disk
  have declared := ResourceExport.declared_exportFrom request.project.directory webRoot []
    request.project.resources.resources emptied
  rw [ran] at declared
  refine ⟨emptied, rewritten, session, exported, prepared, ran, whole, declared, shape, fonts,
    ?_, ?_, independent, generated, copied, stored, final, written, gathered, ?_, rfl, rest, last⟩
  · rw [shape]
    rfl
  · rw [shape]
  · have same : exported.firstLayout = request.project.firstLayout := by rw [shape]
    rw [← same]
    exact data

/-- The code of the level is compiled from the project that its data is made from, with the events
of its function still there. -/
theorem level_code_and_data_share_project : ∃ report after rewritten exported,
    ∃ session copied stored : Session Memory,
      lone.exportWith levelRequest ⟨"/out/code"⟩ heroDisk = (.ok report, after) ∧
      exported = { levelRequest.project with
        loadingScreen := ⟨true⟩
        resources := ResourceTable.addFontsIn ⟨rewritten⟩
          (levelRequest.target.profile.webRootIn heroPlace.bundle) "" session.disk } ∧
      exported.methodCalls true = [⟨clockFunction,
        "kiln.evtsExt__Tools__Clock.Clock.prototype.onCreatedContext",
        "kiln.evtsExt__Tools__Clock.Clock.prototype.onCreated", true⟩] ∧
      exported.layouts = [⟨"Main", [], [], [], []⟩] ∧
      (∀ events : EventsCompiler, events.AgreeOn exported true lone.events →
        { lone with events }.exportWith levelRequest ⟨"/out/code"⟩ heroDisk =
          (.ok report, after)) ∧
      Storage.write (heroPlace.code / "data.js")
        (dataScript { exported.stripped with firstLayout := "" } report.options) copied.disk =
          (.ok (), stored.disk) := by
  obtain ⟨report, after, done⟩ := level_succeeds
  obtain ⟨-, rewritten, session, exported, -, -, -, -, shape, -, methods, layouts, independent, -,
    copied, stored, -, -, -, data, -⟩ := code_and_data_share_project done
  have calls : levelRequest.project.methodCalls true = [⟨clockFunction,
      "kiln.evtsExt__Tools__Clock.Clock.prototype.onCreatedContext",
      "kiln.evtsExt__Tools__Clock.Clock.prototype.onCreated", true⟩] := rfl
  exact ⟨report, after, rewritten.resources, exported, session, copied, stored, done, shape,
    methods.trans calls, layouts, independent, data⟩

end Exporter

end GameBundle
