import GameBundle.Proofs.Bundle.BatchOrder
import GameBundle.Proofs.Bundle.ResourceNames
import GameBundle.Proofs.Bundle.Settles
import GameBundle.Proofs.Bundle.Supply

/-!
# What can be in the way of an export

An export into an empty directory carries out orders: directories are made, files are
written, and copies are made of what is found. What is missing drops out and is reported.
The export fails exactly when a file is ordered where a directory is needed, as a resource
named like the directory of code is.
-/

namespace GameBundle

open Memory (Stands Vacant locate)
open Outline (Order Within)
open Work (Settles)

namespace ResourceExport

def orders (home : Place) (directory destination : Path) (names : Taken)
    (resources : List Resource) : List Order :=
  (resources.filter (·.file ≠ "")).map fun resource =>
    .take (locate home (directory / resource.file))
      (locate home (destination / exportedName names (directory / resource.file)))

theorem settles_exportFile {start : Memory} {root : Place} {before : Outline} {target : Path}
    (inside : root <+: locate start.home target) (label : String) (source : Path) :
    Settles start root before (before.after start.tree.isFile
      (.take (locate start.home source) (locate start.home target)))
        (exportFile label source target) :=
  Work.settles_found (fun there => Work.settles_copy inside there) (.warn _ _ _)

section

variable (home : Place) (directory destination : Path) (names : Taken) {resource : Resource}
  (rest : List Resource)

theorem orders_cons_blank (blank : resource.file = "") :
    orders home directory destination names (resource :: rest) =
      orders home directory destination names rest := by
  rw [orders, List.filter_cons_of_neg (by simp [blank]), orders]

theorem orders_cons_named (named : resource.file ≠ "") :
    orders home directory destination names (resource :: rest) =
      .take (locate home (directory / resource.file))
        (locate home (destination / exportedName names (directory / resource.file))) ::
          orders home directory destination names rest := by
  rw [orders, List.filter_cons_of_pos (by simp [named]), List.map_cons, orders]

end

/-- Resources are exported without fault exactly when their copies are in nobody's way. -/
theorem stands_exportFrom {start : Memory} {root : Place} {before : Outline}
    {directory destination : Path} (inside : root <+: locate start.home destination)
    {taken names : Taken} (resources : List Resource)
    (grown : Extends (takenAfter directory taken resources) names) {session : Session Memory}
    (stands : Stands start root before session.disk) :
    let after := before.afterAll start.tree.isFile
      (orders start.home directory destination names resources)
    let ran := (exportFrom directory destination taken resources).run session
    (ran.1.fault? = none → Stands start root after ran.2.disk) ∧
      (ran.1.fault? ≠ none → ¬after.Free) := by
  induction resources generalizing taken before session with
  | nil => exact ⟨fun _ => stands, fun stopped => absurd rfl stopped⟩
  | cons resource rest ih =>
    rw [takenAfter] at grown
    rw [run_exportFrom_cons]
    by_cases blank : resource.file = ""
    · rw [if_pos blank] at grown
      simp only [blank, if_true, orders_cons_blank _ _ _ _ _ blank]
      exact ih grown stands
    · rw [if_neg blank] at grown
      simp only [blank, if_false, orders_cons_named _ _ _ _ _ blank]
      let source := directory / resource.file
      have same : exportedName names source = exportedName taken source :=
        ((gives_takeName taken source).mono ((extends_takenAfter directory _ rest).trans
          grown)).exportedName_eq
      rw [show exportedName names (directory / resource.file) = exportedName taken source from same]
      have target : root <+: locate start.home (destination / exportedName taken source) := by
        rw [Memory.locate_join_name (isName_exportedName taken source)]
        exact inside.trans (List.prefix_append _ _)
      have outcome := settles_exportFile target resource.name source session stands
      rcases ran : (exportFile resource.name source (destination / exportedName taken source)).exec
        session with ⟨_ | _, later⟩
      · rw [ran] at outcome
        refine ⟨fun whole => (by cases whole), fun _ free => outcome ?_⟩
        exact (Outline.within_afterAll _ _ _).free free
      · rw [ran] at outcome
        exact ih grown outcome

end ResourceExport

def PackageSource.orders (home : Place) (source : PackageSource) : List Order :=
  let spot (file : String) := locate home (source.directory / file)
  match source.profile.target with
  | .preview => []
  | .html5 => []
  | .facebookInstantGames => [.put (spot "fbapp-config.json")]
  | .electron =>
    let icon := source.project.assetFile "desktop" "icon-512"
    .put (spot "package.json") :: .put (spot "main.js") :: .make (spot "buildResources") ::
      if icon = "" then []
      else [.take (locate home (source.webRoot / icon)) (spot "buildResources/icon.png")]
  | .cordova => [.put (spot "config.xml"), .put (spot "package.json")]
  | .cocos2d =>
    [.put (spot "main.js"), .put (spot "cocos2d-js-v3.10.js"), .put (spot "project.json")]

namespace PackageSource

variable {start : Memory} {before : Outline} {source : PackageSource}

/-- Templates of the runtime can be read at the start. -/
def Readable (start : Memory) (source : PackageSource) : Prop :=
  ∀ file ∈ source.profile.target.packageTemplates,
    ∃ text, start.readText (source.runtime / file) = .ok text

theorem settles_template {file : String} (allowed : start.denied = [])
    (readable : ∃ text, start.readText (source.runtime / file) = .ok text) :
    Settles start (locate start.home source.directory) before before (source.template file) := by
  obtain ⟨text, read⟩ := readable
  exact Work.settles_template allowed read

theorem settles_write {file : String} (inner : Path.isInner file = true) (text : String) :
    Settles start (locate start.home source.directory) before
      (before.after start.tree.isFile (.put (locate start.home (source.directory / file))))
      (source.write file text) :=
  (Work.settles_write (Memory.prefix_locate_join inner) text).thenSame fun _ => .pure _

theorem settles_copyTemplate (template file : String) (allowed : start.denied = [])
    (readable : ∃ text, start.readText (source.runtime / template) = .ok text)
    (inner : Path.isInner file = true) :
    Settles start (locate start.home source.directory) before
      (before.after start.tree.isFile (.put (locate start.home (source.directory / file))))
      (source.copyTemplate template file) := by
  obtain ⟨text, read⟩ := readable
  have there := Work.isFile_of_readText allowed read
  have copies : Settles start (locate start.home source.directory) before
      (before.put (locate start.home (source.directory / file)))
        (source.copy (source.runtime / template) file) :=
    (Work.settles_copy (Memory.prefix_locate_join inner) (.inl there)).thenSame fun _ => .pure _
  intro session stands
  have found := (Work.isFile_eq stands (source.runtime / template)).mpr (.inl there)
  unfold copyTemplate
  dsimp only
  rw [Work.isFile, Work.exec_look_bind, if_pos found]
  exact copies session stands

theorem settles_writeManifest {template : String} (allowed : start.denied = [])
    (readable : ∃ text, start.readText (source.runtime / template) = .ok text) :
    Settles start (locate start.home source.directory) before
      (before.after start.tree.isFile (.put (locate start.home (source.directory / "package.json"))))
      (source.writeManifest template) :=
  (settles_template allowed readable).bind (Outline.within_put _ _) fun _ =>
    settles_write (by decide) _

theorem settles_copyIcon :
    let icon := source.project.assetFile "desktop" "icon-512"
    Settles start (locate start.home source.directory) before
      (before.afterAll start.tree.isFile (if icon = "" then [] else
        [.take (locate start.home (source.webRoot / icon))
          (locate start.home (source.directory / "buildResources/icon.png"))]))
      (Desktop.copyIcon source) := by
  intro icon
  unfold Desktop.copyIcon
  dsimp only
  by_cases blank : icon = ""
  · rw [if_pos blank, if_pos blank]
    exact .pure _
  · rw [if_neg blank, if_neg blank, Outline.afterAll_singleton]
    refine Work.settles_found (fun there => ?_) ?_
    · have copied : Settles start (locate start.home source.directory) before _
          (source.copy (source.webRoot / icon) "buildResources/icon.png") :=
        (Work.settles_copy (Memory.prefix_locate_join (by decide)) there).thenSame fun _ => .pure _
      exact copied.thenSame fun _ => .pure _
    · exact (Settles.warn _ _ _).thenSame fun _ => .pure _

/-- The package of a bundle is made exactly when its files are in nobody's way. -/
theorem settles_package (allowed : start.denied = []) (readable : source.Readable start) :
    Settles start (locate start.home source.directory) before
      (before.afterAll start.tree.isFile (source.orders start.home)) source.package := by
  unfold package orders
  unfold Readable at readable
  cases target : source.profile.target with
  | preview => exact .pure _
  | html5 => exact .pure _
  | facebookInstantGames =>
    dsimp only
    simp only [target, Target.packageTemplates, List.forall_mem_singleton] at readable
    refine .skip (settles_template allowed readable) fun _ => ?_
    exact .cons (settles_write (by decide) _) fun _ => .pure _
  | electron =>
    dsimp only
    simp only [target, Target.packageTemplates, List.forall_mem_cons] at readable
    obtain ⟨manifest, main, -⟩ := readable
    refine .cons (settles_writeManifest allowed manifest) fun _ => ?_
    refine .skip (settles_template allowed main) fun _ => ?_
    refine .cons (settles_write (by decide) _) fun _ => ?_
    refine .cons (Work.settles_createDirs (Memory.prefix_locate_join (by decide))) fun _ => ?_
    exact settles_copyIcon.thenSame fun _ => .pure _
  | cordova =>
    dsimp only
    simp only [target, Target.packageTemplates, List.forall_mem_cons] at readable
    obtain ⟨config, manifest, -⟩ := readable
    refine .skip (.look _) fun _ => ?_
    refine .skip (.report _) fun _ => ?_
    refine .skip (settles_template allowed config) fun _ => ?_
    refine .cons (settles_write (by decide) _) fun _ => ?_
    exact .cons (settles_writeManifest allowed manifest) fun _ => .pure _
  | cocos2d =>
    dsimp only
    simp only [target, Target.packageTemplates, List.forall_mem_cons] at readable
    obtain ⟨main, engine, project, -⟩ := readable
    refine .cons (settles_copyTemplate "Cocos2d/main.js" "main.js" allowed main (by decide))
      fun _ => ?_
    refine .cons (settles_copyTemplate "Cocos2d/cocos2d-js-v3.10.js" "cocos2d-js-v3.10.js" allowed
      engine (by decide)) fun _ => ?_
    refine .skip (.look _) fun _ => ?_
    refine .skip (.report _) fun _ => ?_
    refine .skip (settles_template allowed project) fun _ => ?_
    exact .cons (settles_write (by decide) _) fun _ => .pure _

theorem settles_packageFiles (source : PackageSource) (allowed : start.denied = [])
    (readable : source.Readable start) :
    Settles start (locate start.home source.directory) before
      (before.afterAll start.tree.isFile (source.orders start.home))
      (Exporter.packageFiles source) := by
  unfold Exporter.packageFiles
  by_cases packaged : source.profile.target.isPackaged = true
  · rw [if_pos packaged]
    exact settles_package allowed readable
  · rw [if_neg packaged]
    unfold orders
    cases target : source.profile.target with
    | preview => exact .pure _
    | html5 => exact .pure _
    | _ => exact absurd (by rw [target]; rfl) packaged

end PackageSource

namespace Exporter

variable {start : Memory} {before : Outline} {exporter : Exporter} {request : ExportRequest}
  {place : OutputPlace} {project : Project}

/-- The directories of a bundle before anything is put there. -/
def emptied (home : Place) (request : ExportRequest) (place : OutputPlace) : Outline where
  dirs := [locate home (request.target.profile.webRootIn place.bundle), locate home place.code,
    locate home place.bundle]
  files := []

def resourceOrders (home : Place) (request : ExportRequest) (place : OutputPlace) : List Order :=
  let project := request.project
  let resources := project.resources.resources
  ResourceExport.orders home project.directory (request.target.profile.webRootIn place.bundle)
    (ResourceExport.takenAfter project.directory [] resources) resources

def bundleOrders (exporter : Exporter) (home : Place) (request : ExportRequest)
    (place : OutputPlace) (project : Project) : List Order :=
  let profile := request.target.profile
  (GeneratedScript.ofProject exporter.events project place.code (!profile.isPreview)).map
      (fun script => .put (locate home script.path)) ++
    ((ExternalScript.ofProject project place.code).map
        (fun script => .offer (locate home script.source) (locate home script.target)) ++
      (.put (locate home (place.code / "data.js")) ::
        ((exporter.allScripts request place project).paths.map (fun script =>
            .take (locate home (exporter.scriptCopy request place script).1)
              (locate home (exporter.scriptCopy request place script).2)) ++
          (.put (locate home (profile.webRootIn place.bundle / "index.html")) ::
            (exporter.packageSource request place project).orders home))))

/-- Once the directory of a bundle is made, the rest of preparing it settles. -/
theorem settles_clearing (request : ExportRequest)
    (code : locate start.home place.bundle <+: locate start.home place.code) :
    Settles start (locate start.home place.bundle) ⟨[locate start.home place.bundle], []⟩
      (emptied start.home request place) (do
        Work.change (.directory place.bundle) (Storage.clearDir place.bundle)
        Work.emptyDir place.code
        Work.createDirs (request.target.profile.webRootIn place.bundle)) := by
  let root := locate start.home place.bundle
  have web : root <+: locate start.home (request.target.profile.webRootIn place.bundle) :=
    TargetProfile.prefix_webRootIn request.target start.home place.bundle
  have clears : Settles start root ⟨[root], []⟩ ⟨[root], []⟩
      (Work.change (.directory place.bundle) (Storage.clearDir place.bundle)) :=
    Work.settles_clearDir List.prefix_rfl (by simp [root]) (by simp [root])
  have empties : Settles start root ⟨[root], []⟩ ⟨[locate start.home place.code, root], []⟩
      (Work.emptyDir place.code) := by
    refine (Work.settles_createDirs code).bind (.refl _) fun _ => ?_
    exact Work.settles_clearDir code (by simp) (by simp [code, root])
  refine clears.bind ?_ fun _ => empties.bind ?_ fun _ => Work.settles_createDirs web
  · exact (Outline.within_make _ _).trans (Outline.within_make _ _)
  · exact Outline.within_make _ _

/-- Emptying the directories of a bundle in a vacant place succeeds. -/
theorem stands_prepare (request : ExportRequest)
    (vacant : start.Vacant (locate start.home place.bundle))
    (allowed : start.denied = [])
    (code : locate start.home place.bundle <+: locate start.home place.code) :
    ∃ session, (prepare place (request.target.profile.webRootIn place.bundle)).start start =
        (.ok (), session) ∧
      Stands start (locate start.home place.bundle) (emptied start.home request place)
        session.disk := by
  have created : start.createDirs place.bundle = (.ok (),
      { start with tree := start.tree.withDirs (locate start.home place.bundle) }) :=
    Memory.createDirs_of_clear (by simp [Memory.isDenied, allowed])
      fun other member => vacant.way other (Tree.mem_upTo.mp member).2
  have made : (Work.createDirs place.bundle).exec ⟨start, .empty⟩ = (.ok (),
      ⟨{ start with tree := start.tree.withDirs (locate start.home place.bundle) }, .empty⟩) := by
    unfold Work.createDirs
    rw [Work.exec_change, show Storage.createDirs place.bundle start = _ from created]
    rfl
  obtain ⟨_, session, ran, filled⟩ := (settles_clearing request code).succeeds
    (Stands.of_vacant vacant allowed) (fun _ member => by cases member) .empty
  refine ⟨session, ?_, filled⟩
  unfold Work.start prepare Work.emptyDir
  rw [bind_assoc, Work.exec_bind_of_ok made]
  exact ran

theorem settles_projectWithResources (request : ExportRequest) (before : Outline)
    (inside : locate start.home place.bundle <+:
      locate start.home (request.target.profile.webRootIn place.bundle)) :
    Settles start (locate start.home place.bundle) before
      (before.afterAll start.tree.isFile (resourceOrders start.home request place))
      (projectWithResources (splashed request.target.profile request.project)
        (request.target.profile.webRootIn place.bundle)) := by
  have exports : Settles start (locate start.home place.bundle) before
      (before.afterAll start.tree.isFile (resourceOrders start.home request place))
      ((splashed request.target.profile request.project).withExportedResources
        (request.target.profile.webRootIn place.bundle)) := by
    intro session stands
    obtain ⟨whole, stopped⟩ := ResourceExport.stands_exportFrom inside
      request.project.resources.resources (.refl _) stands
    unfold Project.withExportedResources Project.exportedResources
    rw [Work.exec_bind, Work.exec_lift, splashed_directory, splashed_resources]
    dsimp only
    cases fault : ((ResourceExport.exportFrom request.project.directory
        (request.target.profile.webRootIn place.bundle) []
        request.project.resources.resources).run session).1.fault? with
    | none => exact whole fault
    | some cause => exact stopped (by rw [fault]; exact nofun)
  exact exports.thenSame fun _ => (Settles.look _).thenSame fun _ => .pure _

theorem settles_writeGenerated {root : Place} {script : GeneratedScript}
    (inside : root <+: locate start.home script.path) :
    Settles start root before (before.after start.tree.isFile (.put (locate start.home script.path)))
      (writeGenerated script) :=
  (Work.settles_write inside script.code).thenSame fun _ => .report _

theorem settles_copyExternal {root : Place} {script : ExternalScript}
    (high : root <+: (locate start.home script.target).dropLast)
    (ready : before.IsDir (locate start.home script.target).dropLast) :
    Settles start root before (before.after start.tree.isFile
      (.offer (locate start.home script.source) (locate start.home script.target)))
        (copyExternal script) := by
  intro session stands
  have offered := Work.stands_offer script.source stands high ready
  unfold copyExternal
  rw [Work.exec_bind, Work.exec_attempt]
  rcases outcome : (Storage.copy script.source script.target session.disk).1 with fault | _
  · exact offered
  · exact offered

theorem settles_materialize {root : Place} {runtime includesDir : Path} {script : String}
    (inside : locate start.home (LoadOrder.source runtime script) ≠ [] →
      root <+: locate start.home (includesDir / LoadOrder.bundleName script)) :
    Settles start root before (before.after start.tree.isFile
      (.take (locate start.home (LoadOrder.source runtime script))
        (locate start.home (includesDir / LoadOrder.bundleName script))))
      (materialize runtime includesDir script) := by
  refine Work.settles_found (fun there session stands => ?_) (.warn _ _ _)
  refine Work.settles_copy (inside fun nowhere => ?_) there session stands
  have held := (stands.files _).mpr there
  rw [nowhere] at held
  cases held

theorem settles_render {root : Place} {profile : TargetProfile} {runtime directory : Path}
    (inside : root <+: locate start.home (profile.webRootIn directory / "index.html"))
    (allowed : start.denied = [])
    (readable : ∃ text, start.readText (runtime / profile.indexTemplate) = .ok text)
    (scripts : List String) :
    Settles start root before (before.after start.tree.isFile
      (.put (locate start.home (profile.webRootIn directory / "index.html"))))
      (EntryPoint.render profile runtime directory scripts) := by
  obtain ⟨text, read⟩ := readable
  have grows := Outline.within_put before
    (locate start.home (profile.webRootIn directory / "index.html"))
  refine (Work.settles_template allowed read).bind grows fun template => ?_
  have completes : Settles start root before before
      (EntryPoint.complete template (profile.webRootIn directory)
        (if profile.indexIncludes = true then scripts else [])
        (if profile.isPreview = true then "kiln.runtimeGameOptions" else "")) :=
    (Settles.look _).thenSame fun _ => (Settles.report _).thenSame fun _ => .pure _
  refine completes.bind grows fun page => ?_
  exact (Work.settles_write inside page).thenSame fun _ => .pure _

theorem settles_assemble (exporter : Exporter) (project : Project) (before : Outline)
    (allowed : start.denied = [])
    (readable : ∀ path ∈ exporter.templateInputs request.target,
      ∃ text, start.readText path = .ok text)
    (code : locate start.home place.bundle <+: locate start.home place.code)
    (ready : before.IsDir (locate start.home place.code))
    (level : ∀ script ∈ (exporter.allScripts request place project).paths,
      locate start.home (exporter.scriptCopy request place script).1 ≠ [] →
        locate start.home place.bundle <+:
          locate start.home (exporter.scriptCopy request place script).2) :
    Settles start (locate start.home place.bundle) before
      (before.afterAll start.tree.isFile (exporter.bundleOrders start.home request place project))
      (exporter.assemble request place project) := by
  let root := locate start.home place.bundle
  have inCode {name : String} (isName : Path.IsName name) :
      locate start.home (place.code / name) = locate start.home place.code ++ [name] :=
    Memory.locate_join_name isName
  have under {name : String} (isName : Path.IsName name) :
      root <+: locate start.home (place.code / name) := by
    rw [inCode isName]
    exact code.trans (List.prefix_append _ _)
  have templates : (exporter.packageSource request place project).Readable start := by
    intro file member
    rw [show (exporter.packageSource request place project).profile.target = request.target from
      target_profile request.target] at member
    exact readable _ (List.mem_map.mpr ⟨file, List.mem_cons_of_mem _ member, rfl⟩)
  rw [assemble_eq]
  unfold supply finish bundleOrders
  simp only [bind_assoc]
  refine .append (.forM _ fun script member outline _ => ?generated) fun _ => ?_
  case generated =>
    obtain ⟨name, isName, same⟩ := GeneratedScript.exists_isName_path member
    exact settles_writeGenerated (same ▸ under isName)
  refine .append (.forM _ fun script member outline larger => ?external) fun _ => ?_
  case external =>
    obtain ⟨name, isName, same⟩ := ExternalScript.exists_isName_target member
    have high : (locate start.home script.target).dropLast = locate start.home place.code := by
      rw [same, inCode isName, List.dropLast_concat]
    have made := larger.isDir ((Outline.within_afterAll _ _ _).isDir ready)
    exact settles_copyExternal (high ▸ code) (high ▸ made)
  refine .cons (Work.settles_write (under (by decide)) _) fun _ => ?_
  refine .append (.forM _ fun script member outline _ => settles_materialize (level script member))
    fun _ => ?_
  refine .cons (settles_render ?page allowed (readable _ (by simp [templateInputs])) _) fun _ => ?_
  case page =>
    exact (TargetProfile.prefix_webRootIn request.target start.home place.bundle).trans
      (Memory.prefix_locate_join (by decide))
  refine Settles.thenSame ?package fun _ => .thenSame .get fun _ => .pure _
  case package =>
    exact (exporter.packageSource request place project).settles_packageFiles allowed templates

/-- The circumstances in which an export can be expected to succeed: it is not strict and puts
its code into the bundle, nothing is denied, the directory is absent or empty with no file
on the way to it, all templates can be read, and no script that is asked for has double
dots. -/
structure Favourable (exporter : Exporter) (request : ExportRequest) (disk : Memory) : Prop where
  lenient : (request.strict || exporter.settings.strict) = false
  inside : exporter.settings.codeDirectory = none
  proper : ∀ name ∈ disk.home, Path.IsName name
  allowed : disk.denied = []
  vacant : disk.Vacant (disk.place request.directory)
  templates : ∀ path ∈ exporter.templateInputs request.target, ∃ text, disk.readText path = .ok text
  level : ∀ exported session,
    (exportedProject request (outputPlace request (request.directory / "code") disk)).start disk =
      (.ok exported, session) → exporter.AsksLevel request exported

variable {disk : Memory}

/-- A favourable export ends as the making of its bundle does. -/
theorem Favourable.outcome (favourable : exporter.Favourable request disk) :
    (exporter.exportOne request disk).1 = ((exporter.build request
      (outputPlace request (request.directory / "code") disk)).start disk).1 := by
  have code : exporter.settings.codeDirectoryFor request.directory = request.directory / "code" := by
    rw [ExportSettings.codeDirectoryFor, favourable.inside]
    rfl
  unfold exportOne exportWith
  rw [code, favourable.lenient]
  rcases (exporter.build request (outputPlace request (request.directory / "code") disk)).start
    disk with ⟨_ | _, _⟩ <;> rfl

/-- Scripts without double dots are copied into the bundle if they can be found. -/
theorem AsksLevel.inside (level : exporter.AsksLevel request project)
    (rooted : place.code.isAbsolute = true ∨ place.code.text = "") {home : Place} {script : String}
    (member : script ∈ (exporter.allScripts request place project).paths)
    (findable : locate home (exporter.scriptCopy request place script).1 ≠ []) :
    locate home place.bundle <+: locate home (exporter.scriptCopy request place script).2 := by
  obtain ⟨flat, nameless⟩ := level.bundleName rooted member
  have relative : (Path.mk (LoadOrder.bundleName script)).isAbsolute = false := by
    rw [← Bool.not_eq_true]
    exact fun absolute => findable (nameless absolute home _)
  exact (prefix_includesDirIn request.target home place.bundle).trans
    (Memory.prefix_locate_join (Path.isInner_iff.mpr ⟨relative, flat⟩))

/-- A favourable export succeeds exactly when no file is ordered where a directory is needed,
first by its resources and then by the rest of the bundle. -/
theorem exportOne_ok_iff (favourable : exporter.Favourable request disk) :
    let place := outputPlace request (request.directory / "code") disk
    let shipped := (emptied disk.home request place).afterAll disk.tree.isFile
      (resourceOrders disk.home request place)
    (∃ report, (exporter.exportOne request disk).1 = .ok report) ↔
      shipped.Free ∧ ∀ exported session,
        (exportedProject request place).start disk = (.ok exported, session) →
          (shipped.afterAll disk.tree.isFile
            (exporter.bundleOrders disk.home request place exported)).Free := by
  intro place shipped
  have bundle : locate disk.home place.bundle = disk.place request.directory :=
    Memory.place_absolute favourable.proper request.directory
  have inCode : locate disk.home place.code = disk.place request.directory ++ ["code"] := by
    have absolute : locate disk.home place.code = disk.place (request.directory / "code") :=
      Memory.place_absolute favourable.proper (request.directory / "code")
    rw [absolute]
    exact Memory.locate_join_name (by decide)
  have code : locate disk.home place.bundle <+: locate disk.home place.code := by
    rw [bundle, inCode]
    exact List.prefix_append _ _
  have cleared : (emptied disk.home request place).IsDir (locate disk.home place.code) :=
    .inl ⟨_, List.mem_cons_of_mem _ List.mem_cons_self, List.prefix_rfl⟩
  obtain ⟨session, prepared, stands⟩ := stands_prepare request
    (bundle.symm ▸ favourable.vacant) favourable.allowed code
  have exported : (exportedProject request place).start disk = (projectWithResources
      (splashed request.target.profile request.project)
      (request.target.profile.webRootIn place.bundle)).exec session := Work.exec_bind_of_ok prepared
  have copies := settles_projectWithResources request (emptied disk.home request place)
    (TargetProfile.prefix_webRootIn request.target disk.home place.bundle) session stands
  rw [favourable.outcome]
  unfold build
  rw [Work.start, Work.exec_bind, show (exportedProject request place).exec ⟨disk, .empty⟩ = _ from
    exported]
  rcases ran : (projectWithResources (splashed request.target.profile request.project)
    (request.target.profile.webRootIn place.bundle)).exec session with ⟨fault | project, later⟩
  · rw [ran] at copies
    exact iff_of_false nofun fun free => copies free.1
  · rw [ran] at copies exported
    have level := favourable.level project later exported
    have assembles := settles_assemble exporter project shipped favourable.allowed
      favourable.templates code ((Outline.within_afterAll _ _ _).isDir cleared)
      fun script member findable => level.inside
        (isAbsolute_outputPlace request (request.directory / "code") disk) member findable
    refine (assembles.isOk_iff copies).trans ⟨fun free => ⟨copies.free, ?_⟩, fun free => ?_⟩
    · intro other session ran
      rw [exported] at ran
      cases ran
      exact free
    · exact free.2 project later exported

/-- Circumstances of web exports without extensions and layouts. -/
theorem favourable_of_bare {request : ExportRequest} {disk : Memory}
    (target : request.target = .html5) (lenient : request.strict = false)
    (extensions : request.project.extensions = []) (layouts : request.project.layouts = [])
    (home : disk.home = ["cwd"]) (allowed : disk.denied = [])
    (vacant : disk.Vacant (disk.place request.directory))
    (page : disk.readText ⟨"/rt/Runtime/index.html"⟩ = .ok "") : lone.Favourable request disk where
  lenient := by
    rw [lenient]
    rfl
  inside := rfl
  proper := by
    rw [home]
    decide
  allowed := allowed
  vacant := vacant
  templates := by
    rw [target, show lone.templateInputs .html5 = [⟨"/rt/Runtime/index.html"⟩] by decide +kernel]
    exact List.forall_mem_singleton.mpr ⟨"", page⟩
  level := by
    intro exported session ran script asked
    rw [requested_of_bare extensions layouts ran] at asked
    cases asked

theorem hero_usual : ((emptied heroDisk.home heroRequest heroPlace).afterAll heroDisk.tree.isFile
    (resourceOrders heroDisk.home heroRequest heroPlace)).Usual where
  dirs := by decide +kernel
  files := by decide +kernel

/-- All scripts of the bundle and its other files have usual names. -/
theorem hero_orders : ∀ order ∈
    lone.bundleOrders heroDisk.home heroRequest heroPlace heroRequest.project, order.IsUsual := by
  unfold bundleOrders
  simp only [List.forall_mem_append, List.forall_mem_cons, List.forall_mem_map]
  refine ⟨nofun, nofun, ?data, fun script member => ?script, ?page, nofun⟩
  case script =>
    obtain ⟨rest, file, there⟩ := hero_target member
    exact (congrArg Memory.namesFile there).trans file
  case data =>
    change Memory.namesFile _ = true
    rfl
  case page =>
    change Memory.namesFile _ = true
    rfl

def codeRequest : ExportRequest :=
  { heroRequest with
    project := { heroRequest.project with resources := ⟨[⟨"hero", .image, "code"⟩]⟩ } }

def codeDisk : Memory :=
  { heroDisk with tree := ⟨(["game", "code"], .file ⟨#[137, 80]⟩) :: heroDisk.tree.entries⟩ }

/-- The picture is exported as `hero.png`, but not as `code`. -/
theorem hero_ok_code_obstructed :
    (lone.Favourable heroRequest heroDisk ∧
      ∃ report, (lone.exportOne heroRequest heroDisk).1 = .ok report) ∧
    lone.Favourable codeRequest codeDisk ∧
      ¬∃ report, (lone.exportOne codeRequest codeDisk).1 = .ok report := by
  have hero : lone.Favourable heroRequest heroDisk :=
    favourable_of_bare rfl rfl rfl rfl rfl rfl
      (Memory.vacant_of_entries (by decide +kernel) (by decide +kernel)) rfl
  have code : lone.Favourable codeRequest codeDisk :=
    favourable_of_bare rfl rfl rfl rfl rfl rfl
      (Memory.vacant_of_entries (by decide +kernel) (by decide +kernel)) rfl
  have samePlace : outputPlace heroRequest (heroRequest.directory / "code") heroDisk = heroPlace :=
    rfl
  refine ⟨⟨hero, (exportOne_ok_iff hero).mpr ?_⟩, code, fun exported => ?_⟩
  · rw [samePlace]
    refine ⟨by decide +kernel, fun project session ran => ?_⟩
    rw [hero_exported] at ran
    cases ran
    exact (hero_usual.afterAll _ hero_orders).free
  · exact absurd ((exportOne_ok_iff code).mp exported).1 (by decide +kernel)

end Exporter

end GameBundle
