import GameBundle.Events.Inline
import GameBundle.Proofs.Bundle.Stages
import GameBundle.Proofs.Include.Engine
import GameBundle.Proofs.Include.IncludeList
import GameBundle.Proofs.Storage.Success
import GameBundle.Proofs.Text.Ordered
import GameBundle.Proofs.Text.Search

/-!
# Load order of a bundle

The scripts of a bundle are those of one plain list. It is written down in the order in
which scripts are asked for, freed of repetitions and of the scripts of the other
renderer, closed by the data, and renamed. No stage of an export reorders, loses or
brings back a script.
-/

namespace GameBundle

namespace LoadOrder

/-- Scripts of the effects that a project uses, sorted. -/
def effects (project : Project) : List String :=
  let scripts := (project.effectTypes.filter (· ≠ "")).map fun effectType =>
    "effects/" ++ Text.lower effectType ++ ".js"
  scripts.eraseDups.mergeSort fun one other => decide (one ≤ other)

def ofBehavior (events : EventsCompiler) (exported : Project) (code : Path) (forRuntime : Bool)
    (extension : Extension) (behavior : Behavior) : List String :=
  let requests := BehaviorModule.methodRequests behavior
    (Script.behaviorNamespace extension.name behavior.name) behavior.methodNames forRuntime
  (requests.flatMap fun request => (events.method exported request).includes) ++
    [(code / ("behavior-" ++ Script.mangle extension.name ++ "-" ++ Script.mangle behavior.name ++
      ".js")).text]

def ofLayout (events : EventsCompiler) (exported : Project) (code : Path) (forRuntime : Bool)
    (index : Nat) (layout : Layout) : List String :=
  (events.layout exported layout forRuntime).includes ++
    [(code / ("code" ++ toString index ++ ".js")).text]

/-- The author's scripts, numbered among all source files. -/
def external (project : Project) (code : Path) : List String :=
  (project.sourceFiles.zipIdx.filter fun (source, _) => source.language = "Javascript").map
    fun (_, index) => (code / ("ext-code" ++ toString index ++ ".js")).text

/-- All scripts that are asked for, in order and with repetitions. Events are compiled from
the exported project. -/
def asked (events : EventsCompiler) (profile : TargetProfile) (project exported : Project)
    (code : Path) : List String :=
  let forRuntime := !profile.isPreview
  coreScripts ++ eventsToolScripts ++ (if profile.debugger then debuggerScripts else []) ++
    profile.renderer.scripts ++ effects project ++
    (project.extensions.flatMap fun extension =>
      extension.behaviors.flatMap (ofBehavior events exported code forRuntime extension)) ++
    (project.layouts.mapIdx (ofLayout events exported code forRuntime)).flatten ++
    external project code

/-- What tells the scripts of the other renderer by their paths. -/
def foreignMarkers : Renderer → List String
  | .pixi => ["cocos-renderer", "cocos-shader"]
  | .cocos => ["pixi-renderer", "pixi-filter"]

/-- The scripts that are left when repetitions and those of the other renderer are dropped. -/
def kept (events : EventsCompiler) (profile : TargetProfile) (project exported : Project)
    (code : Path) : List String :=
  (asked events profile project exported code).eraseDups.filter fun script =>
    ∀ marker ∈ foreignMarkers profile.renderer, ¬marker.toList <:+: script.toList

/-- An absolute path that has a file name gives way to it. -/
def renamed (script : String) : String :=
  match (Path.mk script).isAbsolute, (Path.mk script).fileName? with
  | true, some name => name
  | _, _ => script

/-- The scripts of a bundle under the names they have there. -/
def reference (events : EventsCompiler) (profile : TargetProfile) (project exported : Project)
    (code : Path) : List String :=
  let scripts := kept events profile project exported code
  let data := (code / "data.js").text
  let loaded := if data ∈ scripts then scripts else scripts ++ [data]
  (loaded.map renamed).eraseDups

theorem kept_eq (events : EventsCompiler) (profile : TargetProfile) (project exported : Project)
    (code : Path) : kept events profile project exported code =
      (asked events profile project exported code).eraseDups.filter fun script =>
        !IncludeList.isMarked profile.renderer.other.markers script := by
  have markers : foreignMarkers profile.renderer = profile.renderer.other.markers := by
    cases profile.renderer <;> rfl
  unfold kept
  rw [markers]
  congr 1
  funext script
  rw [Bool.eq_iff_iff]
  simp [IncludeList.isMarked, ← Text.contains_iff]

theorem renamed_eq : renamed = bundleName := by
  funext script
  cases absolute : (Path.mk script).isAbsolute <;> cases named : (Path.mk script).fileName? <;>
    simp [renamed, bundleName, absolute, named]

theorem mem_reference {events : EventsCompiler} {profile : TargetProfile}
    {project exported : Project} {code : Path} {name : String} :
    name ∈ reference events profile project exported code ↔
      ∃ script, (script ∈ kept events profile project exported code ∨
        script = (code / "data.js").text) ∧ renamed script = name := by
  unfold reference
  dsimp only
  rw [List.mem_eraseDups, List.mem_map]
  refine exists_congr fun script => and_congr_left fun _ => ?_
  split
  · rename_i held
    exact (or_iff_left_of_imp fun same => same ▸ held).symm
  · rw [List.mem_append, List.mem_singleton]

theorem layoutFile_eq (index : Nat) :
    GeneratedScript.layoutFile index = "code" ++ toString index ++ ".js" := by
  rw [GeneratedScript.layoutFile, Decimal.text_eq_toString]

theorem externalFile_eq (index : Nat) :
    ExternalScript.file index = "ext-code" ++ toString index ++ ".js" := by
  rw [ExternalScript.file, Decimal.text_eq_toString]

theorem engineParts_scripts (profile : TargetProfile) :
    profile.engineParts.scripts = coreScripts ++ eventsToolScripts ++
      (if profile.debugger then debuggerScripts else []) ++ profile.renderer.scripts := by
  unfold EngineParts.scripts TargetProfile.engineParts
  cases profile.renderer <;> simp

theorem effectScripts_eq (project : Project) : project.effectScripts = effects project := by
  unfold Project.effectScripts effects
  have nodup := (IncludeList.wellFormed_ofList
    ((project.effectTypes.filter (· ≠ "")).map Project.effectScript)).nodup
  rw [IncludeList.paths_ofList] at nodup
  exact Text.ordered_eq_mergeSort nodup fun script => List.mem_eraseDups

theorem external_eq (project : Project) (code : Path) :
    (ExternalScript.ofProject project code).map (fun script => script.target.text) =
      external project code := by
  unfold ExternalScript.ofProject external
  rw [List.mapIdx_eq_zipIdx_map]
  induction project.sourceFiles.zipIdx with
  | nil => rfl
  | cons entry rest ih =>
    obtain ⟨source, index⟩ := entry
    by_cases javascript : source.language = "Javascript" <;>
      simpa [ExternalScript.ofSource?, externalFile_eq, javascript] using ih

section

variable (events : EventsCompiler) (project : Project) (code : Path) (forRuntime : Bool)

theorem addGenerated_eq_extend (includes : IncludeList) (script : GeneratedScript) :
    addGenerated includes script = includes.extend (script.needed ++ [script.path.text]) :=
  IncludeList.insert_extend includes script.needed script.path.text

/-- A behavior adds what its functions need; that the module lists it once makes no
difference. -/
theorem addGenerated_ofBehavior (includes : IncludeList) (extension : Extension)
    (behavior : Behavior) :
    addGenerated includes (GeneratedScript.ofBehavior ⟨project, events, Shim.standard⟩ code
        forRuntime extension behavior) =
      includes.extend (ofBehavior events project code forRuntime extension behavior) := by
  unfold addGenerated ofBehavior GeneratedScript.ofBehavior
  simp only [BehaviorGenerator.generate]
  change (includes.extend (IncludeList.ofList _).paths).insert _ = _
  rw [IncludeList.paths_ofList, IncludeList.extend_eraseDups, IncludeList.insert_extend,
    BehaviorModule.methodRequests, List.flatMap_map, List.flatMap_map]
  rfl

theorem addGenerated_ofLayout (includes : IncludeList) (layout : Layout) (index : Nat) :
    addGenerated includes (GeneratedScript.ofLayout events project code forRuntime layout index) =
      includes.extend (ofLayout events project code forRuntime index layout) := by
  rw [ofLayout, ← layoutFile_eq]
  exact addGenerated_eq_extend includes _

theorem foldl_addGenerated (includes : IncludeList) :
    (GeneratedScript.ofProject events project code forRuntime).foldl addGenerated includes =
      includes.extend
        ((project.extensions.flatMap fun extension =>
            extension.behaviors.flatMap (ofBehavior events project code forRuntime extension)) ++
          (project.layouts.mapIdx (ofLayout events project code forRuntime)).flatten) := by
  have behaviors (includes : IncludeList) (extension : Extension) :
      (extension.behaviors.map (GeneratedScript.ofBehavior ⟨project, events, Shim.standard⟩ code
          forRuntime extension)).foldl addGenerated includes =
        includes.extend
          (extension.behaviors.flatMap (ofBehavior events project code forRuntime extension)) := by
    rw [List.foldl_map, IncludeList.extend_flatMap]
    congr 1
    funext includes behavior
    exact addGenerated_ofBehavior events project code forRuntime includes extension behavior
  unfold GeneratedScript.ofProject
  rw [List.foldl_append, IncludeList.extend_append, List.foldl_flatMap,
    IncludeList.extend_flatMap, List.mapIdx_eq_zipIdx_map, List.mapIdx_eq_zipIdx_map,
    ← List.flatMap_def, List.foldl_map, IncludeList.extend_flatMap]
  congr 1
  · funext includes entry
    exact addGenerated_ofLayout events project code forRuntime includes entry.1 entry.2
  · congr 1
    funext includes extension
    exact behaviors includes extension

end

theorem gathered_eq (events : EventsCompiler) (profile : TargetProfile) (project : Project)
    (code : Path) :
    gathered profile project
        (GeneratedScript.ofProject events project code (!profile.isPreview))
        (ExternalScript.ofProject project code) =
      IncludeList.ofList (asked events profile project project code) := by
  simp only [gathered, asked]
  rw [foldl_addGenerated, external_eq, engineParts_scripts, effectScripts_eq]
  simp only [IncludeList.ofList_extend, List.append_assoc]

/-- What is asked for depends on what a project declares, not on its resources. -/
theorem asked_congr (events : EventsCompiler) (profile : TargetProfile)
    {project other : Project} (exported : Project) (code : Path)
    (extensions : other.extensions = project.extensions) (layouts : other.layouts = project.layouts)
    (sourceFiles : other.sourceFiles = project.sourceFiles) :
    asked events profile other exported code = asked events profile project exported code := by
  simp only [asked, effects, external, Project.effectTypes, extensions, layouts, sourceFiles]

theorem paths_filtered (events : EventsCompiler) (profile : TargetProfile) (project : Project)
    (code : Path) :
    (filtered profile (IncludeList.ofList (asked events profile project project code))).paths =
      kept events profile project project code := by
  rw [kept_eq, ← IncludeList.paths_ofList]
  rfl

theorem nodup_bundleNames (includes : IncludeList) : (bundleNames includes).Nodup :=
  (IncludeList.wellFormed_ofList _).nodup

theorem mem_bundleNames {includes : IncludeList} {name : String} :
    name ∈ bundleNames includes ↔ ∃ script ∈ includes.paths, bundleName script = name := by
  rw [bundleNames, IncludeList.paths_ofList, List.mem_eraseDups, List.mem_map]

end LoadOrder

namespace Exporter

variable {σ : Type} [Storage σ] {exporter : Exporter} {request : ExportRequest}

theorem scriptsOf_eq (place : OutputPlace) (project : Project) :
    exporter.scriptsOf request place project =
      LoadOrder.filtered request.target.profile (IncludeList.ofList
        (LoadOrder.asked exporter.events request.target.profile project project place.code)) :=
  congrArg (LoadOrder.filtered request.target.profile)
    (LoadOrder.gathered_eq exporter.events request.target.profile project place.code)

theorem paths_scriptsOf (place : OutputPlace) (project : Project) :
    (exporter.scriptsOf request place project).paths =
      LoadOrder.kept exporter.events request.target.profile project project place.code := by
  rw [scriptsOf_eq]
  exact LoadOrder.paths_filtered exporter.events request.target.profile project place.code

theorem wellFormed_scriptsOf (place : OutputPlace) (project : Project) :
    (exporter.scriptsOf request place project).WellFormed := by
  rw [scriptsOf_eq]
  exact (IncludeList.wellFormed_ofList _).withoutMarked _

theorem asked_or_data_of_mem {place : OutputPlace} {project : Project} {script : String}
    (member : script ∈ (exporter.allScripts request place project).paths) :
    script ∈ LoadOrder.asked exporter.events request.target.profile project project place.code ∨
      script = (place.code / "data.js").text := by
  have asked (held : script ∈ LoadOrder.kept exporter.events request.target.profile project
      project place.code) := List.mem_eraseDups.mp (List.mem_filter.mp held).1
  unfold allScripts at member
  rw [IncludeList.paths_insert (wellFormed_scriptsOf _ _), paths_scriptsOf] at member
  split at member
  · exact .inl (asked member)
  · rcases List.mem_append.mp member with held | last
    · exact .inl (asked held)
    · exact .inr (List.mem_singleton.mp last)

theorem bundleNames_allScripts (place : OutputPlace) (project : Project) :
    LoadOrder.bundleNames (exporter.allScripts request place project) =
      LoadOrder.reference exporter.events request.target.profile project project place.code := by
  unfold allScripts LoadOrder.bundleNames LoadOrder.reference
  rw [IncludeList.paths_ofList, IncludeList.paths_insert (wellFormed_scriptsOf place project),
    paths_scriptsOf, LoadOrder.renamed_eq]

/-- Every successful export lists the scripts of the reference order, where events are
compiled from the project with its exported resources. -/
theorem includes_eq_reference {codeDirectory : Path} {disk after : σ} {report : ExportReport}
    (h : exporter.exportWith request codeDirectory disk = (.ok report, after)) :
    ∃ exported session,
      (exportedProject request (outputPlace request codeDirectory disk)).start disk =
        (.ok exported, session) ∧
      report.includes = LoadOrder.reference exporter.events request.target.profile request.project
        exported (Storage.absolute codeDirectory disk) := by
  obtain ⟨exported, session, final, first, second, -⟩ := exportWith_eq_ok h
  refine ⟨exported, session, first, ?_⟩
  obtain ⟨extensions, layouts, sourceFiles⟩ := exportedProject_declares first
  have declared := LoadOrder.asked_congr exporter.events request.target.profile exported
    (Storage.absolute codeDirectory disk) extensions layouts sourceFiles
  rw [assemble_includes second, bundleNames_allScripts]
  unfold LoadOrder.reference LoadOrder.kept
  rw [← declared]
  rfl

/-- An exporter whose runtime directory is `/rt/Runtime`. -/
def lone : Exporter where
  settings := .ofRoot ⟨"/rt"⟩
  events := .inline

/-- A web export of a game with one picture. -/
def heroRequest : ExportRequest :=
  .plain { Project.blank "Game" with
    projectFile := "/game/game.json"
    resources := ⟨[⟨"hero", .image, "hero.png"⟩]⟩ } .html5 ⟨"/out"⟩

/-- The picture, and a runtime that holds an empty page and nothing else. -/
def heroDisk : Memory where
  tree := ⟨[(["rt", "Runtime", "index.html"], .file .empty), (["rt", "Runtime"], .directory),
    (["rt"], .directory), (["game", "hero.png"], .file ⟨#[137, 80]⟩), (["game"], .directory)]⟩
  home := ["cwd"]
  denied := []

def heroPlace : OutputPlace := outputPlace heroRequest ⟨"/out/code"⟩ heroDisk

def heroSession : Session Memory := ((exportedProject heroRequest heroPlace).start heroDisk).2

theorem hero_exported : (exportedProject heroRequest heroPlace).start heroDisk =
    (.ok heroRequest.project, heroSession) := by
  have ok : ((exportedProject heroRequest heroPlace).start heroDisk).1 =
      .ok heroRequest.project := by
    decide +kernel
  rw [heroSession, ← ok]

theorem hero_asked : LoadOrder.asked lone.events heroRequest.target.profile heroRequest.project
    heroRequest.project heroPlace.code =
      coreScripts ++ eventsToolScripts ++ Renderer.pixi.scripts := by
  decide +kernel

/-- The files once the picture is exported. -/
theorem hero_disk : heroSession.disk = {
    tree := ⟨[(["out", "hero.png"], .file ⟨#[137, 80]⟩), (["out", "code"], .directory),
      (["out"], .directory)] ++ heroDisk.tree.entries⟩
    home := ["cwd"]
    denied := [] } := by
  have entries : heroSession.disk.tree.entries = [(["out", "hero.png"], .file ⟨#[137, 80]⟩),
      (["out", "code"], .directory), (["out"], .directory)] ++ heroDisk.tree.entries := rfl
  have others : heroSession.disk.home = ["cwd"] ∧ heroSession.disk.denied = [] := by
    exact ⟨rfl, rfl⟩
  have whole : heroSession.disk = ⟨⟨heroSession.disk.tree.entries⟩, heroSession.disk.home,
    heroSession.disk.denied⟩ := rfl
  rw [whole, entries, others.1, others.2]

theorem hero_quiet : heroSession.diagnostics = .empty := rfl

/-- What holds of the files from the picture being exported until the page is written: its
template has a given text, and files with usual names can be put into the bundle. -/
structure HeroReady (page : String) (disk : Memory) : Prop where
  home : disk.home = ["cwd"]
  lenient : disk.denied = []
  template : disk.tree.get? ["rt", "Runtime", "index.html"] = some (.file page.toUTF8)
  fits : ∀ call rest, Memory.namesFile ("out" :: rest) = true → disk.Fits call ("out" :: rest)

section

variable {page : String}

theorem HeroReady.put {disk : Memory} (ready : HeroReady page disk) {rest : Place}
    (file : Memory.namesFile ("out" :: rest) = true) (bytes : ByteArray) :
    HeroReady page (disk.put ("out" :: rest) bytes) where
  home := ready.home
  lenient := ready.lenient
  template := Memory.file_put_of_ne ready.template (by simp) bytes
  fits call other otherFile := (ready.fits call other otherFile).put_file otherFile file bytes

theorem hero_output (rest : Place) : heroSession.disk.tree.get? ("out" :: rest) =
    if rest = ["hero.png"] then some (.file ⟨#[137, 80]⟩)
    else if rest = ["code"] ∨ rest = [] then some .directory else none := by
  have same (names : Place) : (rest == names) = decide (rest = names) :=
    beq_eq_decide rest names
  rw [hero_disk]
  simp only [Tree.get?, heroDisk, List.cons_append, List.nil_append, List.lookup_cons,
    List.cons_beq_cons, beq_self_eq_true, Bool.true_and, same, reduceCtorEq, if_false]
  by_cases picture : rest = ["hero.png"]
  · simp [picture]
  · by_cases code : rest = ["code"]
    · simp [code]
    · by_cases bundle : rest = [] <;> simp [picture, code, bundle]

/-- With nothing but the picture in the bundle, files fit into it. -/
theorem heroReady_of_output {disk : Memory} (home : disk.home = ["cwd"])
    (lenient : disk.denied = [])
    (template : disk.tree.get? ["rt", "Runtime", "index.html"] = some (.file page.toUTF8))
    (output : ∀ rest, disk.tree.get? ("out" :: rest) = heroSession.disk.tree.get? ("out" :: rest)) :
    HeroReady page disk where
  home := home
  lenient := lenient
  template := template
  fits call rest file := by
    refine ⟨by simp [Memory.isDenied, lenient], fun other member => ?_, ?_⟩
    · obtain ⟨inhabited, before⟩ := Tree.mem_upTo.mp member
      cases other with
      | nil => exact absurd rfl inhabited
      | cons first others =>
        obtain rfl : first = "out" := by
          cases rest with
          | nil => simp at before
          | cons name rest => simpa using (List.cons_prefix_cons.mp before).1
        rw [← Bool.not_eq_true]
        intro found
        obtain ⟨bytes, held⟩ := Tree.isFile_iff.mp found
        rw [output, hero_output] at held
        split_ifs at held with picture
        · subst picture
          exact Memory.not_above_of_namesFile (by decide) file before
        · cases held
    · rw [← Bool.not_eq_true]
      intro found
      rw [Tree.isDirectory, output, hero_output] at found
      split_ifs at found with picture directory
      · cases found
      · rcases directory with rfl | rfl <;> exact absurd file (by decide)
      · cases found

theorem heroReady : HeroReady "" heroSession.disk :=
  heroReady_of_output (by rw [hero_disk]) (by rw [hero_disk]) (by rw [hero_disk]; rfl) fun _ => rfl

theorem mem_hero_scripts {script : String}
    (member : script ∈ (lone.allScripts heroRequest heroPlace heroRequest.project).paths) :
    script ∈ coreScripts ++ eventsToolScripts ++ Renderer.pixi.scripts ∨
      script = (heroPlace.code / "data.js").text := by
  rw [← hero_asked]
  exact asked_or_data_of_mem member

theorem namesFile_of_isDotted {more : List Char} (dotted : Path.isDotted more = true) :
    Memory.namesFile ("out" :: (Path.splitParts more).map String.ofList) = true := by
  have inhabited : (Path.splitParts more).map String.ofList ≠ [] := by
    simpa using Path.splitParts_ne_nil more
  have last : ("out" :: (Path.splitParts more).map String.ofList).getLast? =
      (Path.splitParts more).getLast?.map String.ofList := by
    rw [List.getLast?_cons_of_ne_nil inhabited, List.getLast?_map]
  unfold Path.isDotted at dotted
  unfold Memory.namesFile
  rw [List.dropLast_cons_of_ne_nil inhabited, last, ← List.map_dropLast]
  simpa [-List.map_dropLast, Option.any_map, List.all_map, Function.comp_def] using dotted

theorem hero_plain {script : String}
    (member : script ∈ coreScripts ++ eventsToolScripts ++ Renderer.pixi.scripts) :
    Path.isPlain script.toList = true := by
  apply isPlain_engine
  simp only [List.mem_append] at member ⊢
  tauto

/-- A script of the engine gets a usual name in the bundle. -/
theorem engine_target {script : String}
    (member : script ∈ coreScripts ++ eventsToolScripts ++ Renderer.pixi.scripts) :
    ∃ rest, Memory.namesFile ("out" :: rest) = true ∧
      Memory.locate ["cwd"] (heroRequest.target.profile.includesDirIn heroPlace.bundle /
        LoadOrder.bundleName script) = "out" :: rest := by
  have root : Memory.locate ["cwd"] (heroRequest.target.profile.includesDirIn heroPlace.bundle) =
      ["out"] := rfl
  have plain : Path.isPlain script.toList = true := hero_plain member
  have same : LoadOrder.bundleName script = script := by
    rw [LoadOrder.bundleName, if_neg (by
      simp [Path.relative_of_isInner (Path.isInner_of_isPlain plain)])]
  rw [same, Memory.locate_join_plain plain, root]
  exact ⟨_, namesFile_of_isDotted (isDotted_engine member), rfl⟩

theorem hero_target {script : String}
    (member : script ∈ (lone.allScripts heroRequest heroPlace heroRequest.project).paths) :
    ∃ rest, Memory.namesFile ("out" :: rest) = true ∧
      Memory.locate ["cwd"] (heroRequest.target.profile.includesDirIn heroPlace.bundle /
        LoadOrder.bundleName script) = "out" :: rest := by
  rcases mem_hero_scripts member with engine | rfl
  · exact engine_target engine
  · exact ⟨["data.js"], by decide, rfl⟩

theorem HeroReady.place_eq {disk : Memory} (ready : HeroReady page disk) (path : Path) :
    disk.place path = Memory.locate ["cwd"] path := by
  unfold Memory.place
  rw [ready.home]

theorem hero_write {session : Session Memory} (ready : HeroReady page session.disk) {path : Path}
    {rest : Place} (there : Memory.locate ["cwd"] path = "out" :: rest)
    (file : Memory.namesFile ("out" :: rest) = true) (text : String) :
    Work.Succeeds (Work.write path text) session fun _ later => HeroReady page later.disk := by
  have target : session.disk.place path = "out" :: rest := (ready.place_eq path).trans there
  have fits : session.disk.Fits .write (session.disk.place path) := by
    rw [target]
    exact ready.fits .write rest file
  refine .change (Memory.write_of_fits fits _) ?_
  rw [target]
  exact ready.put file _

/-- A script that gets a usual name in the bundle is copied if it is found. -/
theorem HeroReady.materialize {session : Session Memory} (ready : HeroReady page session.disk)
    {script : String} {rest : Place} (file : Memory.namesFile ("out" :: rest) = true)
    (there : Memory.locate ["cwd"] (heroRequest.target.profile.includesDirIn heroPlace.bundle /
      LoadOrder.bundleName script) = "out" :: rest) :
    Work.Succeeds (materialize lone.settings.runtimeDirectory
        (heroRequest.target.profile.includesDirIn heroPlace.bundle) script) session
      fun _ later => HeroReady page later.disk := by
  have target := (ready.place_eq _).trans there
  refine .bind (.look (Q := fun found later => later = session ∧ found = Memory.isFile
    (LoadOrder.source lone.settings.runtimeDirectory script) session.disk) ⟨rfl, rfl⟩) ?_
  rintro found session ⟨rfl, rfl⟩
  cases found : Memory.isFile (LoadOrder.source lone.settings.runtimeDirectory script)
      session.disk with
  | false => exact .warn ready _ _ _
  | true =>
    obtain ⟨bytes, read⟩ := Tree.isFile_iff.mp found
    refine .change (Memory.copy_of_fits (target ▸ ready.fits .copy rest file) read) ?_
    rw [target]
    exact ready.put file bytes

theorem HeroReady.readText {disk : Memory} (ready : HeroReady page disk) :
    disk.readText (lone.settings.runtimeDirectory / heroRequest.target.profile.indexTemplate) =
      .ok page := by
  have place : Memory.locate ["cwd"]
      (lone.settings.runtimeDirectory / heroRequest.target.profile.indexTemplate) =
        ["rt", "Runtime", "index.html"] := rfl
  rw [← Memory.decodeText_toUTF8]
  simp only [Memory.readText, Memory.isDenied, ready.place_eq, place, ready.lenient,
    Memory.contents, ready.template]
  rfl

theorem hero_page {session : Session Memory} (ready : HeroReady page session.disk)
    (scripts : List String) :
    Work.Succeeds (EntryPoint.render heroRequest.target.profile lone.settings.runtimeDirectory
      heroPlace.bundle scripts) session fun _ _ => True := by
  unfold EntryPoint.render
  refine .bind (Q := fun _ later => HeroReady page later.disk) ?_ fun _ later ready => ?_
  · refine .bind (.look (Q := fun read later => HeroReady page later.disk ∧ read = .ok page)
      ⟨ready, ready.readText⟩) ?_
    rintro read later ⟨ready, rfl⟩
    exact .pure ready
  refine .bind (Q := fun _ later => HeroReady page later.disk) ?_ fun _ later ready => ?_
  · refine .bind (.look (Q := fun _ later => HeroReady page later.disk) ready) fun _ _ ready => ?_
    exact .bind (.report ready _) fun _ _ ready => .pure ready
  have there : Memory.locate ["cwd"] (heroRequest.target.profile.webRootIn heroPlace.bundle /
      "index.html") = ["out", "index.html"] := rfl
  exact .bind (hero_write ready there (by decide) _) fun _ _ _ => .pure trivial

theorem hero_finishes {request : ExportRequest} (web : request.target = .html5)
    {session : Session Memory} (ready : HeroReady page session.disk) (project : Project) :
    Work.Succeeds (lone.finish request heroPlace project) session fun _ _ => True := by
  cases request
  cases web
  refine .bind (hero_page ready _) fun _ _ _ => ?_
  refine .bind (Q := fun _ _ => True) (.pure trivial) fun _ _ _ => ?_
  exact .bind (Q := fun _ _ => True) (.get trivial) fun _ _ _ => .pure trivial

/-- The scripts of a bundle are made when those generated are, nothing comes from the author, and
all scripts get usual names. -/
theorem supplies_of_generated {session : Session Memory} {request : ExportRequest}
    (web : request.target = .html5) (project : Project)
    (generated : Work.Succeeds ((GeneratedScript.ofProject lone.events project heroPlace.code
      (!request.target.profile.isPreview)).forM writeGenerated) session
      fun _ later => HeroReady page later.disk)
    (external : ExternalScript.ofProject project heroPlace.code = [])
    (targets : ∀ script ∈ (lone.allScripts request heroPlace project).paths, ∃ rest,
      Memory.namesFile ("out" :: rest) = true ∧
        Memory.locate ["cwd"] (heroRequest.target.profile.includesDirIn heroPlace.bundle /
          LoadOrder.bundleName script) = "out" :: rest) :
    Work.Succeeds (lone.supply request heroPlace project) session
      fun _ later => HeroReady page later.disk := by
  unfold supply
  rw [external, web]
  rw [web] at generated
  refine .bind generated fun _ _ ready => ?_
  refine .bind (Q := fun _ later => HeroReady page later.disk) (.pure ready) fun _ _ ready => ?_
  have there : Memory.locate ["cwd"] (heroPlace.code / "data.js") = ["out", "code", "data.js"] :=
    rfl
  refine .bind (hero_write ready there (by decide) _) fun _ _ ready => ?_
  refine .forM ready fun script member _ ready => ?_
  obtain ⟨rest, file, target⟩ := targets script member
  exact ready.materialize file target

/-- Nothing is generated for the picture, whatever fingerprints are known. -/
theorem hero_supplies (hashes : Dictionary Nat) {session : Session Memory}
    (ready : HeroReady page session.disk) :
    Work.Succeeds (lone.supply { heroRequest with hashes } heroPlace heroRequest.project) session
      fun _ later => HeroReady page later.disk :=
  supplies_of_generated rfl _ (.pure ready) rfl fun _ member => hero_target member

theorem hero_supply_eq_ok {session supplied : Session Memory}
    (ran : (lone.supply heroRequest heroPlace heroRequest.project).exec session =
      (.ok (), supplied)) :
    ∃ text stored, (Work.write (heroPlace.code / "data.js") text).exec session =
        (.ok (), stored) ∧
      ((lone.allScripts heroRequest heroPlace heroRequest.project).paths.forM
        (materialize lone.settings.runtimeDirectory
          (heroRequest.target.profile.includesDirIn heroPlace.bundle))).exec stored =
            (.ok (), supplied) := by
  obtain ⟨_, _, stored, first, second, third, last⟩ := supply_eq_ok ran
  -- nothing is generated, and no script comes from the author
  cases first
  cases second
  exact ⟨_, stored, third, last⟩

theorem hero_assembles (hashes : Dictionary Nat) {session : Session Memory}
    (ready : HeroReady page session.disk) :
    Work.Succeeds (lone.assemble { heroRequest with hashes } heroPlace heroRequest.project) session
      fun _ _ => True := by
  rw [assemble_eq]
  exact .bind (hero_supplies hashes ready) fun _ _ ready => hero_finishes rfl ready _

theorem hero_succeeds :
    ∃ report after, lone.exportWith heroRequest ⟨"/out/code"⟩ heroDisk = (.ok report, after) := by
  obtain ⟨report, final, ran, -⟩ := hero_assembles heroRequest.hashes heroReady
  exact ⟨report, final.disk, exportWith_of_ok rfl hero_exported ran⟩

/-- A function whose code needs a script of the runtime. -/
def clockFunction : EventsFunction :=
  ⟨"onCreated", "", [.object [("type", .string "JsCode"), ("inlineCode", .string "tick();"),
    ("includeFiles", .array [.string "clock.js"])]]⟩

/-- The web export of a game with a picture, a layout and a behavior. -/
def levelRequest : ExportRequest :=
  { heroRequest with
    project := { heroRequest.project with
      layouts := [⟨"Main", [], [], [], []⟩]
      extensions := [⟨"Tools", "", [⟨"Clock", "", "", [], [clockFunction]⟩]⟩] } }

/-- Layouts and behaviors are not looked at before code is generated. -/
theorem level_exported : (exportedProject levelRequest heroPlace).start heroDisk =
    (.ok levelRequest.project, heroSession) := by
  have same : (exportedProject levelRequest heroPlace).start heroDisk = _ :=
    exportedProject_congr hero_exported rfl rfl rfl
  rw [same]
  rfl

theorem level_asked : LoadOrder.asked lone.events levelRequest.target.profile levelRequest.project
    levelRequest.project heroPlace.code =
      coreScripts ++ eventsToolScripts ++ Renderer.pixi.scripts ++
        ["clock.js", "/out/code/behavior-Tools-Clock.js", "/out/code/code0.js"] := by
  decide +kernel

theorem level_target {script : String}
    (member : script ∈ (lone.allScripts levelRequest heroPlace levelRequest.project).paths) :
    ∃ rest, Memory.namesFile ("out" :: rest) = true ∧
      Memory.locate ["cwd"] (heroRequest.target.profile.includesDirIn heroPlace.bundle /
        LoadOrder.bundleName script) = "out" :: rest := by
  rcases asked_or_data_of_mem member with asked | rfl
  · rw [level_asked] at asked
    rcases List.mem_append.mp asked with engine | own
    · exact engine_target engine
    · simp only [List.mem_cons, List.not_mem_nil, or_false] at own
      rcases own with rfl | rfl | rfl
      · exact ⟨["clock.js"], by decide, rfl⟩
      · exact ⟨["behavior-Tools-Clock.js"], by decide, rfl⟩
      · exact ⟨["code0.js"], by decide, rfl⟩
  · exact ⟨["data.js"], by decide, rfl⟩

theorem level_generated {session : Session Memory} (ready : HeroReady page session.disk) :
    Work.Succeeds ((GeneratedScript.ofProject lone.events levelRequest.project heroPlace.code
      (!levelRequest.target.profile.isPreview)).forM writeGenerated) session
      fun _ later => HeroReady page later.disk := by
  have two : (GeneratedScript.ofProject lone.events levelRequest.project heroPlace.code
      (!levelRequest.target.profile.isPreview)).map
        (fun script => Memory.locate ["cwd"] script.path) =
          [["out", "code", "behavior-Tools-Clock.js"], ["out", "code", "code0.js"]] := by
    decide +kernel
  refine .forM ready fun script member session ready => ?_
  have there := List.mem_map_of_mem (f := fun script : GeneratedScript =>
    Memory.locate ["cwd"] script.path) member
  rw [two, List.mem_cons, List.mem_singleton] at there
  rcases there with behavior | layout
  · exact .bind (hero_write ready behavior (by decide) _) fun _ _ ready => .report ready _
  · exact .bind (hero_write ready layout (by decide) _) fun _ _ ready => .report ready _

theorem level_assembles {session : Session Memory} (ready : HeroReady page session.disk) :
    Work.Succeeds (lone.assemble levelRequest heroPlace levelRequest.project) session
      fun _ _ => True := by
  rw [assemble_eq]
  exact .bind (supplies_of_generated rfl _ (level_generated ready) rfl fun _ member =>
    level_target member) fun _ _ ready => hero_finishes rfl ready _

end

theorem level_succeeds :
    ∃ report after, lone.exportWith levelRequest ⟨"/out/code"⟩ heroDisk = (.ok report, after) := by
  obtain ⟨report, final, ran, -⟩ := level_assembles heroReady
  exact ⟨report, final.disk, exportWith_of_ok rfl level_exported ran⟩

/-- The scripts of the level are listed under their file names. -/
theorem level_includes_eq_reference : ∃ report after exported session,
    lone.exportWith levelRequest ⟨"/out/code"⟩ heroDisk = (.ok report, after) ∧
    (exportedProject levelRequest heroPlace).start heroDisk = (.ok exported, session) ∧
    report.includes = LoadOrder.reference lone.events levelRequest.target.profile
      levelRequest.project exported heroPlace.code ∧
    ∀ name ∈ ["clock.js", "behavior-Tools-Clock.js", "code0.js", "data.js"],
      name ∈ report.includes := by
  obtain ⟨report, after, done⟩ := level_succeeds
  obtain ⟨exported, session, first, same⟩ := includes_eq_reference done
  refine ⟨report, after, exported, session, done, first, same, ?_⟩
  obtain ⟨rfl, -⟩ := Work.ok_unique level_exported first
  have listed (script : String)
      (own : script ∈ ["clock.js", "/out/code/behavior-Tools-Clock.js", "/out/code/code0.js"])
      (free : ∀ marker ∈ ["cocos-renderer", "cocos-shader"], ¬marker.toList <:+: script.toList) :
      LoadOrder.renamed script ∈ report.includes := by
    rw [same, LoadOrder.mem_reference]
    refine ⟨script, .inl (List.mem_filter.mpr ⟨List.mem_eraseDups.mpr ?_, ?_⟩), rfl⟩
    · have asked := List.mem_append_right
        (coreScripts ++ eventsToolScripts ++ Renderer.pixi.scripts) own
      rw [← level_asked] at asked
      exact asked
    · exact decide_eq_true free
  intro name member
  simp only [List.mem_cons, List.not_mem_nil, or_false] at member
  rcases member with rfl | rfl | rfl | rfl
  · exact listed "clock.js" (by simp) (by decide)
  · exact listed "/out/code/behavior-Tools-Clock.js" (by simp) (by decide)
  · exact listed "/out/code/code0.js" (by simp) (by decide)
  · rw [same, LoadOrder.mem_reference]
    exact ⟨"/out/code/data.js", .inr rfl, rfl⟩

end Exporter

end GameBundle
