import GameBundle.Proofs.Bundle.ExportedResources
import GameBundle.Proofs.Bundle.FinishedBundle
import GameBundle.Proofs.Bundle.RendererFilter
import GameBundle.Proofs.Template.Segmentation

/-!
# Completeness of clean exports

An export that reports nothing has left nothing out. The scripts that it lists and the
files of the resources that the data names are in the bundle, and the entry point, or the
project file of a native package, lists every script once and in order.
-/

namespace GameBundle.Exporter

open Memory (locate Within)
open Session (Ahead)

variable {exporter : Exporter} {request : ExportRequest} {place : OutputPlace} {project : Project}
  {session later : Session Memory} {report : ExportReport}

theorem isFile_of_packageFiles {source : PackageSource} {files : List Path}
    (ran : (packageFiles source).exec session = (.ok files, later)) :
    ∀ path ∈ files, later.disk.isFile path = true := by
  unfold packageFiles at ran
  split at ran
  · exact PackageSource.makes_package session files later (fun path member => by cases member) ran
  · cases ran
    exact fun path member => by cases member

theorem file_stays_of_within {home spot : Place} {above : Place → Prop} {before after : Memory}
    {bytes : ByteArray} (within : Within home (· ≠ spot) above before after)
    (base : before.home = home) (held : before.tree.get? spot = some (.file bytes)) :
    after.tree.get? spot = some (.file bytes) :=
  (within base).tree.file_stays (fun apart => apart rfl) held

section Finishing

variable {supplied rendered final : Session Memory} {page : Path} {files : List Path}

theorem data_stays {profile : TargetProfile} {runtime directory : Path} {scripts : List String}
    {source : PackageSource} {spot : Place} {bytes : ByteArray}
    (first : (EntryPoint.render profile runtime directory scripts).exec supplied =
      (.ok page, rendered))
    (second : (packageFiles source).exec rendered = (.ok files, final))
    (named : spot.getLast? = some "data.js")
    (held : supplied.disk.tree.get? spot = some (.file bytes)) :
    final.disk.tree.get? spot = some (.file bytes) := by
  have paged := file_stays_of_within
    ((EntryPoint.keeps_render_elsewhere (by rw [named]; decide)).of_exec first) rfl held
  exact file_stays_of_within
    ((keeps_packageFiles_elsewhere source (by rw [named]; decide)).of_exec second) rfl paged

theorem page_of_finish (web : request.target ≠ .cocos2d)
    (first : (EntryPoint.render request.target.profile exporter.settings.runtimeDirectory
      place.bundle ((LoadOrder.bundleNames (exporter.allScripts request place project)).map
        (LoadOrder.listedName request.target.profile.includesDir))).exec supplied =
          (.ok page, rendered))
    (second : (packageFiles (exporter.packageSource request place project)).exec rendered =
      (.ok files, final))
    (quiet : final.diagnostics = .empty) :
    ∃ template, supplied.disk.readText (exporter.settings.runtimeDirectory /
        request.target.profile.indexTemplate) = .ok template ∧
      final.disk.tree.get? (final.disk.place
          (request.target.profile.webRootIn place.bundle / "index.html")) = some (.file
        (EntryPoint.page template
          (LoadOrder.bundleNames (exporter.allScripts request place project))
          (if request.target.profile.isPreview then "kiln.runtimeGameOptions" else "")).toUTF8) := by
  have lists : request.target.profile.indexIncludes = true ∧
      request.target.profile.includesDir = "" := by
    revert web
    cases request.target <;> decide
  have toEnd : Ahead rendered final := ahead_packageFiles second
  have home := (trans_of Ahead (EntryPoint.ahead_render first) toEnd).files.base
  obtain ⟨rfl, -, template, read, loads⟩ := EntryPoint.render_eq_ok first
  have loaded := loads (toEnd.quiet quiet)
  rw [if_pos lists.1, lists.2, show LoadOrder.listedName "" = id from rfl, List.map_id] at loaded
  refine ⟨template, read, ?_⟩
  rw [Memory.place_eq_of_home home]
  refine file_stays_of_within ((keeps_packageFiles_elsewhere _ ?_).of_exec second) rfl loaded
  rw [Memory.place, Memory.locate_join_name (by decide), List.getLast?_concat]
  decide

theorem projectFile_of_finish {scripts : List String} (native : request.target = .cocos2d)
    (first : (EntryPoint.render request.target.profile exporter.settings.runtimeDirectory
      place.bundle scripts).exec supplied = (.ok page, rendered))
    (second : (packageFiles (exporter.packageSource request place project)).exec rendered =
      (.ok files, final))
    (quiet : final.diagnostics = .empty) :
    ∃ template, supplied.disk.readText
        (exporter.settings.runtimeDirectory / "Cocos2d/project.json") = .ok template ∧
      final.disk.tree.get? (final.disk.place (place.bundle / "project.json")) = some (.file
        (Native.projectFile template
          ((LoadOrder.bundleNames (exporter.allScripts request place project)).map
            ("src/" ++ ·)) false).toUTF8) := by
  have target : (exporter.packageSource request place project).profile.target = .cocos2d :=
    (target_profile request.target).trans native
  have packs : (Native.package (exporter.packageSource request place project)).exec rendered =
      (.ok files, final) := by
    simpa only [packageFiles, PackageSource.package, target, Target.isPackaged, if_true]
      using second
  have profile : request.target.profile.includesDir = "src" ∧
      request.target.profile.isPreview = false := by
    rw [native]
    decide
  have paths (script : String) :
      Native.scriptPath (exporter.packageSource request place project) script =
        "src/" ++ script := by
    change request.target.profile.includesDir ++ "/" ++ script = _
    rw [profile.1]
    rfl
  -- the template is no file that the entry point could have replaced
  have apart : (supplied.disk.place
      (exporter.settings.runtimeDirectory / "Cocos2d/project.json")).getLast? ≠
        some "index.html" := by
    rw [Memory.place, Memory.getLast?_locate_join (by decide)]
    decide
  have paged := (EntryPoint.keeps_render_elsewhere apart).of_exec first rfl
  obtain ⟨text, readable, lists⟩ := Native.package_eq_ok packs
  have listed := lists quiet
  rw [List.map_congr_left fun script _ => paths script, packageSource_scripts] at listed
  refine ⟨text, Memory.readText_of_confined paged readable, ?_⟩
  rw [Memory.place_eq_of_home (ahead_packageFiles second).files.base, ← profile.2]
  exact listed

end Finishing

/-- What takes the place of the tokens of a page: at the marker for scripts, one element for each
script in order. -/
def pageValues (scripts : List String) (isPreview : Bool) : List (String × String) := [
  ("/* KILN_CUSTOM_STYLE */", ""),
  ("<!-- KILN_CUSTOM_HTML -->", ""),
  ("<!-- KILN_CODE_FILES -->", String.join (scripts.map fun script =>
    "\t<script src=\"" ++ script ++ "\" crossorigin=\"anonymous\"></script>\n")),
  ("\x7b\x7d/*KILN_ADDITIONAL_SPEC*/",
    if isPreview then "kiln.runtimeGameOptions" else "\x7b\x7d")]

/-- What takes the place of the tokens of a project file: at the marker for scripts, one entry for
each script in order, with commas between them. -/
def projectFileValues (scripts : List String) : List (String × String) := [
  ("// KILN_INCLUDE_FILES",
    ", ".intercalate (scripts.map fun script => "\"src/" ++ script ++ "\"\n")),
  ("/*KILN_SHOW_FPS*/", "false")]

theorem isFilled_page (template : String) (scripts : List String) (isPreview : Bool) :
    Template.IsFilled template (pageValues scripts isPreview) (EntryPoint.page template scripts
      (if isPreview then "kiln.runtimeGameOptions" else "")) := by
  have same : EntryPoint.page template scripts
      (if isPreview then "kiln.runtimeGameOptions" else "") =
        Template.fill template (pageValues scripts isPreview) := by
    cases isPreview <;> rfl
  rw [same]
  exact Template.isFilled_fill _ _

theorem isFilled_projectFile (template : String) (scripts : List String) :
    Template.IsFilled template (projectFileValues scripts)
      (Native.projectFile template (scripts.map ("src/" ++ ·)) false) := by
  have entries : (scripts.map ("src/" ++ ·)).map Native.entry =
      scripts.map fun script => "\"src/" ++ script ++ "\"\n" := by
    rw [List.map_map]
    refine List.map_congr_left fun script _ => ?_
    simp [Native.entry, ← String.append_assoc]
  rw [Native.projectFile, entries]
  exact Template.isFilled_fill _ _

/-- A bundle without gaps: what the report lists, what the data names and what the entry point
or the project file loads is there. -/
structure Complete (exporter : Exporter) (request : ExportRequest) (place : OutputPlace)
    (exported : Project) (supplied after : Memory) (report : ExportReport) : Prop where
  /-- Every script listed is a file in the directory of scripts, and is listed once. -/
  scripts : report.includes.Nodup ∧ ∀ script ∈ report.includes,
    after.isFile (request.target.profile.includesDirIn place.bundle / script) = true
  /-- Every resource of the project in the data that has a file has it in the web root. -/
  resources : ∀ resource ∈ (shipped exported request.layout).resources.resources,
    resource.file ≠ "" →
      after.isFile (request.target.profile.webRootIn place.bundle / resource.file) = true
  /-- The data holds that project, unless another script of the bundle takes its place. -/
  document : place.code.isAbsolute = true →
    exporter.SparesData request place exported after.home →
      ∀ path ∈ [place.code / "data.js",
          request.target.profile.includesDirIn place.bundle / "data.js"],
        after.tree.get? (after.place path) = some (.file
          (dataScript (shipped exported request.layout) report.options).toUTF8)
  /-- Generated and written files are there. -/
  files : ∀ path ∈ report.generated ++ report.written, after.isFile path = true
  /-- The page is its template with one element at the marker for each script, in order. -/
  page : request.target ≠ .cocos2d → ∃ template text,
    supplied.readText (exporter.settings.runtimeDirectory /
        request.target.profile.indexTemplate) = .ok template ∧
      after.tree.get? (after.place
        (request.target.profile.webRootIn place.bundle / "index.html")) =
          some (.file text.toUTF8) ∧
      Template.IsFilled template
        (pageValues report.includes request.target.profile.isPreview) text
  /-- The project file is its template with one entry at the marker for each script, in order. -/
  projectFile : request.target = .cocos2d → ∃ template text,
    supplied.readText (exporter.settings.runtimeDirectory / "Cocos2d/project.json") =
        .ok template ∧
      after.tree.get? (after.place (place.bundle / "project.json")) = some (.file text.toUTF8) ∧
      Template.IsFilled template (projectFileValues report.includes) text

/-- When its scripts are all there and nothing is reported, a bundle is finished completely. -/
theorem complete_of_finish {supplied final : Session Memory}
    (resources : ∀ resource ∈ project.resources.resources, resource.file ≠ "" →
      supplied.disk.isFile (request.target.profile.webRootIn place.bundle / resource.file) = true)
    (known : exporter.Supplied request place project session supplied)
    (ran : (exporter.finish request place project).exec supplied = (.ok report, final))
    (clean : report.diagnostics = .empty) :
    exporter.Complete request place project supplied.disk final.disk report := by
  obtain ⟨page, rendered, files, first, second, rfl⟩ := finish_eq_ok ran
  have toPage : Ahead supplied rendered := EntryPoint.ahead_render first
  have toEnd : Ahead rendered final := ahead_packageFiles second
  have ahead := trans_of Ahead toPage toEnd
  rw [reportOf_diagnostics] at clean
  refine ⟨?_, ?_, ?_, ?_, fun web => ?_, fun native => ?_⟩
  · rw [reportOf_includes]
    refine ⟨LoadOrder.nodup_bundleNames _, fun name listed => ?_⟩
    obtain ⟨script, member, rfl⟩ := LoadOrder.mem_bundleNames.mp listed
    exact ahead.isFile (known.scripts (ahead.quiet clean) script member)
  · exact fun resource member named => ahead.isFile (resources resource member named)
  · intro absolute spares path member
    rw [ahead.files.base, known.ahead.files.base] at spares
    rw [Memory.place, ahead.files.base, known.ahead.files.base, reportOf_options]
    have named : (locate session.disk.home path).getLast? = some "data.js" := by
      simp only [List.mem_cons, List.not_mem_nil, or_false] at member
      rcases member with rfl | rfl <;>
        rw [Memory.locate_join_name (by decide), List.getLast?_concat]
    exact data_stays first second named (known.document absolute spares path member)
  · intro path member
    rw [reportOf_generated, reportOf_written] at member
    rcases List.mem_append.mp member with generated | written
    · rcases List.mem_append.mp generated with made | data
      · obtain ⟨script, listed, rfl⟩ := List.mem_map.mp made
        exact ahead.isFile (known.generated script listed)
      · rw [List.mem_singleton.mp data]
        exact ahead.isFile known.data
    · rcases List.mem_cons.mp written with rfl | file
      · obtain ⟨rfl, lies, -⟩ := EntryPoint.render_eq_ok first
        exact toEnd.isFile lies
      · exact isFile_of_packageFiles second path file
  · rw [reportOf_includes]
    obtain ⟨template, read, written⟩ := page_of_finish web first second clean
    exact ⟨template, _, read, written, isFilled_page _ _ _⟩
  · rw [reportOf_includes]
    obtain ⟨template, read, written⟩ := projectFile_of_finish native first second clean
    exact ⟨template, _, read, written, isFilled_projectFile _ _⟩

/-- A successful export that reports nothing is complete. -/
theorem clean_export_complete {codeDirectory : Path} {disk after : Memory}
    (done : exporter.exportWith request codeDirectory disk = (.ok report, after))
    (clean : report.diagnostics = .empty) :
    let place := outputPlace request codeDirectory disk
    ∃ exported session supplied,
      (exportedProject request place).start disk = (.ok exported, session) ∧
      (exporter.supply request place exported).exec session = (.ok (), supplied) ∧
      exporter.Complete request place exported supplied.disk after report := by
  intro place
  obtain ⟨exported, session, final, first, second, rfl⟩ := exportWith_eq_ok done
  rw [assemble_eq] at second
  obtain ⟨_, supplied, supplying, finishing⟩ := Work.exec_bind_eq_ok second
  have known := supplied_of_exec supplying
  obtain ⟨ahead, same⟩ := ahead_finish finishing
  have quiet : session.diagnostics = .empty :=
    known.ahead.quiet (ahead.quiet (same.symm.trans clean))
  have home : session.disk.home = disk.home := (within_exportedProject.of_exec first rfl).home
  refine ⟨exported, session, supplied, first, supplying,
    complete_of_finish ?_ known finishing clean⟩
  intro resource member named
  apply known.ahead.isFile
  obtain ⟨isName, lies⟩ := (files_exportedProject first resource member).resolve_left named
  rw [Memory.isFile, Memory.place, home, Memory.locate_join_name isName]
  exact lies quiet

def engineFiles : List (Place × Node) :=
  (coreScripts ++ eventsToolScripts ++ Renderer.pixi.scripts).map fun script =>
    (["rt", "Runtime"] ++ (Path.splitParts script.toList).map String.ofList, .file .empty)

/-- A template with nothing but scripts in its head. -/
def stockedPage : String := "<head>\n<!-- KILN_CODE_FILES --></head>\n"

/-- The files of the picture with a runtime that holds that template and the scripts of the
engine. -/
def stockedDisk : Memory :=
  { heroDisk with tree := ⟨engineFiles ++
      (["rt", "Runtime", "index.html"], .file stockedPage.toUTF8) :: heroDisk.tree.entries⟩ }

theorem lookup_engineFiles (spot : Place) : engineFiles.lookup spot =
    if spot ∈ engineFiles.map Prod.fst then some (.file .empty) else none := by
  have empty : ∀ entry ∈ engineFiles, entry.2 = .file .empty := by
    intro entry member
    obtain ⟨script, -, rfl⟩ := List.mem_map.mp member
    rfl
  generalize engineFiles = entries at empty
  induction entries with
  | nil => rfl
  | cons entry rest ih =>
    rw [List.forall_mem_cons] at empty
    rw [List.lookup_cons, ih empty.2, empty.1]
    by_cases same : spot = entry.1
    · simp [same]
    · have differs : (spot == entry.1) = false := beq_eq_false_iff_ne.mpr same
      have other : spot ∈ (entry :: rest).map Prod.fst ↔ spot ∈ rest.map Prod.fst := by
        rw [List.map_cons, List.mem_cons, or_iff_right same]
      simp only [differs, other]

/-- Nothing but the runtime is changed. -/
theorem stockedDisk_outside {spot : Place} (outside : ¬["rt"] <+: spot) :
    stockedDisk.tree.get? spot = heroDisk.tree.get? spot := by
  have absent : spot ∉ engineFiles.map Prod.fst := by
    intro member
    obtain ⟨entry, listed, rfl⟩ := List.mem_map.mp member
    obtain ⟨script, -, rfl⟩ := List.mem_map.mp listed
    exact outside (List.prefix_append ["rt"] _)
  have other : (spot == ["rt", "Runtime", "index.html"]) = false := by
    rw [beq_eq_false_iff_ne]
    rintro rfl
    exact outside (by decide)
  simp only [Tree.get?, stockedDisk, List.lookup_append, lookup_engineFiles, if_neg absent,
    Option.none_or, List.lookup_cons, other]

theorem place_engine {script : String}
    (engine : script ∈ coreScripts ++ eventsToolScripts ++ Renderer.pixi.scripts) :
    locate ["cwd"] (lone.settings.runtimeDirectory / script) =
      ["rt", "Runtime"] ++ (Path.splitParts script.toList).map String.ofList := by
  have runtime : locate ["cwd"] lone.settings.runtimeDirectory = ["rt", "Runtime"] := rfl
  rw [Memory.locate_join_plain (hero_plain engine), runtime]

/-- No script of the engine lies where the template does. -/
theorem stockedDisk_page :
    stockedDisk.tree.get? ["rt", "Runtime", "index.html"] = some (.file stockedPage.toUTF8) := by
  have absent : ["rt", "Runtime", "index.html"] ∉ engineFiles.map Prod.fst := by
    intro member
    obtain ⟨entry, listed, same⟩ := List.mem_map.mp member
    obtain ⟨script, engine, rfl⟩ := List.mem_map.mp listed
    have known : script ∈ coreScripts ++ eventsToolScripts ++ debuggerScripts ++
        Renderer.pixi.scripts ++ Renderer.cocos.scripts := by
      simp only [List.mem_append] at engine ⊢
      tauto
    have other := getLast?_engine known ["cwd"] lone.settings.runtimeDirectory "index.html"
      List.mem_cons_self
    rw [place_engine engine] at other
    exact other (congrArg List.getLast? same)
  rw [Tree.get?, if_neg (by simp), stockedDisk, List.lookup_append, lookup_engineFiles,
    if_neg absent, Option.none_or, List.lookup_cons_self]

theorem stockedDisk_script {script : String}
    (engine : script ∈ coreScripts ++ eventsToolScripts ++ Renderer.pixi.scripts) :
    stockedDisk.tree.get? (locate ["cwd"] (lone.settings.runtimeDirectory / script)) =
      some (.file .empty) := by
  rw [place_engine engine]
  have listed : ["rt", "Runtime"] ++ (Path.splitParts script.toList).map String.ofList ∈
      engineFiles.map Prod.fst :=
    List.mem_map.mpr ⟨_, List.mem_map.mpr ⟨script, engine, rfl⟩, rfl⟩
  simp only [Tree.get?, stockedDisk, List.lookup_append, lookup_engineFiles, if_pos listed]
  rfl

theorem stocked_exported : ∃ session,
    (exportedProject heroRequest heroPlace).start stockedDisk = (.ok heroRequest.project, session) ∧
    session.diagnostics = .empty ∧ HeroReady stockedPage session.disk ∧
    ∀ script ∈ coreScripts ++ eventsToolScripts ++ Renderer.pixi.scripts,
      session.disk.isFile (lone.settings.runtimeDirectory / script) = true := by
  have places : locate ["cwd"] heroPlace.bundle = ["out"] ∧
      locate ["cwd"] heroPlace.code = ["out", "code"] := by decide +kernel
  have apart (spot : Place) (before : spot <+: ["out", "code"]) : ¬["rt"] <+: spot := by
    intro inside
    exact absurd (inside.trans before) (by decide)
  have agree : Memory.Agree ["cwd"] (fun spot => ¬["rt"] <+: spot) (fun _ => False) heroDisk
      stockedDisk :=
    ⟨rfl, rfl, rfl, fun spot outside => (stockedDisk_outside outside).symm, fun _ => False.elim⟩
  have bundle : Memory.Way (fun spot => ¬["rt"] <+: spot) (fun _ => False)
      (locate ["cwd"] heroPlace.bundle) := by
    rw [places.1]
    exact fun other before => .inl (apart other (before.trans (by decide)))
  have code : Memory.Way (fun spot => ¬["rt"] <+: spot) (fun _ => False)
      (locate ["cwd"] heroPlace.code) := by
    rw [places.2]
    exact fun other before => .inl (apart other before)
  have alike := lockstep_exportedProject heroRequest bundle code
    (fun resource member _ => .inl (by
      obtain rfl := List.mem_singleton.mp member
      decide +kernel)) .empty ⟨heroDisk, .empty⟩ ⟨stockedDisk, .empty⟩ ⟨rfl, List.prefix_rfl, agree⟩
  rw [show (exportedProject heroRequest heroPlace).exec ⟨heroDisk, .empty⟩ = _ from hero_exported]
    at alike
  rcases ran : (exportedProject heroRequest heroPlace).exec ⟨stockedDisk, .empty⟩ with
    ⟨outcome, session⟩
  rw [ran] at alike
  cases alike with
  | ok project held =>
    have kept : Memory.Confined (heroPlace.Holds ["cwd"]) (heroPlace.IsUnder ["cwd"]) stockedDisk
        session.disk := within_exportedProject.of_exec ran rfl
    have stays {spot : Place} {bytes : ByteArray} (inside : ["rt"] <+: spot)
        (lies : stockedDisk.tree.get? spot = some (.file bytes)) :
        session.disk.tree.get? spot = some (.file bytes) := by
      refine kept.tree.file_stays ?_ lies
      unfold OutputPlace.Holds
      rw [places.1, places.2]
      obtain ⟨rest, rfl⟩ := inside
      simp
    refine ⟨session, ran, held.reports.symm.trans hero_quiet, ?_, fun script engine => ?_⟩
    · exact heroReady_of_output kept.home kept.denied (stays (by simp) stockedDisk_page)
        fun rest => (held.files.tree.same _ (.inl (by simp))).symm
    · have there : ["rt"] <+: locate ["cwd"] (lone.settings.runtimeDirectory / script) := by
        rw [place_engine engine]
        exact List.prefix_append ["rt"] _
      rw [Memory.isFile, Memory.place, kept.home]
      exact Tree.isFile_iff.mpr ⟨_, stays there (stockedDisk_script engine)⟩

/-- With its runtime in place the picture is exported without a report. -/
theorem stocked_clean : ∃ report after,
    lone.exportWith heroRequest ⟨"/out/code"⟩ stockedDisk = (.ok report, after) ∧
      report.diagnostics = .empty ∧ "kiln.js" ∈ report.includes := by
  obtain ⟨session, exported, quiet, ready, engine⟩ := stocked_exported
  obtain ⟨report, final, ran, -⟩ := hero_assembles heroRequest.hashes ready
  have core : "kiln.js" ∈ heroRequest.target.profile.engineParts.scripts := by
    simp [LoadOrder.engineParts_scripts, coreScripts]
  refine ⟨report, final.disk, exportWith_of_ok rfl exported ran, ?_, ?_⟩
  rotate_left
  · rw [assemble_includes ran]
    exact mem_bundleNames_engine heroPlace heroRequest.project core
  rw [assemble_eq] at ran
  obtain ⟨_, supplied, supplying, finishing⟩ := Work.exec_bind_eq_ok ran
  have suppliedQuiet : supplied.diagnostics = .empty := by
    obtain ⟨text, stored, wrote, copying⟩ := hero_supply_eq_ok supplying
    have ahead := Work.ahead_write wrote
    refine (quiet_of_found copying fun script member => ?_).trans
      ((Work.exec_change_eq_ok wrote).2.trans quiet)
    unfold LoadOrder.source
    rcases mem_hero_scripts member with listed | rfl
    · have inner := Path.isInner_of_isPlain (hero_plain listed)
      rw [if_neg (by simp [Path.relative_of_isInner inner])]
      exact ahead.isFile (engine script listed)
    · rw [if_pos (by decide)]
      exact Work.isFile_of_write wrote
  obtain ⟨page, rendered, files, first, second, rfl⟩ := finish_eq_ok finishing
  -- a web export is no package
  cases second
  refine (EntryPoint.quiet_of_found first fun name listed => ?_).trans suppliedQuiet
  -- the page loads the scripts under the names of their copies
  have lists : heroRequest.target.profile.indexIncludes = true ∧
      heroRequest.target.profile.includesDir = "" := by decide
  rw [if_pos lists.1, lists.2, show LoadOrder.listedName "" = id from rfl, List.map_id] at listed
  obtain ⟨script, member, rfl⟩ := LoadOrder.mem_bundleNames.mp listed
  have root : heroRequest.target.profile.webRootIn heroPlace.bundle =
      heroRequest.target.profile.includesDirIn heroPlace.bundle := by decide +kernel
  rw [root]
  exact (supplied_of_exec supplying).scripts suppliedQuiet script member

/-- The template of the picture's page is cut at its marker. -/
theorem stockedPage_filled {scripts : List String} {text : String}
    (filled : Template.IsFilled stockedPage (pageValues scripts false) text) :
    text = "<head>\n" ++ String.join (scripts.map fun script =>
      "\t<script src=\"" ++ script ++ "\" crossorigin=\"anonymous\"></script>\n") ++
        "</head>\n" := by
  have parted : stockedPage = "<head>\n" ++ "<!-- KILN_CODE_FILES -->" ++ "</head>\n" := rfl
  have named : (pageValues scripts false).map (fun pair => pair.1.toList) =
      ["/* KILN_CUSTOM_STYLE */".toList, "<!-- KILN_CUSTOM_HTML -->".toList,
        "<!-- KILN_CODE_FILES -->".toList, "\x7b\x7d/*KILN_ADDITIONAL_SPEC*/".toList] := rfl
  rw [parted] at filled
  refine filled.around named (by decide) ?_ ⟨by simp, by decide, List.prefix_append _ _, by decide⟩
    (by decide) (by decide)
  exact List.mem_cons_of_mem _ (List.mem_cons_of_mem _ List.mem_cons_self)

/-- The picture's bundle is complete, and its page has an element for each script. -/
theorem stocked_export_complete : ∃ report after exported session supplied,
    lone.exportWith heroRequest ⟨"/out/code"⟩ stockedDisk = (.ok report, after) ∧
      report.diagnostics = .empty ∧
      (exportedProject heroRequest heroPlace).start stockedDisk = (.ok exported, session) ∧
      (lone.supply heroRequest heroPlace exported).exec session = (.ok (), supplied) ∧
      lone.Complete heroRequest heroPlace exported supplied.disk after report ∧
      "kiln.js" ∈ report.includes ∧
      after.tree.get? (after.place ⟨"/out/index.html"⟩) = some (.file ("<head>\n" ++
        String.join (report.includes.map fun script =>
          "\t<script src=\"" ++ script ++ "\" crossorigin=\"anonymous\"></script>\n") ++
        "</head>\n").toUTF8) := by
  obtain ⟨report, after, done, clean, core⟩ := stocked_clean
  obtain ⟨exported, session, supplied, first, second, complete⟩ := clean_export_complete done clean
  refine ⟨report, after, exported, session, supplied, done, clean, first, second, complete, core,
    ?_⟩
  obtain ⟨begun, again, -, ready, -⟩ := stocked_exported
  obtain ⟨rfl, rfl⟩ := Work.ok_unique again first
  obtain ⟨_, stored, ran, ready⟩ := hero_supplies heroRequest.hashes ready
  obtain ⟨-, rfl⟩ := Work.ok_unique second ran
  obtain ⟨template, text, read, written, filled⟩ := complete.page (by decide)
  obtain rfl : stockedPage = template := Except.ok.inj (ready.readText.symm.trans read)
  rw [← stockedPage_filled filled]
  exact written

end GameBundle.Exporter
