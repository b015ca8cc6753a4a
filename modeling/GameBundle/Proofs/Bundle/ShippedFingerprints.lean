import GameBundle.Proofs.Bundle.BatchOrder
import GameBundle.Proofs.Bundle.EffectPaths
import GameBundle.Proofs.Bundle.Fingerprint
import GameBundle.Proofs.Bundle.OptionScripts
import GameBundle.Proofs.Bundle.ScriptCopies

/-!
# Fingerprints of shipped scripts

Fingerprints are taken from the runtime directory before an export, and scripts are copied from
there during it. In between the export writes into its own directories only. A script that is
copied over one of the engine comes from the same file, and neither the page nor a file of the
package has the name of one. So the fingerprint of a script of the engine is that of the file in
the bundle.
-/

namespace GameBundle

open Memory (locate Within)

namespace LoadOrder

def reported (events : EventsCompiler) (profile : TargetProfile) (project : Project) :
    List String :=
  let forRuntime := !profile.isPreview
  (project.extensions.flatMap fun extension => extension.behaviors.flatMap fun behavior =>
    (BehaviorModule.methodRequests behavior
      (Script.behaviorNamespace extension.name behavior.name) behavior.methodNames
        forRuntime).flatMap fun request => (events.method project request).includes) ++
  project.layouts.flatMap fun layout => (events.layout project layout forRuntime).includes

variable {events : EventsCompiler} {profile : TargetProfile} {project : Project} {code : Path}

theorem requested_eq : requested events profile project =
    effects project ++ reported events profile project :=
  List.append_assoc _ _ _

theorem isInner_requested
    (effectTypes : ∀ effectType ∈ project.effectTypes, Path.isInner effectType = true)
    (reports : ∀ script ∈ reported events profile project, Path.isInner script = true) :
    ∀ script ∈ requested events profile project, Path.isInner script = true := by
  intro script member
  rw [requested_eq, List.mem_append] at member
  rcases member with effect | report
  · unfold effects at effect
    rw [List.mem_mergeSort, List.mem_eraseDups, List.mem_map] at effect
    obtain ⟨effectType, used, rfl⟩ := effect
    have inner := effectTypes effectType (List.mem_filter.mp used).1
    exact Project.isInner_effectScript (Path.isInner_iff.mp inner).2
  · exact reports script report

/-- A script lies inside the runtime directory, or an export makes it. -/
def IsHoused (code : Path) (script : String) : Prop :=
  Path.isInner script = true ∨
    ∃ name, Path.IsName name ∧ isMade name = true ∧ script = (code / name).text

theorem IsHoused.isInner_bundleName {script : String} (housed : IsHoused code script)
    (rooted : code.isAbsolute = true ∨ code.text = "") :
    Path.isInner (bundleName script) = true := by
  rcases housed with inner | ⟨name, isName, -, rfl⟩
  · rw [bundleName_of_inner inner]
    exact inner
  · rw [bundleName_join rooted isName]
    exact Path.isInner_of_isName isName

theorem IsHoused.source_eq_engine {script engine : String} (housed : IsHoused code script)
    (rooted : code.isAbsolute = true ∨ code.text = "")
    (listed : engine ∈ coreScripts ++ eventsToolScripts ++ debuggerScripts ++
      Renderer.pixi.scripts ++ Renderer.cocos.scripts) {home : Place} {runtime includesDir : Path}
    (same : locate home (includesDir / bundleName script) =
      locate home (includesDir / bundleName engine)) :
    locate home (source runtime script) = locate home (source runtime engine) := by
  have plain := isPlain_engine listed
  have inner := Path.isInner_of_isPlain plain
  have usual {script : String} (inner : Path.isInner script = true) : isUsual script = true := by
    rw [isUsual, if_neg (by simp [Path.relative_of_isInner inner]), inner]
  rcases housed with other | ⟨name, isName, made, rfl⟩
  · exact locate_source_eq other inner ((locate_copy_eq_iff (usual other) (usual inner)).mp same)
  · -- scripts that an export makes are not named like those of the engine
    rw [bundleName_join rooted isName, Memory.locate_join_name isName, locate_copy (usual inner),
      List.append_cancel_left_eq] at same
    have named := eq_of_copyNames_plain plain same.symm
    rw [← named, not_isMade_engine listed] at made
    cases made

end LoadOrder

namespace Exporter

variable {exporter : Exporter} {request : ExportRequest} {place : OutputPlace} {project : Project}
  {session supplied final : Session Memory} {bytes : ByteArray}

/-- Effects and events ask for scripts inside the runtime directory only. -/
def AsksInner (exporter : Exporter) (request : ExportRequest) (project : Project) : Prop :=
  ∀ script ∈ LoadOrder.requested exporter.events request.target.profile project,
    Path.isInner script = true

theorem isHoused_of_mem (asks : exporter.AsksInner request project)
    {script : String} (member : script ∈ (exporter.allScripts request place project).paths) :
    LoadOrder.IsHoused place.code script := by
  rcases asked_or_data_of_mem member with asked | rfl
  · rcases LoadOrder.own_or_requested asked with own | requested
    · cases own with
      | engine listed => exact .inl (Path.isInner_of_isPlain (isPlain_engine listed))
      | made isName made => exact .inr ⟨_, isName, made, rfl⟩
    · exact .inl (asks script requested)
  · exact .inr ⟨"data.js", by decide, by decide, rfl⟩

/-- What lies in a directory apart from those of an export is not held by them. -/
theorem not_holds_of_apart {home spot below : Place} (apart : ¬place.Touches home spot)
    (inside : spot <+: below) : ¬place.Holds home below := by
  rintro (held | held)
  · rcases List.prefix_or_prefix_of_prefix held inside with above | under
    · exact apart (.inl (.inl above))
    · exact apart (.inr (.inl under))
  · rcases List.prefix_or_prefix_of_prefix held inside with above | under
    · exact apart (.inl (.inr above))
    · exact apart (.inr (.inr under))

/-- Making the scripts of a bundle changes its directories only, until they are copied. -/
theorem confined_of_supply {home : Place} (base : session.disk.home = home)
    (ran : (exporter.supply request place project).exec session = (.ok (), supplied)) :
    ∃ stored : Session Memory,
      Memory.Confined (place.Holds home) (place.IsUnder home) session.disk stored.disk ∧
      ((exporter.allScripts request place project).paths.forM
        (materialize exporter.settings.runtimeDirectory
          (request.target.profile.includesDirIn place.bundle))).exec stored =
        (.ok (), supplied) := by
  have writes : ∀ file ∈ exporter.writtenFiles request place project,
      place.Holds home (locate home file) := holds_writtenFiles
  simp only [writtenFiles, List.forall_mem_append, List.forall_mem_map, List.forall_mem_cons]
    at writes
  obtain ⟨⟨generates, data, -⟩, -⟩ := writes
  obtain ⟨generated, external, stored, first, second, third, last⟩ := supply_eq_ok ran
  have within : Within home (place.Holds home) (place.IsUnder home) session.disk stored.disk := by
    refine trans_of (Within _ _ _) (Work.Keeps.of_exec (.forM fun script member => ?_) first)
      (trans_of (Within _ _ _) (Work.Keeps.of_exec (.forM fun script member => ?_) second)
        (Work.Keeps.of_exec (Work.keeps_write ?_) third))
    · exact keeps_writeGenerated (Memory.within_write (generates script member).admits _)
    · exact keeps_copyExternal (Memory.within_copy (holds_external member).admits _)
    · exact Memory.within_write data.admits _
  exact ⟨stored, within base, last⟩

/-- A script is copied as it is when no script is copied over its source, and those that go to
its place come from its source. -/
theorem file_of_forM_materialize {runtime includesDir : Path} {scripts : List String}
    (ran : (scripts.forM (materialize runtime includesDir)).exec session = (.ok (), final))
    {script : String} (member : script ∈ scripts)
    (held : session.disk.tree.get? (locate session.disk.home (LoadOrder.source runtime script)) =
      some (.file bytes))
    (spared : ∀ other ∈ scripts,
      locate session.disk.home (includesDir / LoadOrder.bundleName other) ≠
        locate session.disk.home (LoadOrder.source runtime script))
    (alone : ∀ other ∈ scripts,
      locate session.disk.home (includesDir / LoadOrder.bundleName other) =
        locate session.disk.home (includesDir / LoadOrder.bundleName script) →
      locate session.disk.home (LoadOrder.source runtime other) =
        locate session.disk.home (LoadOrder.source runtime script)) :
    final.disk.tree.get? (locate session.disk.home (includesDir / LoadOrder.bundleName script)) =
      some (.file bytes) := by
  have stays (index : Nat) : (filesAt runtime includesDir scripts session index).tree.get?
      (locate session.disk.home (LoadOrder.source runtime script)) = some (.file bytes) := by
    refine (file_filesAt ran (Nat.zero_le index) fun turn _ _ more copied => ?_).mpr held
    obtain ⟨other, listed, target, -⟩ := copied
    exact spared other (List.mem_of_getElem? listed) target
  obtain ⟨index, listed⟩ := List.mem_iff_getElem?.mp member
  have goes : CopiesTo runtime includesDir scripts session index
      (locate session.disk.home (includesDir / LoadOrder.bundleName script)) bytes :=
    ⟨script, listed, rfl, stays index⟩
  obtain ⟨last, brought, -, copied, none⟩ := goes.exists_last
  have lies := copied.stays ran none
  obtain ⟨other, turn, target, read⟩ := copied
  rw [alone other (List.mem_of_getElem? turn) target, stays last] at read
  rw [lies, read]

theorem mem_allScripts_of_mem {script : String}
    (member : script ∈ (exporter.scriptsOf request place project).paths) :
    script ∈ (exporter.allScripts request place project).paths := by
  unfold allScripts
  rw [IncludeList.paths_insert (wellFormed_scriptsOf _ _)]
  split
  · exact member
  · exact List.mem_append_left _ member

/-- Scripts of the engine that are found lie in the bundle as they do in the runtime directory
once its scripts are made. -/
theorem engine_of_supply
    (rooted : place.code.isAbsolute = true ∨ place.code.text = "")
    (asks : exporter.AsksInner request project) {home : Place} (base : session.disk.home = home)
    (apart : ¬place.Touches home (locate home exporter.settings.runtimeDirectory))
    (ran : (exporter.supply request place project).exec session = (.ok (), supplied))
    {script : String} (engine : script ∈ coreScripts ++ eventsToolScripts ++ debuggerScripts ++
      Renderer.pixi.scripts ++ Renderer.cocos.scripts)
    (member : script ∈ (exporter.allScripts request place project).paths)
    (held : session.disk.tree.get? (locate home (exporter.scriptCopy request place script).1) =
      some (.file bytes)) :
    supplied.disk.tree.get? (locate home (exporter.scriptCopy request place script).2) =
      some (.file bytes) := by
  obtain ⟨stored, confined, last⟩ := confined_of_supply base ran
  have same : stored.disk.home = home := confined.home.trans base
  have spared : ¬place.Holds home (locate home (exporter.scriptCopy request place script).1) :=
    not_holds_of_apart apart (LoadOrder.prefix_source_of_inner
      (Path.isInner_of_isPlain (isPlain_engine engine)) home _)
  have found := confined.tree.file_stays spared held
  rw [← same] at spared found ⊢
  refine file_of_forM_materialize last member found (fun other listed target => ?_)
    fun other listed => (isHoused_of_mem asks listed).source_eq_engine rooted engine
  have inside : place.Holds stored.disk.home
      (locate stored.disk.home (exporter.scriptCopy request place other).2) :=
    OutputPlace.holds_join ((isHoused_of_mem asks listed).isInner_bundleName rooted)
      (.inl (prefix_includesDirIn request.target _ place.bundle))
  rw [scriptCopy, target] at inside
  exact spared inside

/-- Finishing a bundle leaves files alone that are named like neither the page nor a file of a
package. -/
theorem file_stays_of_finish {spot : Place} {report : ExportReport}
    (ran : (exporter.finish request place project).exec supplied = (.ok report, final))
    (named : ∀ name ∈ finishingNames, spot.getLast? ≠ some name)
    (held : supplied.disk.tree.get? spot = some (.file bytes)) :
    final.disk.tree.get? spot = some (.file bytes) := by
  rw [finishingNames, List.forall_mem_cons] at named
  obtain ⟨page, rendered, files, first, second, -⟩ := finish_eq_ok ran
  have paged := file_stays_of_within ((EntryPoint.keeps_render_elsewhere named.1).of_exec first)
    rfl held
  exact file_stays_of_within ((keeps_packageFiles_elsewhere _ named.2).of_exec second) rfl paged

theorem mem_engine_of_parts {parts : EngineParts} {script : String}
    (listed : script ∈ parts.scripts) : script ∈ coreScripts ++ eventsToolScripts ++
      debuggerScripts ++ Renderer.pixi.scripts ++ Renderer.cocos.scripts := by
  have part {present : Bool} {scripts : List String}
      (inside : script ∈ if present = true then scripts else []) : script ∈ scripts := by
    split at inside
    · exact inside
    · cases inside
  simp only [EngineParts.scripts, List.mem_append] at listed ⊢
  exact listed.imp (.imp (.imp_right part) part) part

theorem fingerprint_of_lenient {digest : ByteArray → Nat} {root : Path} {scripts : List String}
    {disk : Memory} (lenient : disk.denied = []) {script : String} (watched : script ∈ scripts) :
    (scriptFingerprints digest root scripts disk).fingerprint script =
      match disk.tree.get? (disk.place (runtimeDirectory root / script)) with
      | some (.file bytes) => digest bytes
      | _ => 0 := by
  rw [Dictionary.fingerprint, find?_scriptFingerprints, if_pos watched, contentDigest?]
  have allowed (path : Path) : disk.read path = Memory.contents disk.tree (disk.place path) := by
    simp [Memory.read, Memory.isDenied, lenient]
  change Option.getD (Option.map digest (disk.read _).toOption) 0 = _
  rw [allowed, Memory.contents]
  rcases disk.tree.get? (disk.place (runtimeDirectory root / script)) with _ | _ | bytes <;> rfl

theorem told_of_finish {report : ExportReport}
    (ran : (exporter.finish request place project).exec supplied = (.ok report, final)) :
    ∀ script ∈ report.options.scripts,
      script.path ∈ (exporter.scriptsOf request place project).paths ∧
        script.hash = request.hashes.fingerprint script.path := by
  obtain ⟨page, rendered, files, -, -, rfl⟩ := finish_eq_ok ran
  rw [reportOf_options]
  intro script told
  obtain ⟨path, loaded, rfl⟩ := List.mem_map.mp told
  exact ⟨loaded, rfl⟩

/-- A script of the engine that is found when its resources are exported lies in the bundle in the
end. -/
theorem engine_of_assemble {report : ExportReport}
    (rooted : place.code.isAbsolute = true ∨ place.code.text = "")
    (asks : exporter.AsksInner request project) {home : Place} (base : session.disk.home = home)
    (apart : ¬place.Touches home (locate home exporter.settings.runtimeDirectory))
    (supplying : (exporter.supply request place project).exec session = (.ok (), supplied))
    (finishing : (exporter.finish request place project).exec supplied = (.ok report, final))
    {script : String} (engine : script ∈ coreScripts ++ eventsToolScripts ++ debuggerScripts ++
      Renderer.pixi.scripts ++ Renderer.cocos.scripts)
    (loaded : script ∈ (exporter.scriptsOf request place project).paths)
    (held : session.disk.tree.get?
      (locate home (exporter.settings.runtimeDirectory / script)) = some (.file bytes)) :
    final.disk.tree.get?
        (locate home (request.target.profile.includesDirIn place.bundle / script)) =
      some (.file bytes) := by
  have inner := Path.isInner_of_isPlain (isPlain_engine engine)
  have paths : exporter.scriptCopy request place script =
      (exporter.settings.runtimeDirectory / script,
        request.target.profile.includesDirIn place.bundle / script) := by
    rw [scriptCopy, LoadOrder.bundleName_of_inner inner, LoadOrder.source,
      if_neg (by simp [Path.relative_of_isInner inner])]
  have made := engine_of_supply rooted asks base apart supplying engine
    (mem_allScripts_of_mem loaded) (by rw [paths]; exact held)
  rw [paths] at made
  exact file_stays_of_finish finishing (getLast?_engine engine _ _) made

/-- The fingerprints that a game is told describe the scripts of the engine that are shipped with
it. Each is the digest of the file that lies in the bundle in the end, which is that of the
runtime directory, and zero when there is none. -/
theorem fingerprints_describe_shipped {digest : ByteArray → Nat} {parts : EngineParts}
    {codeDirectory : Path} {disk after : Memory} {report : ExportReport}
    (lenient : disk.denied = [])
    (apart : ¬(outputPlace request codeDirectory disk).Touches disk.home
      (disk.place exporter.settings.runtimeDirectory))
    (hashed : request.hashes =
      scriptFingerprints digest exporter.settings.runtimeRoot parts.scripts disk)
    (effectTypes : ∀ effectType ∈ request.project.effectTypes, Path.isInner effectType = true)
    (reports : ∀ exported session,
      (exportedProject request (outputPlace request codeDirectory disk)).start disk =
        (.ok exported, session) →
      ∀ script ∈ LoadOrder.reported exporter.events request.target.profile exported,
        Path.isInner script = true)
    (done : exporter.exportWith request codeDirectory disk = (.ok report, after)) :
    ∀ script ∈ report.options.scripts, script.path ∈ parts.scripts →
      let source := exporter.settings.runtimeDirectory / script.path
      let copy := request.target.profile.includesDirIn
        (outputPlace request codeDirectory disk).bundle / script.path
      if disk.isFile source = true then
        ∃ bytes, disk.tree.get? (disk.place source) = some (.file bytes) ∧
          after.tree.get? (after.place copy) = some (.file bytes) ∧ script.hash = digest bytes
      else script.hash = 0 := by
  obtain ⟨exported, session, final, first, second, rfl⟩ := exportWith_eq_ok done
  rw [assemble_eq] at second
  obtain ⟨_, supplied, supplying, finishing⟩ := Work.exec_bind_eq_ok second
  have untouched : Memory.Confined ((outputPlace request codeDirectory disk).Holds disk.home)
      ((outputPlace request codeDirectory disk).IsUnder disk.home) disk session.disk :=
    within_exportedProject.of_exec first rfl
  have home : final.disk.home = disk.home :=
    (ahead_finish finishing).1.files.base.trans
      ((supplied_of_exec supplying).ahead.files.base.trans untouched.home)
  have declared : exported.effectTypes = request.project.effectTypes := by
    rw [Project.effectTypes, (exportedProject_declares first).2.1]
    rfl
  have asks : exporter.AsksInner request exported :=
    LoadOrder.isInner_requested (declared ▸ effectTypes) (reports exported session first)
  intro script told listed
  dsimp only
  obtain ⟨loaded, hash⟩ := told_of_finish finishing script told
  have runtime : runtimeDirectory exporter.settings.runtimeRoot =
      exporter.settings.runtimeDirectory := rfl
  rw [hashed, fingerprint_of_lenient lenient listed, runtime] at hash
  by_cases found : disk.isFile (exporter.settings.runtimeDirectory / script.path) = true
  · rw [if_pos found]
    obtain ⟨bytes, held⟩ := Tree.isFile_iff.mp found
    rw [held] at hash
    refine ⟨bytes, held, ?_, hash⟩
    have engine := mem_engine_of_parts listed
    have spared := not_holds_of_apart apart
      (Memory.prefix_locate_join (Path.isInner_of_isPlain (isPlain_engine engine)))
    rw [Memory.place_eq_of_home home]
    exact engine_of_assemble (isAbsolute_outputPlace request codeDirectory disk) asks
      untouched.home apart supplying finishing engine loaded (untouched.tree.file_stays spared held)
  · rw [if_neg found, hash]
    split
    · rename_i bytes held
      exact absurd (Tree.isFile_iff.mpr ⟨bytes, held⟩) found
    · rfl

section

variable (hashes : Dictionary Nat)

/-- With its runtime in place the picture is exported whatever fingerprints are known, and its game
is told of the engine. -/
theorem stocked_told : ∃ report after,
    lone.exportWith (heroRequest.withHashes hashes) ⟨"/out/code"⟩ stockedDisk =
        (.ok report, after) ∧
      ∀ script ∈ coreScripts, script ∈ report.options.scripts.map ScriptFile.path := by
  obtain ⟨session, exported, -, ready, -⟩ := stocked_exported
  obtain ⟨report, final, ran, -⟩ := hero_assembles hashes ready
  refine ⟨report, final.disk, exportWith_of_ok rfl exported ran, fun script core => ?_⟩
  have asked : script ∈ coreScripts ++ eventsToolScripts ++ Renderer.pixi.scripts := by
    simp [core]
  have unmarked : IncludeList.isMarked heroRequest.target.profile.renderer.other.markers script =
      false := Renderer.isMarked_engine (by simp [core])
  have listed : script ∈ (lone.scriptsOf heroRequest heroPlace heroRequest.project).paths := by
    rw [paths_scriptsOf, LoadOrder.kept_eq, hero_asked]
    exact List.mem_filter.mpr ⟨List.mem_eraseDups.mpr asked, by simp [unmarked]⟩
  rw [assemble_options ran]
  exact listed

theorem stocked_apart :
    ¬(outputPlace (heroRequest.withHashes hashes) ⟨"/out/code"⟩ stockedDisk).Touches
      stockedDisk.home (stockedDisk.place lone.settings.runtimeDirectory) := by
  have runtime : stockedDisk.place lone.settings.runtimeDirectory = ["rt", "Runtime"] := rfl
  have bundle : locate stockedDisk.home
      (outputPlace heroRequest ⟨"/out/code"⟩ stockedDisk).bundle = ["out"] := rfl
  have code : locate stockedDisk.home
      (outputPlace heroRequest ⟨"/out/code"⟩ stockedDisk).code = ["out", "code"] := rfl
  rw [outputPlace_withHashes]
  unfold OutputPlace.Touches OutputPlace.Holds OutputPlace.IsUnder
  rw [runtime, bundle, code]
  decide

theorem stocked_reports {exported : Project} {session : Session Memory}
    (ran : (exportedProject (heroRequest.withHashes hashes)
      (outputPlace (heroRequest.withHashes hashes) ⟨"/out/code"⟩ stockedDisk)).start stockedDisk =
        (.ok exported, session)) :
    LoadOrder.reported lone.events heroRequest.target.profile exported = [] := by
  have none : LoadOrder.requested lone.events heroRequest.target.profile exported = [] :=
    requested_of_bare rfl rfl ran
  rw [LoadOrder.requested_eq, List.append_eq_nil_iff] at none
  exact none.2

end

/-- A digest that tells files of different sizes apart. -/
def sizeDigest (bytes : ByteArray) : Nat := bytes.size + 7

/-- The fingerprints of the engine in a complete runtime. -/
def stockedHashes : Dictionary Nat :=
  scriptFingerprints sizeDigest lone.settings.runtimeRoot
    heroRequest.target.profile.engineParts.scripts stockedDisk

/-- The picture's game is told the digest of an empty script, and the empty script is shipped. -/
theorem stocked_fingerprints_describe : ∃ report after,
    lone.exportWith (heroRequest.withHashes stockedHashes) ⟨"/out/code"⟩ stockedDisk =
        (.ok report, after) ∧
      ∃ script ∈ report.options.scripts, script.path = "kiln.js" ∧ script.hash = 7 ∧
        after.tree.get? (after.place (heroRequest.target.profile.includesDirIn heroPlace.bundle /
          "kiln.js")) = some (.file .empty) := by
  obtain ⟨report, after, done, told⟩ := stocked_told stockedHashes
  have core : "kiln.js" ∈ coreScripts := List.mem_cons_of_mem _ List.mem_cons_self
  obtain ⟨script, listed, path⟩ := List.mem_map.mp (told "kiln.js" core)
  rw [← path] at core
  have watched : script.path ∈ heroRequest.target.profile.engineParts.scripts := by
    simp [LoadOrder.engineParts_scripts, core]
  have described := fingerprints_describe_shipped (by rfl) (stocked_apart stockedHashes)
    (by rw [ExportRequest.withHashes_hashes, stockedHashes])
    (fun effectType used => absurd used List.not_mem_nil)
    (fun exported session ran script reported => by
      rw [ExportRequest.withHashes_target, stocked_reports stockedHashes ran] at reported
      cases reported) done script listed watched
  have asked : script.path ∈ coreScripts ++ eventsToolScripts ++ Renderer.pixi.scripts := by
    simp [core]
  have held := stockedDisk_script asked
  have found : stockedDisk.isFile (lone.settings.runtimeDirectory / script.path) = true :=
    Tree.isFile_iff.mpr ⟨_, held⟩
  have place : outputPlace heroRequest ⟨"/out/code"⟩ stockedDisk = heroPlace :=
    outputPlace_of_home rfl heroRequest _
  dsimp only at described
  rw [if_pos found, outputPlace_withHashes, ExportRequest.withHashes_target, place] at described
  obtain ⟨bytes, read, copied, hash⟩ := described
  obtain rfl : bytes = .empty := Node.file.inj (Option.some.inj (read.symm.trans held))
  rw [path] at copied
  exact ⟨report, after, done, script, listed, path, hash, copied⟩

end Exporter

end GameBundle
