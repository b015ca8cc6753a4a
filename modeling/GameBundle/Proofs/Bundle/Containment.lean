import GameBundle.Proofs.Bundle.Footprint
import GameBundle.Proofs.Bundle.LoadOrder
import GameBundle.Proofs.Storage.Route

/-!
# Containment of an export

An export works inside its two output directories, whether it succeeds or not. Names of
resources, extensions, behaviors and layouts cannot lead out of them. The paths of effect
scripts and of scripts that events ask for are joined to the directory of scripts as they
are, and these alone can.
-/

namespace GameBundle

open Memory (locate Admits Way Within Toward FilesRemain)

namespace LoadOrder

/-- The scripts of effects, and those that the events of behaviors and layouts ask for. -/
def requested (events : EventsCompiler) (profile : TargetProfile) (project : Project) :
    List String :=
  let forRuntime := !profile.isPreview
  effects project ++
    (project.extensions.flatMap fun extension => extension.behaviors.flatMap fun behavior =>
      (BehaviorModule.methodRequests behavior
        (Script.behaviorNamespace extension.name behavior.name) behavior.methodNames
          forRuntime).flatMap fun request => (events.method project request).includes) ++
    project.layouts.flatMap fun layout => (events.layout project layout forRuntime).includes

/-- What the names of generated and external scripts and of the data begin with. -/
def madeFronts : List String := ["code", "ext-code", "behavior-", "data.js"]

def isMade (name : String) : Bool :=
  madeFronts.any fun front => front.toList.isPrefixOf name.toList

theorem isMade_of_front (front : String) (listed : front ∈ madeFronts) {name : String}
    {rest : List Char} (begins : name.toList = front.toList ++ rest) : isMade name = true := by
  refine List.any_eq_true.mpr ⟨front, listed, ?_⟩
  rw [List.isPrefixOf_iff_prefix, begins]
  exact List.prefix_append _ rest

/-- Scripts of the engine, and those that an export makes in the directory of code. -/
inductive IsOwn (code : Path) : String → Prop
  | engine {script : String} (listed : script ∈ coreScripts ++ eventsToolScripts ++
      debuggerScripts ++ Renderer.pixi.scripts ++ Renderer.cocos.scripts) : IsOwn code script
  | made {name : String} (isName : Path.IsName name) (made : isMade name = true) :
      IsOwn code (code / name).text

theorem own_or_requested {events : EventsCompiler} {profile : TargetProfile} {project : Project}
    {code : Path} {script : String} (member : script ∈ asked events profile project project code) :
    IsOwn code script ∨ script ∈ requested events profile project := by
  simp only [asked, requested, List.mem_append] at member ⊢
  rcases member with (((engine | effect) | behavior) | layout) | external
  · refine .inl (.engine ?_)
    simp only [List.mem_append]
    rcases engine with ((core | tools) | debugger) | renderer
    · simp [core]
    · simp [tools]
    · split at debugger
      · simp [debugger]
      · cases debugger
    · cases named : profile.renderer <;> simp [named ▸ renderer]
  · exact .inr (.inl (.inl effect))
  · obtain ⟨extension, declared, inside⟩ := List.mem_flatMap.mp behavior
    obtain ⟨behavior, listed, found⟩ := List.mem_flatMap.mp inside
    rcases List.mem_append.mp found with needed | own
    · refine .inr (.inl (.inr ?_))
      exact List.mem_flatMap.mpr ⟨extension, declared, List.mem_flatMap.mpr ⟨behavior, listed, needed⟩⟩
    · rw [List.mem_singleton.mp own]
      refine .inl (.made (GeneratedScript.isName_behaviorFile _ _) ?_)
      exact isMade_of_front "behavior-" (by decide) (by
        simp only [String.toList_append, List.append_assoc]
        rfl)
  · obtain ⟨_, inside, found⟩ := List.mem_flatten.mp layout
    obtain ⟨index, bound, rfl⟩ := List.mem_mapIdx.mp inside
    rcases List.mem_append.mp found with needed | own
    · refine .inr (.inr (List.mem_flatMap.mpr ⟨_, List.getElem_mem bound, needed⟩))
    · rw [List.mem_singleton.mp own, ← layoutFile_eq]
      refine .inl (.made (GeneratedScript.isName_layoutFile index) ?_)
      exact isMade_of_front "code" (by decide) (by
        simp only [GeneratedScript.layoutFile, String.toList_append, List.append_assoc]
        rfl)
  · obtain ⟨⟨source, index⟩, -, rfl⟩ := List.mem_map.mp external
    dsimp only
    rw [← externalFile_eq]
    refine .inl (.made (ExternalScript.isName_file index) ?_)
    exact isMade_of_front "ext-code" (by decide) (by
      simp only [ExternalScript.file, String.toList_append, List.append_assoc]
      rfl)

/-- A script is one of the engine, a requested one, or a file in the directory of code. -/
theorem mem_asked {events : EventsCompiler} {profile : TargetProfile} {project : Project}
    {code : Path} {script : String} (member : script ∈ asked events profile project project code) :
    Path.isPlain script.toList = true ∨ script ∈ requested events profile project ∨
      ∃ name, Path.IsName name ∧ script = (code / name).text := by
  rcases own_or_requested member with own | requested
  · cases own with
    | engine listed => exact .inl (isPlain_engine listed)
    | made isName made => exact .inr (.inr ⟨_, isName, rfl⟩)
  · exact .inr (.inl requested)

/-- A file in an absolute directory, or in the nameless one, is listed under its name. -/
theorem bundleName_join {code : Path} (rooted : code.isAbsolute = true ∨ code.text = "")
    {name : String} (isName : Path.IsName name) : bundleName (code / name).text = name := by
  unfold bundleName
  dsimp only
  rcases rooted with absolute | blank
  · rw [if_pos (Path.isAbsolute_join_name absolute isName), Path.fileName?_join isName]
    rfl
  · obtain ⟨text⟩ := code
    subst blank
    rw [Path.blank_join, if_neg (by simp [Path.relative_of_isInner (Path.isInner_of_isName isName)])]

end LoadOrder

namespace OutputPlace

variable {place : OutputPlace} {home spot : Place}

/-- Whether a place is one of the two directories of an export or lies inside one. -/
def Holds (place : OutputPlace) (home spot : Place) : Prop :=
  locate home place.bundle <+: spot ∨ locate home place.code <+: spot

/-- Whether one of the two directories of an export is a place or lies below it. -/
def IsUnder (place : OutputPlace) (home spot : Place) : Prop :=
  spot <+: locate home place.bundle ∨ spot <+: locate home place.code

theorem holds_bundle : place.Holds home (locate home place.bundle) := .inl List.prefix_rfl

theorem holds_code : place.Holds home (locate home place.code) := .inr List.prefix_rfl

theorem Holds.way (holds : place.Holds home spot) :
    Way (place.Holds home) (place.IsUnder home) spot := by
  intro other before
  rcases holds with inside | inside
  all_goals
    have meet := List.prefix_or_prefix_of_prefix before inside
  · exact meet.symm.imp .inl .inl
  · exact meet.symm.imp .inr .inr

theorem Holds.admits (holds : place.Holds home spot) :
    Admits (place.Holds home) (place.IsUnder home) spot where
  target := holds
  way other before := holds.way other (before.trans (List.dropLast_prefix spot))

theorem holds_join {path : Path} {more : String} (inner : Path.isInner more = true)
    (holds : place.Holds home (locate home path)) : place.Holds home (locate home (path / more)) := by
  have below : locate home path <+: locate home (path / more) := Memory.prefix_locate_join inner
  exact holds.imp (·.trans below) (·.trans below)

end OutputPlace

theorem Target.isInner_packageWrites (target : Target) :
    ∀ file ∈ target.packageWrites, Path.isInner file = true := by
  cases target <;> decide

def packageCopies : List String :=
  ["buildResources/icon.png", "main.js", "cocos2d-js-v3.10.js"]

theorem PackageSource.exists_of_mem_copies {source : PackageSource} {copy : Path × Path}
    (member : copy ∈ source.copies) :
    ∃ file ∈ packageCopies, copy.2 = source.directory / file := by
  unfold copies at member
  split at member
  case h_4 =>
    rw [List.mem_singleton.mp member]
    exact ⟨"buildResources/icon.png", by decide, rfl⟩
  case h_6 =>
    rcases List.mem_cons.mp member with rfl | later
    · exact ⟨"main.js", by decide, rfl⟩
    · rw [List.mem_singleton.mp later]
      exact ⟨"cocos2d-js-v3.10.js", by decide, rfl⟩
  all_goals cases member

theorem PackageSource.exists_inner_of_mem_copies {source : PackageSource} {copy : Path × Path}
    (member : copy ∈ source.copies) :
    ∃ file, Path.isInner file = true ∧ copy.2 = source.directory / file := by
  obtain ⟨file, listed, same⟩ := exists_of_mem_copies member
  have inner : ∀ file ∈ packageCopies, Path.isInner file = true := by decide
  exact ⟨file, inner file listed, same⟩

namespace Exporter

variable {home : Place} {exporter : Exporter} {request : ExportRequest} {place : OutputPlace}

theorem holds_webRoot (target : Target) :
    place.Holds home (locate home (target.profile.webRootIn place.bundle)) :=
  .inl (TargetProfile.prefix_webRootIn target home place.bundle)

theorem within_exportedProject :
    Work.Keeps (Within home (place.Holds home) (place.IsUnder home))
      (exportedProject request place : Work Memory Project) := by
  apply keeps_exportedProject
  · apply keeps_prepare
    · simp only [List.forall_mem_cons, List.not_mem_nil, false_implies, implies_true, and_true]
      exact ⟨Memory.within_createDirs OutputPlace.holds_bundle.way,
        Memory.within_createDirs OutputPlace.holds_code.way,
        Memory.within_createDirs (holds_webRoot request.target).way⟩
    · simp only [List.forall_mem_cons, List.not_mem_nil, false_implies, implies_true, and_true]
      exact ⟨Memory.within_clearDir fun _ => .inl, Memory.within_clearDir fun _ => .inr⟩
  · intro source name isName disk _
    have inside : place.Holds home
        (locate home (request.target.profile.webRootIn place.bundle / name)) :=
      OutputPlace.holds_join (Path.isInner_of_isName isName) (holds_webRoot request.target)
    exact Memory.within_copy inside.admits source disk

def scriptCopy (exporter : Exporter) (request : ExportRequest) (place : OutputPlace)
    (script : String) : Path × Path :=
  (LoadOrder.source exporter.settings.runtimeDirectory script,
    request.target.profile.includesDirIn place.bundle / LoadOrder.bundleName script)

/-- A script that leads out of the bundle: one that an effect or an event asks for, whose
source is a file, and whose path joined to the directory of scripts does not stay inside
the bundle. -/
structure Escapes (exporter : Exporter) (request : ExportRequest) (place : OutputPlace)
    (project : Project) (home : Place) (after : Memory) (script : String) : Prop where
  requested : script ∈ LoadOrder.requested exporter.events request.target.profile project
  kept : script ∈ (exporter.scriptsOf request place project).paths
  outer : Path.isInner (LoadOrder.bundleName script) = false
  found : after.tree.isFile (locate home (exporter.scriptCopy request place script).1) = true
  outside : ¬locate home place.bundle <+:
    locate home (exporter.scriptCopy request place script).2

def Reaches (exporter : Exporter) (request : ExportRequest) (place : OutputPlace)
    (project : Project) (home : Place) (after : Memory) (spot : Place) : Prop :=
  place.Holds home spot ∨
    ∃ script, exporter.Escapes request place project home after script ∧
      spot = locate home (exporter.scriptCopy request place script).2

def MayMake (exporter : Exporter) (request : ExportRequest) (place : OutputPlace)
    (project : Project) (home : Place) (after : Memory) (spot : Place) : Prop :=
  place.IsUnder home spot ∨
    ∃ script, exporter.Escapes request place project home after script ∧
      spot <+: (locate home (exporter.scriptCopy request place script).2).dropLast

theorem prefix_includesDirIn (target : Target) (home : Place) (directory : Path) :
    locate home directory <+: locate home (target.profile.includesDirIn directory) := by
  refine (TargetProfile.prefix_webRootIn target home directory).trans ?_
  apply Memory.prefix_locate_join
  cases target <;> decide

theorem admits_of_holds {project : Project} {after : Memory} {spot : Place}
    (holds : place.Holds home spot) :
    Admits (exporter.Reaches request place project home after)
      (exporter.MayMake request place project home after) spot where
  target := .inl holds
  way other before := (holds.admits.way other before).imp .inl .inl

theorem admits_scriptCopy {project : Project} {last : Memory}
    (rooted : place.code.isAbsolute = true ∨ place.code.text = "") {script : String}
    (member : script ∈ (exporter.allScripts request place project).paths)
    (found : last.tree.isFile (locate home (exporter.scriptCopy request place script).1) = true) :
    Admits (exporter.Reaches request place project home last)
      (exporter.MayMake request place project home last)
      (locate home (exporter.scriptCopy request place script).2) := by
  by_cases inside : locate home place.bundle <+:
      locate home (exporter.scriptCopy request place script).2
  · exact admits_of_holds (.inl inside)
  have outer : Path.isInner (LoadOrder.bundleName script) = false := by
    rw [← Bool.not_eq_true]
    intro inner
    apply inside
    exact (prefix_includesDirIn request.target home place.bundle).trans
      (Memory.prefix_locate_join inner)
  have unnamed (name : String) (isName : Path.IsName name) :
      script ≠ (place.code / name).text := by
    rintro rfl
    rw [LoadOrder.bundleName_join rooted isName, Path.isInner_of_isName isName] at outer
    cases outer
  have kept : script ∈ (exporter.scriptsOf request place project).paths := by
    unfold allScripts at member
    rw [IncludeList.paths_insert (wellFormed_scriptsOf _ _)] at member
    split at member
    · exact member
    · rcases List.mem_append.mp member with held | last
      · exact held
      · exact absurd (List.mem_singleton.mp last) (unnamed "data.js" (by decide))
  have escapes : exporter.Escapes request place project home last script := by
    refine ⟨?_, kept, outer, found, inside⟩
    rw [paths_scriptsOf, LoadOrder.kept_eq, List.mem_filter] at kept
    rcases LoadOrder.mem_asked (List.mem_eraseDups.mp kept.1) with plain | requested | own
    · have inner := Path.isInner_of_isPlain plain
      have same : LoadOrder.bundleName script = script := by
        rw [LoadOrder.bundleName, if_neg (by simp [Path.relative_of_isInner inner])]
      rw [same, inner] at outer
      cases outer
    · exact requested
    · obtain ⟨name, isName, same⟩ := own
      exact absurd same (unnamed name isName)
  exact ⟨.inr ⟨script, escapes, rfl⟩, fun other before => .inr (.inr ⟨script, escapes, before⟩)⟩

/-- Everything that is written once the resources are exported lies in the directories. -/
theorem holds_writtenFiles {project : Project} :
    ∀ file ∈ exporter.writtenFiles request place project, place.Holds home (locate home file) := by
  simp only [writtenFiles, List.forall_mem_append, List.forall_mem_map, List.forall_mem_cons,
    List.not_mem_nil, false_implies, implies_true, and_true]
  refine ⟨⟨?_, ?_, ?_⟩, ?_⟩
  · intro script member
    obtain ⟨name, isName, same⟩ := GeneratedScript.exists_isName_path member
    rw [same]
    exact OutputPlace.holds_join (Path.isInner_of_isName isName) OutputPlace.holds_code
  · exact OutputPlace.holds_join (by decide) OutputPlace.holds_code
  · exact OutputPlace.holds_join (by decide) (holds_webRoot request.target)
  · intro file member
    exact OutputPlace.holds_join (request.target.isInner_packageWrites file member)
      OutputPlace.holds_bundle

theorem holds_external {project : Project} {script : ExternalScript}
    (member : script ∈ ExternalScript.ofProject project place.code) :
    place.Holds home (locate home script.target) := by
  obtain ⟨name, isName, same⟩ := ExternalScript.exists_isName_target member
  rw [same]
  exact OutputPlace.holds_join (Path.isInner_of_isName isName) OutputPlace.holds_code

theorem toward_assemble_of_escapes {project : Project} {last : Memory}
    (rooted : place.code.isAbsolute = true ∨ place.code.text = "") :
    Work.Keeps (Toward last home (exporter.Reaches request place project home last)
        (exporter.MayMake request place project home last))
      (exporter.assemble request place project) := by
  apply toward_assemble
  · exact fun file member => admits_of_holds (holds_writtenFiles file member)
  · intro script member
    have admits : Admits (exporter.Reaches request place project home last)
        (exporter.MayMake request place project home last) (locate home script.target) :=
      admits_of_holds (holds_external member)
    exact ⟨fun _ => admits.target, admits.way⟩
  · simp only [copiedFiles, List.forall_mem_append, List.forall_mem_map]
    refine ⟨fun script member => admits_scriptCopy rooted member, ?_⟩
    intro copy member _
    obtain ⟨file, inner, same⟩ := PackageSource.exists_inner_of_mem_copies member
    rw [same]
    exact admits_of_holds (OutputPlace.holds_join inner OutputPlace.holds_bundle)
  · intro other before
    have inside : place.Holds home (locate home (place.bundle / "buildResources")) :=
      OutputPlace.holds_join (by decide) OutputPlace.holds_bundle
    exact (inside.way other before).imp .inl .inl

/-- The files after an export are those after its last part that was run. -/
theorem exportWith_files {σ : Type} [Storage σ] (exporter : Exporter) (request : ExportRequest)
    (codeDirectory : Path) (disk : σ) :
    (exporter.exportWith request codeDirectory disk).2 =
      match (exportedProject request (outputPlace request codeDirectory disk)).start disk with
      | (.ok exported, session) => ((exporter.assemble request
          (outputPlace request codeDirectory disk) exported).exec session).2.disk
      | (.error _, session) => session.disk := by
  change ((exporter.build request (outputPlace request codeDirectory disk)).start disk).2.disk = _
  unfold build Work.start
  rw [Work.exec_bind]
  rcases (exportedProject request (outputPlace request codeDirectory disk)).exec
    ⟨disk, .empty⟩ with ⟨outcome, session⟩
  cases outcome <;> rfl

theorem isAbsolute_outputPlace (request : ExportRequest) (codeDirectory : Path) (disk : Memory) :
    (outputPlace request codeDirectory disk).code.isAbsolute = true ∨
      (outputPlace request codeDirectory disk).code.text = "" := by
  by_cases blank : codeDirectory.text = ""
  · right
    change (Path.absolute _ _).text = ""
    rw [Path.absolute, if_pos (by simpa using blank), blank]
  · exact .inl (Path.isAbsolute_absolute blank (Place.isAbsolute_text disk.home))

theorem outputPlace_of_home {one other : Memory} (same : other.home = one.home)
    (request : ExportRequest) (codeDirectory : Path) :
    outputPlace request codeDirectory other = outputPlace request codeDirectory one := by
  change OutputPlace.mk (Path.absolute ⟨other.home.text⟩ _) (Path.absolute ⟨other.home.text⟩ _) = _
  rw [same]
  rfl

/-- Without exported resources nothing escapes; with them, scripts alone can. -/
theorem confined_exportWith (exporter : Exporter) (request : ExportRequest)
    (codeDirectory : Path) (disk : Memory) :
    let place := outputPlace request codeDirectory disk
    let after := (exporter.exportWith request codeDirectory disk).2
    Memory.Confined (place.Holds disk.home) (place.IsUnder disk.home) disk after ∨
      ∃ exported session,
        (exportedProject request place).start disk = (.ok exported, session) ∧
        Memory.Confined (exporter.Reaches request place exported disk.home after)
          (exporter.MayMake request place exported disk.home after) disk after := by
  intro place after
  have files : after = _ := exportWith_files exporter request codeDirectory disk
  have prepared : Memory.Confined (place.Holds disk.home) (place.IsUnder disk.home) disk
      ((exportedProject request place).start disk).2.disk :=
    (within_exportedProject ⟨disk, .empty⟩).1 rfl
  rcases ran : (exportedProject request place).start disk with ⟨outcome, session⟩
  rw [ran] at prepared files
  cases outcome with
  | error fault =>
    left
    rw [files]
    exact prepared
  | ok exported =>
    refine .inr ⟨exported, session, rfl, ?_⟩
    have rooted := isAbsolute_outputPlace request codeDirectory disk
    have kept : Toward after disk.home (exporter.Reaches request place exported disk.home after)
        (exporter.MayMake request place exported disk.home after) session.disk
        ((exporter.assemble request place exported).exec session).2.disk :=
      (toward_assemble_of_escapes rooted session).1
    rw [show ((exporter.assemble request place exported).exec session).2.disk = after from
      files.symm] at kept
    exact trans_of (Memory.Confined _ _) (prepared.mono (fun _ => .inl) fun _ => .inl)
      (kept.confined prepared.home (refl_of FilesRemain after))

theorem home_exportWith (exporter : Exporter) (request : ExportRequest) (codeDirectory : Path)
    (disk : Memory) : (exporter.exportWith request codeDirectory disk).2.home = disk.home := by
  rcases confined_exportWith exporter request codeDirectory disk with
    confined | ⟨_, _, -, confined⟩ <;> exact confined.home

/-- A script whose source is a file is copied, and another one is reported. -/
theorem materialize_eq_ok {runtime includesDir : Path} {script : String}
    {session later : Session Memory}
    (ran : (materialize runtime includesDir script).exec session = (.ok (), later)) :
    (session.disk.isFile (LoadOrder.source runtime script) = false ∧
        later.disk = session.disk ∧ later.diagnostics ≠ .empty) ∨
      ∃ bytes, session.disk.tree.get? (session.disk.place (LoadOrder.source runtime script)) =
          some (.file bytes) ∧
        let target := session.disk.place (includesDir / LoadOrder.bundleName script)
        target ≠ [] ∧ later.disk = session.disk.put target bytes ∧
          later.diagnostics = session.diagnostics := by
  rcases Work.copyFound_eq_ok ran with ⟨missing, rfl⟩ | ⟨bytes, read, inside, rfl⟩
  · exact .inl ⟨missing, rfl, by simp [Diagnostics.warn, Diagnostics.push, Diagnostics.empty]⟩
  · exact .inr ⟨bytes, read, inside, rfl, rfl⟩

theorem isFile_of_materialize {runtime includesDir : Path} {script : String}
    {session later : Session Memory}
    (ran : (materialize runtime includesDir script).exec session = (.ok (), later))
    (found : session.disk.isFile (LoadOrder.source runtime script) = true) :
    later.disk.tree.isFile (session.disk.place (includesDir / LoadOrder.bundleName script)) =
      true := by
  rcases materialize_eq_ok ran with ⟨missing, -⟩ | ⟨bytes, -, inside, copied, -⟩
  · rw [found] at missing
    cases missing
  · rw [copied]
    exact Tree.isFile_iff.mpr ⟨bytes, Memory.get?_put_self inside bytes⟩

theorem grows_materialize (runtime includesDir : Path) (script : String) :
    Work.Keeps Memory.Grows (materialize runtime includesDir script : Work Memory Unit) :=
  keeps_materialize fun _ _ => Memory.grows_copy _ _ _

/-- Of all scripts that are copied, each that is a file beforehand is found in the end. -/
theorem isFile_of_forM_materialize {runtime includesDir : Path} {scripts : List String}
    {session final : Session Memory} {script : String}
    (ran : (scripts.forM (materialize runtime includesDir)).exec session = (.ok (), final))
    (member : script ∈ scripts)
    (found : session.disk.isFile (LoadOrder.source runtime script) = true) :
    final.disk.tree.isFile (session.disk.place (includesDir / LoadOrder.bundleName script)) =
      true := by
  induction scripts generalizing session with
  | nil => cases member
  | cons first rest ih =>
    rw [Work.forM_cons] at ran
    obtain ⟨_, middle, copied, later⟩ := Work.exec_bind_eq_ok ran
    rcases List.mem_cons.mp member with rfl | inside
    · have grown := Work.Keeps.of_exec (.forM fun script _ =>
        grows_materialize runtime includesDir script) later
      exact grown.files _ (isFile_of_materialize copied found)
    · have grown := (grows_materialize runtime includesDir first).of_exec copied
      rw [← Memory.place_eq_of_home grown.base]
      apply ih later inside
      rw [Memory.isFile, Memory.place_eq_of_home grown.base]
      exact grown.files _ found

/-- Every script whose source is a file once the resources are exported lies in the end
where it is copied to, if the bundle is made. -/
theorem isFile_of_assemble {project : Project} {session final : Session Memory}
    {report : ExportReport} {script : String}
    (ran : (exporter.assemble request place project).exec session = (.ok report, final))
    (member : script ∈ (exporter.allScripts request place project).paths)
    (found : session.disk.isFile (exporter.scriptCopy request place script).1 = true) :
    final.disk.tree.isFile (session.disk.place (exporter.scriptCopy request place script).2) =
      true := by
  obtain ⟨_, written, first, ran⟩ := Work.exec_bind_eq_ok ran
  obtain ⟨_, copied, second, ran⟩ := Work.exec_bind_eq_ok ran
  obtain ⟨_, stored, third, ran⟩ := Work.exec_bind_eq_ok ran
  obtain ⟨_, materialized, fourth, ran⟩ := Work.exec_bind_eq_ok ran
  have generated : Memory.Grows session.disk written.disk := by
    exact Work.Keeps.of_exec (.forM fun script _ => keeps_writeGenerated (Memory.grows_write _ _))
      first
  have external : Memory.Grows written.disk copied.disk := by
    exact Work.Keeps.of_exec (.forM fun script _ => keeps_copyExternal (Memory.grows_copy _ _))
      second
  have data : Memory.Grows copied.disk stored.disk :=
    Work.Keeps.of_exec (Work.keeps_write (Memory.grows_write _ _)) third
  have before : Memory.Grows session.disk stored.disk :=
    trans_of Memory.Grows generated (trans_of Memory.Grows external data)
  have after : Memory.Grows materialized.disk final.disk := by
    refine Work.Keeps.of_exec ?_ ran
    refine .bind (EntryPoint.keeps_render (Memory.grows_write _) _ _) fun _ => ?_
    exact .bind (keeps_packageFiles (fun _ _ => Memory.grows_write _)
      (fun _ _ _ _ => Memory.grows_copy _ _ _) (Memory.grows_createDirs _))
      fun files => .bind .get fun _ => .pure _
  rw [← Memory.place_eq_of_home before.base]
  apply after.files
  apply isFile_of_forM_materialize fourth member
  rw [Memory.isFile, Memory.place_eq_of_home before.base]
  exact before.files _ found

/-- What an export changes lies inside its output directories, or is a missing directory
above them, or comes from a script that escapes, whether the export succeeds or fails. When
it succeeds, every script that was found does lie where it is copied to. -/
theorem exportWith_stays (exporter : Exporter) (request : ExportRequest) (codeDirectory : Path)
    (disk : Memory) :
    let place := outputPlace request codeDirectory disk
    let after := (exporter.exportWith request codeDirectory disk).2
    let target := fun script => locate disk.home (exporter.scriptCopy request place script).2
    (∀ spot, after.tree.get? spot = disk.tree.get? spot ∨ place.Holds disk.home spot ∨
      (place.IsUnder disk.home spot ∧ disk.tree.get? spot = none ∧
        after.tree.get? spot = some .directory) ∨
      ∃ exported session script,
        (exportedProject request place).start disk = (.ok exported, session) ∧
        exporter.Escapes request place exported disk.home after script ∧
        (spot = target script ∨ (spot <+: (target script).dropLast ∧
          disk.tree.get? spot = none ∧ after.tree.get? spot = some .directory))) ∧
    ∀ report exported session script,
      (exporter.exportWith request codeDirectory disk).1 = .ok report →
      (exportedProject request place).start disk = (.ok exported, session) →
      script ∈ (exporter.allScripts request place exported).paths →
      session.disk.isFile (exporter.scriptCopy request place script).1 = true →
      after.tree.isFile (target script) = true := by
  intro place after target
  constructor
  · intro spot
    rcases confined_exportWith exporter request codeDirectory disk with
      confined | ⟨exported, session, ran, confined⟩
    · rcases confined.tree spot with holds | same | made
      · exact .inr (.inl holds)
      · exact .inl same
      · exact .inr (.inr (.inl made))
    · rcases confined.tree spot with (holds | ⟨script, escapes, same⟩) | same | ⟨high, made⟩
      · exact .inr (.inl holds)
      · exact .inr (.inr (.inr ⟨exported, session, script, ran, escapes, .inl same⟩))
      · exact .inl same
      · rcases high with under | ⟨script, escapes, before⟩
        · exact .inr (.inr (.inl ⟨under, made⟩))
        · exact .inr (.inr (.inr ⟨exported, session, script, ran, escapes, .inr ⟨before, made⟩⟩))
  · intro report exported session script succeeded ran member found
    have done : exporter.exportWith request codeDirectory disk = (.ok report, after) :=
      Prod.ext succeeded rfl
    obtain ⟨other, later, final, first, second, last⟩ := exportWith_eq_ok done
    rw [ran, Prod.mk.injEq] at first
    obtain ⟨same, rfl⟩ := first
    obtain rfl := Except.ok.inj same
    have prepared : Memory.Confined (place.Holds disk.home) (place.IsUnder disk.home) disk
        session.disk := Work.Keeps.of_exec within_exportedProject ran rfl
    have lies := isFile_of_assemble second member found
    rw [Memory.place, prepared.home, last] at lies
    exact lies

end Exporter

end GameBundle
