import GameBundle.Proofs.Bundle.Supply

/-!
# Entry points and packages of bundles

The entry point and the package come last. All files that they are said to consist of are
there in the end, and when nothing has been reported, the page or the project file lists
every script of the bundle. They have names of their own, so nothing else is overwritten.
-/

namespace GameBundle

open Memory (locate Admits Agree Grows Within Confined)
open Work (Steady Keeps)
open Session (Ahead)

variable {session later : Session Memory}

namespace Work

theorem template_eq_ok {path : Path} {text : String}
    (ran : (template path).exec session = (.ok text, later)) :
    session.disk.readText path = .ok text ∧ later = session := by
  unfold template at ran
  rw [exec_look_bind] at ran
  change Storage.readText path session.disk = .ok text ∧ later = session
  generalize Storage.readText path session.disk = read at ran ⊢
  cases read with
  | error cause => cases ran
  | ok found =>
    cases ran
    exact ⟨rfl, rfl⟩

/-- From files at the given paths a step leads to files at the paths that it returns. -/
def Makes {α : Type} (before : List Path) (work : Work Memory α) (made : α → List Path) : Prop :=
  ∀ session a later, (∀ path ∈ before, session.disk.isFile path = true) →
    work.exec session = (.ok a, later) → ∀ path ∈ made a, later.disk.isFile path = true

namespace Makes

variable {α β : Type} {before : List Path} {made : α → List Path}

theorem pure {a : α} (known : ∀ path ∈ made a, path ∈ before) :
    Makes before (Pure.pure a) made := by
  intro session b later held ran path member
  cases ran
  exact held path (known path member)

theorem keeps {work : Work Memory α} (kept : Keeps Grows work) :
    Makes before work fun _ => before := by
  intro session a later held ran path member
  have grown := kept.of_exec ran
  rw [Memory.isFile, Memory.place_eq_of_home grown.base]
  exact grown.files _ (held path member)

theorem bind {work : Work Memory α} {next : α → Work Memory β} {last : β → List Path}
    (first : Makes before work made) (rest : ∀ a, Makes (made a) (next a) last) :
    Makes before (work >>= next) last := by
  intro session b later held ran
  obtain ⟨a, middle, begun, ended⟩ := exec_bind_eq_ok ran
  exact rest a middle b later (first session a middle held begun) ended

theorem mono {work : Work Memory α} {fewer : α → List Path} (makes : Makes before work made)
    (known : ∀ a, ∀ path ∈ fewer a, path ∈ made a) : Makes before work fewer :=
  fun session a later held ran path member =>
    makes session a later held ran path (known a path member)

/-- What is done with a file that is found may rely on the file being there. -/
theorem isFile {path : Path} {found missing : Work Memory α}
    (there : Makes (path :: before) found made) (absent : Makes before missing made) :
    Makes before (Work.isFile path >>= fun held => if held = true then found else missing) made := by
  intro session a later held ran
  rw [Work.isFile, exec_look_bind] at ran
  cases known : session.disk.isFile path with
  | true =>
    rw [show Storage.isFile path session.disk = true from known] at ran
    exact there session a later (List.forall_mem_cons.mpr ⟨known, held⟩) ran
  | false =>
    rw [show Storage.isFile path session.disk = false from known] at ran
    exact absent session a later held ran

theorem throw {fault : ExportFault} : Makes before (MonadExcept.throw fault : Work Memory α) made := by
  intro session a later held ran
  cases ran

theorem write (path : Path) (text : String) :
    Makes before (Work.write path text) fun _ => path :: before := by
  intro session _ later held ran
  have kept := keeps (keeps_write (Memory.grows_write _ _)) session () later held ran
  exact List.forall_mem_cons.mpr ⟨isFile_of_write ran, kept⟩

theorem copy {source : Path} (known : source ∈ before) (target : Path) :
    Makes before (Work.copy source target) fun _ => target :: before := by
  intro session _ later held ran
  have kept : Keeps Grows (Work.copy source target) := fun session =>
    keepsAt_copy (Memory.grows_copy _ _ _)
  exact List.forall_mem_cons.mpr
    ⟨isFile_of_copy (held source known) ran, keeps kept session () later held ran⟩

end Makes

end Work

open Work (Makes)

namespace PackageSource

variable {source : PackageSource} {before : List Path}

theorem makes_write (file text : String) :
    Makes before (source.write file text) fun path => path :: before :=
  .bind (.write _ _) fun _ => .pure fun _ member => member

theorem makes_copy {origin : Path} (known : origin ∈ before) (file : String) :
    Makes before (source.copy origin file) fun path => path :: before :=
  .bind (.copy known _) fun _ => .pure fun _ member => member

theorem makes_copyTemplate (template file : String) :
    Makes before (source.copyTemplate template file) fun path => path :: before :=
  .isFile ((makes_copy List.mem_cons_self file).mono fun path other member => by
    rw [List.mem_cons] at member ⊢
    exact member.imp_right (List.mem_cons_of_mem _)) .throw

theorem makes_writeManifest (template : String) :
    Makes before (source.writeManifest template) fun path => path :: before :=
  .bind (.keeps (Work.keeps_template _)) fun _ => makes_write _ _

theorem makes_copyIcon : Makes before (Desktop.copyIcon source) fun icons => icons ++ before := by
  unfold Desktop.copyIcon
  dsimp only
  split
  · exact .pure fun path member => member
  · refine .isFile (.bind (makes_copy List.mem_cons_self _) fun icon => .pure ?_) ?_
    · intro path member
      simp only [List.cons_append, List.nil_append, List.mem_cons] at member ⊢
      tauto
    · exact .bind (.keeps (.warn _ _ _)) fun _ => .pure fun path member => member

/-- Every file that a package is said to consist of is there. -/
theorem makes_package : Makes [] source.package id := by
  unfold package
  cases source.profile.target with
  | preview => exact .pure fun path member => member
  | html5 => exact .pure fun path member => member
  | facebookInstantGames =>
    refine .bind (.keeps (Work.keeps_template _)) fun _ => .bind (makes_write _ _) fun _ => ?_
    exact .pure fun path member => member
  | electron =>
    refine .bind (makes_writeManifest _) fun manifest => .bind (.keeps (Work.keeps_template _)) ?_
    refine fun _ => .bind (makes_write _ _) fun main => ?_
    refine .bind (.keeps (Work.keeps_createDirs (Memory.grows_createDirs _))) fun _ => ?_
    refine .bind makes_copyIcon fun icons => .pure fun path member => ?_
    simp only [id, List.mem_cons, List.mem_append, List.not_mem_nil, or_false] at member ⊢
    tauto
  | cordova =>
    refine .bind (.keeps (.look _)) fun _ => .bind (.keeps (.report _)) fun _ => ?_
    refine .bind (.keeps (Work.keeps_template _)) fun _ => .bind (makes_write _ _) fun settings => ?_
    refine .bind (makes_writeManifest _) fun manifest => .pure fun path member => ?_
    simp only [id, List.mem_cons, List.not_mem_nil, or_false] at member ⊢
    tauto
  | cocos2d =>
    refine .bind (makes_copyTemplate _ _) fun main => .bind (makes_copyTemplate _ _) fun engine => ?_
    refine .bind (.keeps (.look _)) fun _ => .bind (.keeps (.report _)) fun _ => ?_
    refine .bind (.keeps (Work.keeps_template _)) fun _ => .bind (makes_write _ _) fun file => ?_
    refine .pure fun path member => ?_
    simp only [id, List.mem_cons, List.not_mem_nil, or_false] at member ⊢
    tauto

end PackageSource

section Elsewhere

variable {home spot : Place}

/-- Files may be put anywhere but at one place. -/
theorem Memory.admits_of_ne {place : Place} (apart : place ≠ spot) :
    Admits (· ≠ spot) (fun _ => True) place :=
  ⟨apart, fun _ _ => .inr trivial⟩

/-- A text that can be read later could be read before, if nothing but other files were
written. -/
theorem Memory.readText_of_confined {above : Place → Prop} {before after : Memory}
    {path : Path} {text : String} (confined : Confined (· ≠ before.place path) above before after)
    (read : after.readText path = .ok text) : before.readText path = .ok text := by
  have denied (call : StorageCall) (place : Place) :
      after.isDenied call place = before.isDenied call place := by
    unfold Memory.isDenied
    rw [confined.denied]
  rcases confined.tree (before.place path) with free | same | ⟨-, absent, made⟩
  · exact absurd rfl free
  · simpa only [Memory.readText, Memory.place_eq_of_home confined.home, denied, Memory.contents,
      same] using read
  · simp only [Memory.readText, Memory.place_eq_of_home confined.home, Memory.contents,
      made] at read
    split at read <;> cases read

def packageNames : List String :=
  ["fbapp-config.json", "package.json", "main.js", "config.xml", "project.json", "icon.png",
    "cocos2d-js-v3.10.js"]

/-- The names of the page and of the files of packages. -/
def finishingNames : List String := "index.html" :: packageNames

/-- Whether the last part of a path names the page or a file of a package. -/
def isFinishing (path : List Char) : Bool :=
  (Path.splitParts path).getLast?.any fun part => finishingNames.any (·.toList == part)

theorem not_isFinishing_engine {script : String}
    (engine : script ∈ coreScripts ++ eventsToolScripts ++ debuggerScripts ++
      Renderer.pixi.scripts ++ Renderer.cocos.scripts) : isFinishing script.toList = false := by
  have of_chars {chars : List Char} (other : isFinishing chars = false) :
      isFinishing (String.ofList chars).toList = false := by rwa [String.toList_ofList]
  revert script
  unfold coreScripts eventsToolScripts debuggerScripts Renderer.scripts
  simp only [List.cons_append, List.nil_append, List.forall_mem_cons]
  repeat' apply And.intro
  all_goals first
    | exact of_chars (by decide)
    | simp

theorem getLast?_engine {script : String}
    (engine : script ∈ coreScripts ++ eventsToolScripts ++ debuggerScripts ++
      Renderer.pixi.scripts ++ Renderer.cocos.scripts) (home : Place) (path : Path) :
    ∀ name ∈ finishingNames, (locate home (path / script)).getLast? ≠ some name := by
  intro name listed same
  rw [Memory.getLast?_locate_join (isPlain_engine engine), List.getLast?_map,
    Option.map_eq_some_iff] at same
  obtain ⟨part, last, rfl⟩ := same
  have finishing : isFinishing script.toList = true := by
    rw [isFinishing, last, Option.any_some, List.any_eq_true]
    exact ⟨_, listed, by simp⟩
  rw [not_isFinishing_engine engine] at finishing
  cases finishing

theorem admits_of_packageName {directory : Path} {file : String}
    (plain : Path.isPlain file.toList = true)
    (named : ((Path.splitParts file.toList).map String.ofList).getLast? ∈ packageNames.map some)
    (apart : ∀ name ∈ packageNames, spot.getLast? ≠ some name) :
    Admits (· ≠ spot) (fun _ => True) (locate home (directory / file)) := by
  apply Memory.admits_of_ne
  rintro rfl
  obtain ⟨name, listed, same⟩ := List.mem_map.mp named
  apply apart name listed
  rw [Memory.getLast?_locate_join plain, same]

/-- The package leaves files alone that have none of its names. -/
theorem Exporter.keeps_packageFiles_elsewhere (source : PackageSource)
    (apart : ∀ name ∈ packageNames, spot.getLast? ≠ some name) :
    Keeps (Within home (· ≠ spot) fun _ => True) (packageFiles source) := by
  have writes : ∀ file ∈ source.profile.target.packageWrites, Path.isPlain file.toList = true ∧
      ((Path.splitParts file.toList).map String.ofList).getLast? ∈ packageNames.map some := by
    cases source.profile.target <;> decide
  have copies : ∀ file ∈ packageCopies, Path.isPlain file.toList = true ∧
      ((Path.splitParts file.toList).map String.ofList).getLast? ∈ packageNames.map some := by
    decide
  refine keeps_packageFiles (fun file member text => ?_) (fun copy member disk _ => ?_) ?_
  · obtain ⟨plain, named⟩ := writes file member
    exact Memory.within_write (admits_of_packageName plain named apart) text
  · obtain ⟨file, listed, same⟩ := PackageSource.exists_of_mem_copies member
    obtain ⟨plain, named⟩ := copies file listed
    rw [same]
    exact Memory.within_copy (admits_of_packageName plain named apart) copy.1 disk
  · exact Memory.within_createDirs fun _ _ => .inr trivial

/-- The entry point leaves files alone that have another name. -/
theorem EntryPoint.keeps_render_elsewhere {profile : TargetProfile} {runtime directory : Path}
    {scripts : List String} (apart : spot.getLast? ≠ some "index.html") :
    Keeps (Within home (· ≠ spot) fun _ => True) (render profile runtime directory scripts) := by
  apply keeps_render
  refine Memory.within_write (Memory.admits_of_ne ?_)
  rintro rfl
  apply apart
  rw [Memory.locate_join_name (by decide), List.getLast?_concat]

end Elsewhere

/-- When none of the items fails a test, all of them pass it. -/
theorem partition_of_nil {α : Type} {items : List α} {p : α → Bool}
    (none : (items.partition p).2 = []) : (items.partition p).1 = items := by
  rw [List.partition_eq_filter_filter] at none ⊢
  rw [List.filter_eq_self]
  intro item member
  have kept := List.filter_eq_nil_iff.mp none item member
  simpa using kept

namespace EntryPoint

variable {profile : TargetProfile} {runtime directory page : Path} {scripts : List String}

/-- The page is made from the template, and without a report it loads all scripts. -/
theorem complete_eq_ok {template text spec : String}
    (ran : (complete template directory scripts spec).exec session = (.ok text, later)) :
    later.disk = session.disk ∧
      (later.diagnostics = .empty → text = EntryPoint.page template scripts spec) := by
  obtain ⟨loadable, middle, looked, ran⟩ := Work.exec_bind_eq_ok ran
  obtain ⟨_, reported, report, ran⟩ := Work.exec_bind_eq_ok ran
  rw [Work.exec_look, Prod.mk.injEq] at looked
  rw [Work.exec_report, Prod.mk.injEq] at report
  rw [Work.exec_pure, Prod.mk.injEq] at ran
  obtain ⟨rfl, rfl⟩ : text = _ ∧ later = _ := ⟨(Except.ok.inj ran.1).symm, ran.2.symm⟩
  rw [← report.2, ← looked.2]
  refine ⟨rfl, fun quiet => ?_⟩
  have none : (scripts.partition loadable).2 = [] := by
    have items := congrArg Diagnostics.items quiet
    exact List.map_eq_nil_iff.mp (List.append_eq_nil_iff.mp items).2
  exact congrArg (EntryPoint.page template · spec) (partition_of_nil none)

theorem ahead_render {outcome : Except ExportFault Path}
    (ran : (render profile runtime directory scripts).exec session = (outcome, later)) :
    Ahead session later :=
  Work.ahead (keeps_render (Memory.grows_write _) _ _)
    (steady_render trivial (fun _ _ _ => trivial) (Work.everywhere _)) ran

theorem render_steps
    (ran : (render profile runtime directory scripts).exec session = (.ok page, later)) :
    page = profile.webRootIn directory / "index.html" ∧ ∃ template text completed,
      session.disk.readText (runtime / profile.indexTemplate) = .ok template ∧
      (complete template (profile.webRootIn directory)
        (if profile.indexIncludes then scripts else [])
        (if profile.isPreview then "kiln.runtimeGameOptions" else "")).exec session =
          (.ok text, completed) ∧
      (Work.write page text).exec completed = (.ok (), later) := by
  obtain ⟨template, middle, read, ran⟩ := Work.exec_bind_eq_ok ran
  obtain ⟨text, completed, filled, ran⟩ := Work.exec_bind_eq_ok ran
  obtain ⟨_, written, wrote, ran⟩ := Work.exec_bind_eq_ok ran
  rw [Work.exec_pure, Prod.mk.injEq] at ran
  obtain ⟨rfl, rfl⟩ : page = _ ∧ later = written := ⟨(Except.ok.inj ran.1).symm, ran.2.symm⟩
  obtain ⟨found, rfl⟩ := Work.template_eq_ok read
  exact ⟨rfl, template, text, completed, found, filled, wrote⟩

/-- The page stands in the web root, and without a report it loads all scripts listed. -/
theorem render_eq_ok
    (ran : (render profile runtime directory scripts).exec session = (.ok page, later)) :
    page = profile.webRootIn directory / "index.html" ∧ later.disk.isFile page = true ∧
      ∃ template, session.disk.readText (runtime / profile.indexTemplate) = .ok template ∧
        (later.diagnostics = .empty → later.disk.tree.get? (session.disk.place page) =
          some (.file (EntryPoint.page template (if profile.indexIncludes then scripts else [])
            (if profile.isPreview then "kiln.runtimeGameOptions" else "")).toUTF8)) := by
  obtain ⟨same, template, text, completed, found, filled, wrote⟩ := render_steps ran
  obtain ⟨kept, loads⟩ := complete_eq_ok filled
  refine ⟨same, Work.isFile_of_write wrote, template, found, fun quiet => ?_⟩
  rw [← kept, ← loads ((Work.ahead_write wrote).quiet quiet)]
  exact Work.get?_of_write wrote

theorem complete_of_found {template text spec : String}
    (ran : (complete template directory scripts spec).exec session = (.ok text, later))
    (found : ∀ script ∈ scripts, session.disk.isFile (directory / script) = true) :
    later = session := by
  have all : scripts.partition (isLoadable directory session.disk) = (scripts, []) := by
    rw [List.partition_eq_filter_filter, Prod.mk.injEq, List.filter_eq_self, List.filter_eq_nil_iff]
    have loads (script : String) (member : script ∈ scripts) :
        isLoadable directory session.disk script = true := by
      have lies : Storage.isFile (directory / script) session.disk = true := found script member
      rw [isLoadable, lies, Bool.or_true]
    exact ⟨loads, fun script member => by simp [loads script member]⟩
  unfold complete at ran
  rw [Work.exec_look_bind, all] at ran
  cases ran
  exact congrArg (Session.mk session.disk ⟨·⟩) (List.append_nil _)

/-- A page whose scripts are all found is made without a report. -/
theorem quiet_of_found
    (ran : (render profile runtime directory scripts).exec session = (.ok page, later))
    (found : ∀ script ∈ if profile.indexIncludes then scripts else [],
      session.disk.isFile (profile.webRootIn directory / script) = true) :
    later.diagnostics = session.diagnostics := by
  obtain ⟨-, template, text, completed, -, filled, wrote⟩ := render_steps ran
  rw [(Work.exec_change_eq_ok wrote).2, complete_of_found filled found]

end EntryPoint

namespace Native

variable {source : PackageSource} {files : List Path} {home spot : Place}

theorem keeps_copyTemplate_elsewhere (template : String) {file : String}
    (plain : Path.isPlain file.toList = true)
    (apart : spot.getLast? ≠ ((Path.splitParts file.toList).map String.ofList).getLast?) :
    Keeps (Within home (· ≠ spot) fun _ => True) (source.copyTemplate template file) := by
  refine PackageSource.keeps_copyTemplate fun disk _ =>
    Memory.within_copy (Memory.admits_of_ne ?_) _ disk
  rintro rfl
  exact apart (Memory.getLast?_locate_join plain)

/-- The project file is made from its template, and without a report it lists all scripts. -/
theorem package_eq_ok (ran : (package source).exec session = (.ok files, later)) :
    ∃ template, session.disk.readText (source.runtime / "Cocos2d/project.json") = .ok template ∧
      (later.diagnostics = .empty →
        later.disk.tree.get? (session.disk.place (source.directory / "project.json")) =
          some (.file (projectFile template (source.scripts.map (scriptPath source))
            source.profile.isPreview).toUTF8)) := by
  obtain ⟨main, first, copied, ran⟩ := Work.exec_bind_eq_ok ran
  obtain ⟨engine, second, again, ran⟩ := Work.exec_bind_eq_ok ran
  obtain ⟨found, middle, looked, ran⟩ := Work.exec_bind_eq_ok ran
  obtain ⟨_, reported, report, ran⟩ := Work.exec_bind_eq_ok ran
  obtain ⟨template, filled, read, ran⟩ := Work.exec_bind_eq_ok ran
  obtain ⟨file, written, wrote, ran⟩ := Work.exec_bind_eq_ok ran
  obtain ⟨_, final, wrote, ended⟩ := Work.exec_bind_eq_ok wrote
  cases ended
  cases ran
  rw [Work.exec_look, Prod.mk.injEq] at looked
  rw [Work.exec_report, Prod.mk.injEq] at report
  obtain ⟨-, rfl⟩ := looked
  obtain ⟨-, rfl⟩ := report
  obtain ⟨text, rfl⟩ := Work.template_eq_ok read
  let spot := locate session.disk.home (source.runtime / "Cocos2d/project.json")
  have last : spot.getLast? = some "project.json" := by
    rw [Memory.getLast?_locate_join (by decide)]
    decide
  have main : Within session.disk.home (· ≠ spot) (fun _ => True) session.disk first.disk :=
    (keeps_copyTemplate_elsewhere _ (by decide) (by rw [last]; decide)).of_exec copied
  have engine : Within session.disk.home (· ≠ spot) (fun _ => True) first.disk second.disk :=
    (keeps_copyTemplate_elsewhere _ (by decide) (by rw [last]; decide)).of_exec again
  have apart := trans_of (Within session.disk.home (· ≠ spot) fun _ => True) main engine rfl
  refine ⟨template, Memory.readText_of_confined apart text, fun quiet => ?_⟩
  have none : ((source.scripts.map (scriptPath source)).partition found).2 = [] := by
    have items := congrArg Diagnostics.items ((Work.ahead_write wrote).quiet quiet)
    exact List.map_eq_nil_iff.mp (List.append_eq_nil_iff.mp items).2
  rw [← Memory.place_eq_of_home apart.home]
  refine (Work.get?_of_write wrote).trans ?_
  exact congrArg (fun paths => some (Node.file (projectFile template paths
    source.profile.isPreview).toUTF8)) (partition_of_nil none)

end Native

namespace Exporter

variable {exporter : Exporter} {request : ExportRequest} {place : OutputPlace} {project : Project}

theorem ahead_packageFiles {source : PackageSource} {outcome : Except ExportFault (List Path)}
    (ran : (packageFiles source).exec session = (outcome, later)) : Ahead session later :=
  Work.ahead (keeps_packageFiles (fun _ _ => Memory.grows_write _)
      (fun _ _ _ _ => Memory.grows_copy _ _ _) (Memory.grows_createDirs _))
    (steady_packageFiles (fun _ _ => trivial) (fun _ _ => trivial) (fun _ _ => Work.everywhere _)
      (fun _ _ _ => Work.everywhere _) fun _ _ => .inl trivial) ran

theorem ahead_finish {report : ExportReport}
    (ran : (exporter.finish request place project).exec session = (.ok report, later)) :
    Ahead session later ∧ report.diagnostics = later.diagnostics := by
  obtain ⟨page, rendered, files, first, second, rfl⟩ := finish_eq_ok ran
  exact ⟨trans_of Ahead (EntryPoint.ahead_render first) (ahead_packageFiles second), rfl⟩

end Exporter

end GameBundle
