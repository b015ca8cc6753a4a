import GameBundle.Proofs.Bundle.ResourceNames
import GameBundle.Proofs.Storage.Disk

/-!
# Exporting the resources of a project

When no source lies inside the destination, copies neither change a source nor each other:
a name is copied to again only from a path to the same file. What the sources hold is then
found under the exported names in the end, and exactly the resources whose source is
missing are reported, in their order. This holds in memory, and on a disk for a destination
that is there.
-/

namespace GameBundle

open Memory (locate)

namespace ResourceExport

variable {σ : Type} [Storage σ] {home destination : Path} {isSource : Path → Prop}
  {names : Taken} {session later : Session σ}

def isMissing (home : Path) (disk : σ) (resource : Resource) : Bool :=
  resource.file ≠ "" && !Storage.isFile (home / resource.file) disk

def missingReport (home : Path) (resource : Resource) : Diagnostic :=
  .warning .missingResourceFile
    ("resource " ++ Json.quoteName resource.name ++ " points to a missing file")
    (some (home / resource.file).text)

theorem exportFile_eq_ok {label : String} {source target : Path}
    (ran : (exportFile label source target).exec session = (.ok (), later)) :
    (Storage.isFile source session.disk = true ∧
        Storage.copy source target session.disk = (.ok (), later.disk) ∧
        later.diagnostics = session.diagnostics) ∨
      Storage.isFile source session.disk = false ∧ later.disk = session.disk ∧
        later.diagnostics = session.diagnostics.warn .missingResourceFile
          ("resource " ++ Json.quoteName label ++ " points to a missing file") source.text := by
  unfold exportFile at ran
  rw [Work.isFile, Work.exec_look_bind] at ran
  cases found : Storage.isFile source session.disk with
  | true =>
    rw [if_pos found] at ran
    exact .inl ⟨rfl, Work.exec_change_eq_ok ran⟩
  | false =>
    rw [if_neg (by simp [found]), Work.exec_warn, Prod.mk.injEq] at ran
    rw [← ran.2]
    exact .inr ⟨rfl, rfl, rfl⟩

section

variable {view : Storage.Intake σ destination isSource}

theorem kept_of_exportFile {label name : String} {source : Path}
    (sound : view.sound session.disk) (known : isSource source) (isName : Path.IsName name)
    (ran : (exportFile label source (destination / name)).exec session = (.ok (), later)) :
    view.sound later.disk ∧
      (∀ other, Path.IsName other → other ≠ name →
        view.bytes? (destination / other) later.disk =
          view.bytes? (destination / other) session.disk) ∧
      ∀ other, isSource other → view.bytes? other later.disk = view.bytes? other session.disk := by
  rcases exportFile_eq_ok ran with ⟨found, done, -⟩ | ⟨-, same, -⟩
  · obtain ⟨still, copied⟩ := view.copied _ _ source name sound known found isName done
    exact ⟨still, copied.others, copied.sources⟩
  · rw [same]
    exact ⟨sound, fun _ _ _ => rfl, fun _ _ => rfl⟩

/-- What a source holds is under its name once it was exported. -/
theorem put_of_exportFile {label name : String} {source : Path} {bytes : ByteArray}
    (sound : view.sound session.disk) (known : isSource source) (isName : Path.IsName name)
    (ran : (exportFile label source (destination / name)).exec session = (.ok (), later))
    (held : view.bytes? source session.disk = some bytes) :
    view.bytes? (destination / name) later.disk = some bytes := by
  rcases exportFile_eq_ok ran with ⟨found, done, -⟩ | ⟨missing, -⟩
  · obtain ⟨-, copied⟩ := view.copied _ _ source name sound known found isName done
    rw [copied.put, held]
  · rw [view.isFile_eq _ _ sound known, held] at missing
    cases missing

theorem copy_lasts {resources : List Resource} {holder source : Path} {name : String}
    {bytes : ByteArray} (sound : view.sound session.disk)
    (sources : ∀ resource ∈ resources, resource.file ≠ "" → isSource (home / resource.file))
    (isName : Path.IsName name) (known : isSource source)
    (given : names.find? name = some holder) (same : holder.same source = true)
    (held : view.bytes? source session.disk = some bytes)
    (there : view.bytes? (destination / name) session.disk = some bytes)
    (whole : ((exportFrom home destination names resources).run session).1.fault? = none) :
    view.bytes? (destination / name)
      ((exportFrom home destination names resources).run session).2.disk = some bytes := by
  induction resources generalizing names session with
  | nil => exact there
  | cons resource rest ih =>
    rw [run_exportFrom_cons] at whole ⊢
    rw [List.forall_mem_cons] at sources
    by_cases blank : resource.file = ""
    · simp only [blank, if_true] at whole ⊢
      exact ih sound sources.2 given held there whole
    · simp only [blank, if_false] at whole ⊢
      let other := home / resource.file
      have otherKnown : isSource other := sources.1 blank
      rcases ran : (exportFile resource.name other (destination / exportedName names other)).exec
        session with ⟨outcome, middle⟩
      rw [ran] at whole
      cases outcome with
      | error fault => cases whole
      | ok done =>
        have otherName := isName_exportedName names other
        obtain ⟨still, others, kept⟩ := kept_of_exportFile sound otherKnown otherName ran
        refine ih still sources.2 (extends_takeName _ _ _ _ _ given) ((kept source known).trans held)
          ?_ whole
        by_cases again : name = exportedName names other
        · -- the other path leads to the same file, so it puts the same bytes there
          have suits := isFor_exportedName names other
          rw [← again, isFor, given] at suits
          have agrees : source.same other = true := Path.same_trans (Path.same_symm same) suits
          rcases exportFile_eq_ok ran with ⟨found, -, -⟩ | ⟨-, unchanged, -⟩
          · rw [view.isFile_eq _ _ sound otherKnown, Option.isSome_iff_exists] at found
            obtain ⟨contents, read⟩ := found
            rw [view.agree _ _ _ _ _ sound known otherKnown agrees held read, again]
            exact put_of_exportFile sound otherKnown otherName ran read
          · rw [unchanged]
            exact there
        · exact (others name isName again).trans there

/-- What the export of resources does to files and reports. -/
structure Transferred (view : Storage.Intake σ destination isSource) (home : Path)
    (resources : List Resource) (nameOf : Path → String) (before after : Session σ) : Prop where
  sound : view.sound after.disk
  sources : ∀ source, isSource source →
    view.bytes? source after.disk = view.bytes? source before.disk
  copies : ∀ resource ∈ resources, resource.file ≠ "" → ∀ bytes,
    view.bytes? (home / resource.file) before.disk = some bytes →
      view.bytes? (destination / nameOf (home / resource.file)) after.disk = some bytes
  reports : after.diagnostics.items = before.diagnostics.items ++
    (resources.filter (isMissing home before.disk)).map (missingReport home)

theorem transferred_exportFrom {resources : List Resource} (sound : view.sound session.disk)
    (sources : ∀ resource ∈ resources, resource.file ≠ "" → isSource (home / resource.file))
    (whole : ((exportFrom home destination names resources).run session).1.fault? = none) :
    Transferred view home resources (exportedName (takenAfter home names resources)) session
      ((exportFrom home destination names resources).run session).2 := by
  induction resources generalizing names session with
  | nil => exact ⟨sound, fun _ _ => rfl, fun _ member => (by cases member),
      (List.append_nil _).symm⟩
  | cons resource rest ih =>
    rw [run_exportFrom_cons] at whole ⊢
    rw [List.forall_mem_cons] at sources
    rw [takenAfter]
    by_cases blank : resource.file = ""
    · simp only [blank, if_true] at whole ⊢
      obtain ⟨still, kept, copies, reports⟩ := ih sound sources.2 whole
      refine ⟨still, kept, List.forall_mem_cons.mpr ⟨fun named => absurd blank named, copies⟩, ?_⟩
      rw [List.filter_cons_of_neg (by simp [isMissing, blank])]
      exact reports
    · simp only [blank, if_false] at whole ⊢
      let source := home / resource.file
      have known : isSource source := sources.1 blank
      rcases ran : (exportFile resource.name source (destination / exportedName names source)).exec
        session with ⟨outcome, middle⟩
      rw [ran] at whole
      cases outcome with
      | error fault => cases whole
      | ok done =>
        have isName := isName_exportedName names source
        obtain ⟨still, -, kept⟩ := kept_of_exportFile sound known isName ran
        obtain ⟨last, later, copies, reports⟩ := ih still sources.2 whole
        have missing : ∀ other ∈ rest, isMissing home middle.disk other =
            isMissing home session.disk other := by
          intro other member
          unfold isMissing
          by_cases named : other.file = ""
          · simp [named]
          · rw [view.isFile_eq _ _ still (sources.2 other member named),
              view.isFile_eq _ _ sound (sources.2 other member named),
              kept _ (sources.2 other member named)]
        refine ⟨last, fun other given => (later other given).trans (kept other given), ?_, ?_⟩
        · refine List.forall_mem_cons.mpr ⟨fun _ bytes held => ?_, fun other member named bytes held =>
            copies other member named bytes ((kept _ (sources.2 other member named)).trans held)⟩
          have given := gives_takeName names source
          rw [(given.mono (extends_takenAfter home _ rest)).exportedName_eq]
          obtain ⟨holder, holds, same⟩ := given.given
          exact copy_lasts still sources.2 isName known holds same ((kept source known).trans held)
            (put_of_exportFile sound known isName ran held) whole
        · refine reports.trans ?_
          rw [List.filter_congr missing]
          rcases exportFile_eq_ok ran with ⟨found, -, quiet⟩ | ⟨absent, -, warned⟩
          · rw [List.filter_cons_of_neg (by simp [isMissing, show Storage.isFile (home /
              resource.file) session.disk = true from found]), quiet]
          · rw [List.filter_cons_of_pos (by simp [isMissing, blank, show Storage.isFile (home /
              resource.file) session.disk = false from absent]), warned]
            simp [Diagnostics.warn, Diagnostics.push, missingReport, source]

end

/-- A resource and what became of it once it was exported from the directory `home`. -/
structure Exported (home : Path) (before after : Resource) : Prop where
  name : after.name = before.name
  kind : after.kind = before.kind
  blank : before.file = "" → after.file = ""
  single : before.file ≠ "" → (Path.mk after.file).components = [.name after.file]
  extension : before.file ≠ "" →
    (Path.mk after.file).ownExtension? = (home / before.file).ownExtension?

theorem exported_renamed (home : Path) (names : Taken) (resource : Resource) :
    Exported home resource (renamed home names resource) := by
  unfold renamed
  split
  · rename_i blank
    exact ⟨rfl, rfl, fun _ => blank, fun named => absurd blank named, fun named => absurd blank named⟩
  · rename_i named
    exact ⟨rfl, rfl, fun blank => absurd blank named,
      fun _ => Path.components_of_isName (isName_exportedName names _),
      fun _ => ownExtension?_exportedName names _⟩

end ResourceExport

namespace Project

open ResourceExport

variable {σ : Type} [Storage σ] {project exported : Project} {destination : Path}
  {isSource : Path → Prop} {session final : Session σ}

theorem withExportedResources_eq_ok
    (done : (project.withExportedResources destination).exec session = (.ok exported, final)) :
    ∃ copied, (exportFrom project.directory destination [] project.resources.resources).run session =
        (copied, final) ∧ copied.fault? = none ∧
      exported = { project with resources := ⟨copied.resources⟩ } := by
  obtain ⟨copied, later, ran, judged⟩ := Work.exec_bind_eq_ok done
  rw [Work.exec_lift, Prod.mk.injEq] at ran
  obtain ⟨made, rfl⟩ := ran
  obtain rfl := Except.ok.inj made
  cases whole : ((project.exportedResources destination).run session).1.fault? with
  | some fault => simp [whole] at judged
  | none =>
    rw [whole, Work.exec_pure, Prod.mk.injEq] at judged
    obtain ⟨result, rfl⟩ := judged
    exact ⟨_, rfl, whole, (Except.ok.inj result).symm⟩

def IsSource (project : Project) (path : Path) : Prop :=
  ∃ resource ∈ project.resources.resources, resource.file ≠ "" ∧
    path = project.directory / resource.file

/-- What an export of the resources of a project makes of the project, files and reports. -/
structure ExportsResources (project : Project) (destination : Path)
    (intake : Storage.Intake σ destination project.IsSource) (exported : Project)
    (before after : Session σ) : Prop where
  rest : exported = { project with resources := exported.resources }
  each : List.Forall₂ (Exported project.directory) project.resources.resources
    exported.resources.resources
  shared : ∀ one ∈ project.resources.resources.zip exported.resources.resources,
    ∀ other ∈ project.resources.resources.zip exported.resources.resources,
      one.1.file ≠ "" → other.1.file ≠ "" → (one.2.file = other.2.file ↔
        (project.directory / one.1.file).same (project.directory / other.1.file) = true)
  bytes : ∀ pair ∈ project.resources.resources.zip exported.resources.resources,
    pair.1.file ≠ "" → ∀ bytes,
      intake.bytes? (project.directory / pair.1.file) before.disk = some bytes →
        intake.bytes? (destination / pair.2.file) after.disk = some bytes
  reports : after.diagnostics.items = before.diagnostics.items ++
    (project.resources.resources.filter (isMissing project.directory before.disk)).map
      (missingReport project.directory)

/-- Resources exported into a directory that holds no source are renamed one by one, share a
name exactly when they share a source, and have the bytes of their sources; the missing
ones are reported. -/
theorem withExportedResources_exports {intake : Storage.Intake σ destination project.IsSource}
    (sound : intake.sound session.disk)
    (done : (project.withExportedResources destination).exec session = (.ok exported, final)) :
    project.ExportsResources destination intake exported session final := by
  obtain ⟨copied, ran, whole, rfl⟩ := withExportedResources_eq_ok done
  have sources : ∀ resource ∈ project.resources.resources, resource.file ≠ "" →
      project.IsSource (project.directory / resource.file) :=
    fun resource member named => ⟨resource, member, named, rfl⟩
  have fault : ((exportFrom project.directory destination [] project.resources.resources).run
      session).1.fault? = none := by rw [ran]; exact whole
  have table := resources_exportFrom fault
  have transferred := transferred_exportFrom sound sources fault
  rw [ran] at table transferred
  simp only at table transferred
  let names := takenAfter project.directory [] project.resources.resources
  have paired : ∀ pair ∈ project.resources.resources.zip copied.resources,
      pair.1 ∈ project.resources.resources ∧
        pair.2 = renamed project.directory names pair.1 := by
    intro pair member
    have pairs : (project.resources.resources.map id).zip (project.resources.resources.map
        (renamed project.directory names)) = _ := List.zip_map'
    rw [List.map_id] at pairs
    rw [table, pairs, List.mem_map] at member
    obtain ⟨resource, listed, rfl⟩ := member
    exact ⟨listed, rfl⟩
  refine ⟨rfl, ?_, ?_, ?_, transferred.reports⟩
  · rw [table, List.forall₂_map_right_iff]
    exact List.forall₂_same.mpr fun resource _ => exported_renamed _ _ resource
  · intro one member other otherMember named otherNamed
    obtain ⟨listed, new⟩ := paired one member
    obtain ⟨otherListed, otherNew⟩ := paired other otherMember
    rw [new, otherNew, renamed, if_neg named, renamed, if_neg otherNamed]
    exact exportedName_eq_iff (gives_takenAfter listed named) (gives_takenAfter otherListed otherNamed)
  · intro pair member named bytes held
    obtain ⟨listed, new⟩ := paired pair member
    rw [new, renamed, if_neg named]
    exact transferred.copies pair.1 listed named bytes held

/-- Two pictures of one name, one of them twice, a resource without a file and a lost one. -/
def album : Project :=
  { Project.blank "Album" with
    projectFile := "/game/game.json"
    resources := ⟨[⟨"front", .image, "a/x.png"⟩, ⟨"back", .image, "b/x.png"⟩,
      ⟨"cover", .image, "a//x.png"⟩, ⟨"blank", .json, ""⟩, ⟨"lost", .audio, "lost.ogg"⟩]⟩ }

def albumDisk : Memory where
  tree := ⟨[(["game", "a", "x.png"], .file ⟨#[1]⟩), (["game", "b", "x.png"], .file ⟨#[2]⟩)]⟩
  home := ["cwd"]
  denied := []

theorem album_outside : ∀ source, album.IsSource source →
    Tree.isBelow (locate ["cwd"] source) (locate ["cwd"] ⟨"/out"⟩) = false := by
  rintro source ⟨resource, member, -, rfl⟩
  revert resource
  decide +kernel

def albumOnDisk : Local where
  tree := ⟨(["game"], .directory) :: (["game", "a"], .directory) :: (["game", "b"], .directory) ::
    (["out"], .directory) :: albumDisk.tree.entries⟩
  home := ["cwd"]

/-- In memory and on the disk the second picture is renamed. -/
theorem album_exported :
    (∃ exported final,
      (album.withExportedResources ⟨"/out"⟩).exec ⟨albumDisk, .empty⟩ = (.ok exported, final) ∧
      exported.resources.resources.map Resource.file = ["x.png", "x2.png", "x.png", "", "lost.ogg"] ∧
      album.ExportsResources ⟨"/out"⟩ (Memory.intake ["cwd"] ⟨"/out"⟩ album.IsSource album_outside)
        exported ⟨albumDisk, .empty⟩ final) ∧
    ∃ exported final,
      (album.withExportedResources ⟨"/out"⟩).exec ⟨albumOnDisk, .empty⟩ = (.ok exported, final) ∧
      exported.resources.resources.map Resource.file = ["x.png", "x2.png", "x.png", "", "lost.ogg"] ∧
      album.ExportsResources ⟨"/out"⟩ (Local.intake ["cwd"] ⟨"/out"⟩ album.IsSource album_outside)
        exported ⟨albumOnDisk, .empty⟩ final := by
  have inMemory : (((album.withExportedResources ⟨"/out"⟩).exec ⟨albumDisk, .empty⟩).1.map
      fun exported => exported.resources.resources.map Resource.file) =
        .ok ["x.png", "x2.png", "x.png", "", "lost.ogg"] := by
    decide +kernel
  have onDisk : (((album.withExportedResources ⟨"/out"⟩).exec ⟨albumOnDisk, .empty⟩).1.map
      fun exported => exported.resources.resources.map Resource.file) =
        .ok ["x.png", "x2.png", "x.png", "", "lost.ogg"] := by
    decide +kernel
  constructor
  · obtain ⟨exported, final, done, files⟩ := Work.exec_eq_ok_of_map inMemory
    exact ⟨exported, final, done, files, withExportedResources_exports rfl done⟩
  · obtain ⟨exported, final, done, files⟩ := Work.exec_eq_ok_of_map onDisk
    have there : albumOnDisk.isDirectory ⟨"/out"⟩ = true := rfl
    exact ⟨exported, final, done, files, withExportedResources_exports ⟨rfl, there⟩ done⟩

end Project

end GameBundle
