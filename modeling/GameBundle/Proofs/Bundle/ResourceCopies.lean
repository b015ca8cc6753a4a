import GameBundle.Proofs.Bundle.FontResources
import GameBundle.Proofs.Bundle.Footprint
import GameBundle.Proofs.Bundle.LoadOrder
import GameBundle.Proofs.Storage.Relations

/-!
# Copies of resources

While resources are exported, every file under a taken name has the contents of the
source that the name was given to, and no file has a name that is not taken. A copy
therefore never changes a file that is already there, so the copy of each resource
lasts until all resources are exported. What is written afterwards may still replace it.
-/

namespace GameBundle

open Memory (locate)

namespace Dictionary

theorem find?_takeName (taken : ResourceExport.Taken) (source : Path) (name sought : String) :
    (ResourceExport.takeName taken source name).find? sought =
      if sought = name ∧ taken.find? name = none then some source else taken.find? sought := by
  unfold ResourceExport.takeName
  cases held : taken.find? name with
  | some other => simp
  | none =>
    by_cases same : sought = name
    · subst same
      simp [find?_insert_self]
    · simp [same, find?_insert_of_ne]

end Dictionary

namespace ResourceExport

variable {home root : Place} {taken : Taken} {source destination : Path} {name : String}

/-- Names that are not taken are names of no file in the root, and a file under a taken
name has the contents of the source that the name was given to. -/
structure Mirrors (home root : Place) (taken : Taken) (disk : Memory) : Prop where
  base : disk.home = home
  free : ∀ name, taken.find? name = none → disk.tree.isFile (root ++ [name]) = false
  held : ∀ name source bytes, taken.find? name = some source →
    disk.tree.get? (root ++ [name]) = some (.file bytes) →
    disk.tree.get? (locate home source) = some (.file bytes)

def FilesStay (before after : Memory) : Prop :=
  ∀ place bytes, before.tree.get? place = some (.file bytes) →
    after.tree.get? place = some (.file bytes)

theorem FilesStay.refl (disk : Memory) : FilesStay disk disk := fun _ _ held => held

theorem FilesStay.trans {before middle after : Memory} (first : FilesStay before middle)
    (second : FilesStay middle after) : FilesStay before after :=
  fun place bytes held => second place bytes (first place bytes held)

/-- What a file under a suitable name holds is what its source holds. -/
theorem Mirrors.source_eq {disk : Memory} (mirrors : Mirrors home root taken disk)
    (suits : isFor taken source name = true) {bytes : ByteArray}
    (there : disk.tree.get? (root ++ [name]) = some (.file bytes)) :
    disk.tree.get? (locate home source) = some (.file bytes) := by
  unfold isFor at suits
  cases given : taken.find? name with
  | none =>
    have absent := mirrors.free name given
    rw [Tree.isFile_iff.mpr ⟨bytes, there⟩] at absent
    cases absent
  | some other =>
    rw [given] at suits
    rw [← Memory.locate_congr suits]
    exact mirrors.held name other bytes given there

theorem Mirrors.filesStay_put {disk : Memory} (mirrors : Mirrors home root taken disk)
    (suits : isFor taken source name = true) {bytes : ByteArray}
    (read : disk.tree.get? (locate home source) = some (.file bytes)) :
    FilesStay disk (disk.put (root ++ [name]) bytes) := by
  intro place held there
  by_cases same : place = root ++ [name]
  · subst same
    have known := mirrors.source_eq suits there
    rw [read] at known
    rw [Memory.get?_put_self (by simp), known]
  · rw [Memory.get?_put_of_ne same, there]
    simp

/-- A name can be given to a source that suits it before anything is copied. -/
theorem Mirrors.take {disk : Memory} (mirrors : Mirrors home root taken disk)
    (suits : isFor taken source name = true) :
    Mirrors home root (takeName taken source name) disk where
  base := mirrors.base
  free other absent := by
    rw [Dictionary.find?_takeName] at absent
    split at absent
    · cases absent
    · exact mirrors.free other absent
  held other given contents found there := by
    rw [Dictionary.find?_takeName] at found
    split at found
    · rename_i same
      obtain ⟨rfl, -⟩ := same
      cases found
      exact mirrors.source_eq suits there
    · exact mirrors.held other given contents found there

theorem find?_takeName_self (suits : isFor taken source name = true) :
    ∃ other, (takeName taken source name).find? name = some other ∧ other.same source = true := by
  unfold isFor at suits
  rw [Dictionary.find?_takeName]
  cases given : taken.find? name with
  | none => exact ⟨source, by simp, by simp [Path.same]⟩
  | some other =>
    rw [given] at suits
    exact ⟨other, by simp, suits⟩

theorem Mirrors.put {disk : Memory} (mirrors : Mirrors home root taken disk) {other : Path}
    (given : taken.find? name = some other) (same : other.same source = true) {bytes : ByteArray}
    (read : disk.tree.get? (locate home source) = some (.file bytes)) :
    Mirrors home root taken (disk.put (root ++ [name]) bytes) where
  base := mirrors.base
  free sought absent := by
    have apart : sought ≠ name := by
      rintro rfl
      rw [given] at absent
      cases absent
    rw [Memory.isFile_put_of_ne (by simpa using apart)]
    exact mirrors.free sought absent
  held sought holder contents found there := by
    have suits : isFor taken source name = true := by simp [isFor, given, same]
    have stay := mirrors.filesStay_put suits read
    by_cases again : sought = name
    · subst again
      rw [Memory.get?_put_self (by simp)] at there
      rw [given] at found
      cases there
      cases found
      rw [Memory.locate_congr same]
      exact stay _ _ read
    · rw [Memory.get?_put_of_ne (by simpa using again)] at there
      split at there
      · cases there
      · exact stay _ _ (mirrors.held sought holder contents found there)

/-- Exporting a file under a suitable name keeps the invariant and all files, and leaves the
contents of the source under the name. -/
theorem Mirrors.of_exportFile {session later : Session Memory} {label : String}
    (mirrors : Mirrors home root taken session.disk) (suits : isFor taken source name = true)
    (isName : Path.IsName name) (rooted : locate home destination = root)
    (ran : (exportFile label source (destination / name)).exec session = (.ok (), later)) :
    Mirrors home root (takeName taken source name) later.disk ∧
      FilesStay session.disk later.disk ∧
      ∀ bytes, session.disk.tree.get? (locate home source) = some (.file bytes) →
        later.disk.tree.get? (root ++ [name]) = some (.file bytes) := by
  have target : session.disk.place (destination / name) = root ++ [name] := by
    rw [Memory.place, mirrors.base, Memory.locate_join_name isName, rooted]
  have origin : session.disk.place source = locate home source := by
    rw [Memory.place, mirrors.base]
  rcases Work.copyFound_eq_ok ran with ⟨missing, rfl⟩ | ⟨bytes, read, inside, rfl⟩
  · rw [Memory.isFile, origin] at missing
    refine ⟨mirrors.take suits, .refl _, ?_⟩
    intro bytes read
    rw [Tree.isFile_iff.mpr ⟨bytes, read⟩] at missing
    cases missing
  · rw [origin] at read
    rw [target]
    obtain ⟨other, given, same⟩ := find?_takeName_self suits
    refine ⟨(mirrors.take suits).put given same read, mirrors.filesStay_put suits read, ?_⟩
    intro contents again
    rw [read] at again
    rw [Memory.get?_put_self (by simp), again]

/-- Exporting resources without fault keeps the invariant and all files. -/
theorem Mirrors.of_exportFrom {session : Session Memory}
    (mirrors : Mirrors home root taken session.disk) (rooted : locate home destination = root)
    (directory : Path) (resources : List Resource)
    (whole : ((exportFrom directory destination taken resources).run session).1.fault? = none) :
    Mirrors home root (takenAfter directory taken resources)
        ((exportFrom directory destination taken resources).run session).2.disk ∧
      FilesStay session.disk
        ((exportFrom directory destination taken resources).run session).2.disk := by
  induction resources generalizing taken session with
  | nil => exact ⟨mirrors, .refl _⟩
  | cons resource rest ih =>
    rw [run_exportFrom_cons] at whole ⊢
    rw [takenAfter]
    by_cases blank : resource.file = ""
    · simp only [blank, if_true] at whole ⊢
      exact ih mirrors whole
    · simp only [blank, if_false] at whole ⊢
      rcases ran : (exportFile resource.name (directory / resource.file)
        (destination / exportedName taken (directory / resource.file))).exec session with
        ⟨outcome, middle⟩
      rw [ran] at whole
      cases outcome with
      | error fault => cases whole
      | ok done =>
        obtain ⟨kept, stay, -⟩ := mirrors.of_exportFile (isFor_exportedName taken _)
          (isName_exportedName taken _) rooted ran
        obtain ⟨last, rest⟩ := ih kept whole
        exact ⟨last, stay.trans rest⟩

/-- The copy of a resource lasts until all resources are exported: what its source held when
its turn came is found under its name in the end. -/
theorem Mirrors.copy_lasts {session final : Session Memory} {directory : Path}
    {done : ResourceExport} {front back : List Resource} {resource : Resource}
    (mirrors : Mirrors home root taken session.disk) (rooted : locate home destination = root)
    (named : resource.file ≠ "")
    (ran : (exportFrom directory destination taken (front ++ resource :: back)).run session =
      (done, final))
    (whole : done.fault? = none) :
    ((exportFrom directory destination taken front).run session).1.fault? = none ∧
      final.disk.home = home ∧
      ∃ entry, done.resources[front.length]? = some entry ∧ Path.IsName entry.file ∧
        ∀ bytes, ((exportFrom directory destination taken front).run session).2.disk.tree.get?
            (locate home (directory / resource.file)) = some (.file bytes) →
          final.disk.tree.get? (root ++ [entry.file]) = some (.file bytes) := by
  obtain ⟨ahead, middle, later, rest, begun, fault, copied, ended, last, table⟩ :=
    exportFrom_split directory destination ran whole named rfl rfl
  have size := length_exportFrom directory destination taken front session
  have first := mirrors.of_exportFrom rooted directory front
  rw [begun] at size first ⊢
  obtain ⟨kept, -⟩ := first fault
  obtain ⟨still, -, put⟩ :=
    kept.of_exportFile (isFor_exportedName _ _) (isName_exportedName _ _) rooted copied
  have closing := still.of_exportFrom rooted directory back
  rw [ended] at closing
  obtain ⟨mirrored, stay⟩ := closing last
  let name := exportedName (takenAfter directory taken front) (directory / resource.file)
  refine ⟨fault, mirrored.base, { resource with file := name }, ?_, isName_exportedName _ _, ?_⟩
  · rw [table, ← size]
    simp [name]
  · exact fun bytes read => stay _ _ (put bytes read)

end ResourceExport

namespace Work

open Memory (NoNewFiles)

theorem noNewFiles_emptyDir (path : Path) : Keeps NoNewFiles (emptyDir path : Work Memory Unit) :=
  keeps_emptyDir (Memory.noNewFiles_createDirs path) (Memory.noNewFiles_clearDir path)

/-- No file is left inside a directory that has been emptied. -/
theorem isFile_of_emptyDir {path : Path} {session later : Session Memory} {place : Place}
    (ran : (emptyDir path).exec session = (.ok (), later))
    (below : Tree.isBelow place (session.disk.place path) = true) :
    later.disk.tree.isFile place = false := by
  obtain ⟨_, middle, made, cleared⟩ := exec_bind_eq_ok ran
  have home : middle.disk.home = session.disk.home := by
    have kept := (Memory.grows_createDirs path session.disk).base
    rwa [show session.disk.createDirs path = _ from (exec_change_eq_ok made).1] at kept
  rw [Memory.clearDir_eq_ok (exec_change_eq_ok cleared).1, Tree.isFile_clear,
    Memory.place_eq_of_home home, below]
  rfl

end Work

namespace Exporter

theorem isFile_of_prepare {place : OutputPlace} {webRoot : Path} {disk : Memory}
    {emptied : Session Memory} (ran : (prepare place webRoot).start disk = (.ok (), emptied))
    {below : Place} (inside : Tree.isBelow below (disk.place place.bundle) = true) :
    emptied.disk.tree.isFile below = false := by
  obtain ⟨_, first, cleared, later⟩ := Work.exec_bind_eq_ok ran
  have rest : Work.Keeps Memory.NoNewFiles (do
      Work.emptyDir place.code
      Work.createDirs webRoot : Work Memory Unit) :=
    .bind (Work.noNewFiles_emptyDir _) fun _ =>
      Work.keeps_createDirs (Memory.noNewFiles_createDirs webRoot)
  exact rest.of_exec later below (Work.isFile_of_emptyDir cleared inside)

/-- Once the directories are emptied, no name in the web root is that of a file. -/
theorem mirrors_prepare {target : Target} {place : OutputPlace} {disk : Memory}
    {emptied : Session Memory}
    (ran : (prepare place (target.profile.webRootIn place.bundle)).start disk = (.ok (), emptied)) :
    ResourceExport.Mirrors disk.home (locate disk.home (target.profile.webRootIn place.bundle)) []
      emptied.disk where
  base := by
    have keeps : Work.Keeps (Memory.Within disk.home (fun _ => True) (fun _ => True))
        (prepare place (target.profile.webRootIn place.bundle)) :=
      keeps_prepare (fun _ _ => Memory.within_createDirs fun _ _ => .inl trivial)
        (fun _ _ => Memory.within_clearDir fun _ _ => trivial)
    exact (keeps.of_exec ran rfl).home
  free name _ := by
    have inside := TargetProfile.prefix_webRootIn target disk.home place.bundle
    refine isFile_of_prepare ran (Tree.isBelow_iff.mpr ⟨inside.trans (List.prefix_append _ _), ?_⟩)
    intro same
    have short := inside.length_le
    have sizes := congrArg List.length same
    rw [List.length_append, Memory.place] at sizes
    simp only [List.length_singleton] at sizes
    omega
  held name source bytes given := by cases given

end Exporter

def ExportRequest.upTo (request : ExportRequest) (count : Nat) : ExportRequest :=
  { request with project := { request.project with
    resources := ⟨request.project.resources.resources.take count⟩ } }

namespace Exporter

/-- A place where the export puts a file once the resources are exported. A copy counts when
its source is a file in the end. -/
def Overwrites (exporter : Exporter) (request : ExportRequest) (outputs : OutputPlace)
    (project : Project) (home : Place) (after : Memory) (place : Place) : Prop :=
  (∃ file ∈ exporter.writtenFiles request outputs project, locate home file = place) ∨
  (∃ script ∈ ExternalScript.ofProject project outputs.code,
    after.tree.isFile (locate home script.source) = true ∧ locate home script.target = place) ∨
  ∃ copy ∈ exporter.copiedFiles request outputs project,
    after.tree.isFile (locate home copy.1) = true ∧ locate home copy.2 = place

/-- Assembling a bundle leaves files where it puts none. -/
theorem file_of_assemble {exporter : Exporter} {request : ExportRequest}
    {outputs : OutputPlace} {project : Project} {session final : Session Memory}
    {outcome : Except ExportFault ExportReport} {place : Place} {bytes : ByteArray}
    (ran : (exporter.assemble request outputs project).exec session = (outcome, final))
    (spared : ¬exporter.Overwrites request outputs project session.disk.home final.disk place)
    (held : session.disk.tree.get? place = some (.file bytes)) :
    final.disk.tree.get? place = some (.file bytes) := by
  have kept : Work.Keeps (Memory.Toward final.disk session.disk.home
      (exporter.Overwrites request outputs project session.disk.home final.disk) fun _ => True)
      (exporter.assemble request outputs project) := toward_assemble
    (fun file member => ⟨.inl ⟨file, member, rfl⟩, fun _ _ => .inr trivial⟩)
    (fun script member => ⟨fun found => .inr (.inl ⟨script, member, found, rfl⟩),
      fun _ _ => .inr trivial⟩)
    (fun copy member found => ⟨.inr (.inr ⟨copy, member, found, rfl⟩), fun _ _ => .inr trivial⟩)
    (fun _ _ => .inr trivial)
  have confined := (kept.of_exec ran).confined rfl fun _ there => there
  exact confined.tree.file_stays spared held

/-- Every resource whose source was a file when its turn came lies under its exported name,
with the contents copied there, when the export is done, unless the export puts another
file at that very place once the resources are exported. -/
theorem resource_copy_stays {exporter : Exporter} {request : ExportRequest}
    {codeDirectory : Path} {disk after : Memory} {report : ExportReport} {index : Nat}
    {resource : Resource} {bytes : ByteArray}
    (done : exporter.exportWith request codeDirectory disk = (.ok report, after))
    (listed : request.project.resources.resources[index]? = some resource)
    (named : resource.file ≠ "")
    (read : ((exportedProject (request.upTo index)
        (outputPlace request codeDirectory disk)).start disk).2.disk.tree.get?
      (disk.place (request.project.directory / resource.file)) = some (.file bytes)) :
    ∃ exported session entry,
      (exportedProject request (outputPlace request codeDirectory disk)).start disk =
        (.ok exported, session) ∧
      exported.resources.resources[index]? = some entry ∧
      let copy := request.target.profile.webRootIn
        (outputPlace request codeDirectory disk).bundle / entry.file
      session.disk.tree.get? (disk.place copy) = some (.file bytes) ∧
        (after.tree.get? (disk.place copy) = some (.file bytes) ∨
          exporter.Overwrites request (outputPlace request codeDirectory disk) exported disk.home
            after (disk.place copy)) := by
  obtain ⟨exported, session, final, first, second, rfl⟩ := exportWith_eq_ok done
  obtain ⟨emptied, table, prepared, ran, whole, shape⟩ := exportedProject_eq_ok first
  generalize outputPlace request codeDirectory disk = place at *
  obtain ⟨inside, same⟩ := List.getElem?_eq_some_iff.mp listed
  have cut : request.project.resources.resources =
      request.project.resources.resources.take index ++
        resource :: request.project.resources.resources.drop (index + 1) := by
    rw [← same, ← List.drop_eq_getElem_cons inside, List.take_append_drop]
  have count : (request.project.resources.resources.take index).length = index :=
    List.length_take_of_le (Nat.le_of_lt inside)
  rw [cut] at ran
  obtain ⟨fault, base, entry, found, isName, lasts⟩ :=
    (mirrors_prepare prepared).copy_lasts rfl named ran whole
  have files : ((exportedProject (request.upTo index) place).start disk).2 = _ :=
    congrArg Prod.snd (exportedProject_of_ok prepared rfl fault)
  rw [files] at read
  rw [count] at found
  refine ⟨exported, session, entry, first, ?_, ?_⟩
  · obtain ⟨rest, longer⟩ := ResourceTable.prefix_addFontsIn ⟨table.resources⟩
      (request.target.profile.webRootIn place.bundle) "" session.disk
    rw [shape, ← longer, List.getElem?_append_left (List.getElem?_eq_some_iff.mp found).1]
    exact found
  · intro copy
    have spot : disk.place copy =
        locate disk.home (request.target.profile.webRootIn place.bundle) ++ [entry.file] :=
      Memory.locate_join_name isName
    have copied := lasts bytes read
    rw [← spot] at copied
    refine ⟨copied, ?_⟩
    by_cases overwritten : exporter.Overwrites request place exported disk.home final.disk
        (disk.place copy)
    · exact .inr overwritten
    · rw [← base] at overwritten
      exact .inl (file_of_assemble second overwritten copied)

theorem hero_copy_stays : ∃ report after exported session entry,
    lone.exportWith heroRequest ⟨"/out/code"⟩ heroDisk = (.ok report, after) ∧
    (exportedProject heroRequest heroPlace).start heroDisk = (.ok exported, session) ∧
    exported.resources.resources[0]? = some entry ∧
    let copy := heroRequest.target.profile.webRootIn heroPlace.bundle / entry.file
    session.disk.tree.get? (heroDisk.place copy) = some (.file ⟨#[137, 80]⟩) ∧
      (after.tree.get? (heroDisk.place copy) = some (.file ⟨#[137, 80]⟩) ∨
        lone.Overwrites heroRequest heroPlace exported heroDisk.home after
          (heroDisk.place copy)) := by
  obtain ⟨report, after, done⟩ := hero_succeeds
  have read : ((exportedProject (heroRequest.upTo 0) heroPlace).start heroDisk).2.disk.tree.get?
      (heroDisk.place (heroRequest.project.directory / "hero.png")) =
        some (.file ⟨#[137, 80]⟩) := rfl
  have listed : heroRequest.project.resources.resources[0]? = some ⟨"hero", .image, "hero.png"⟩ :=
    rfl
  obtain ⟨exported, session, entry, first, found, kept⟩ :=
    resource_copy_stays done listed (by decide) read
  exact ⟨report, after, exported, session, entry, done, first, found, kept⟩

end Exporter

end GameBundle
