import GameBundle.Proofs.Bundle.LockstepExport

/-!
# Files of exported resources

Once the resources are exported, each that has a file has one directly in the web root, under
a proper name. Unless something was reported, the file is there, also for the fonts that
were found beside the resources.
-/

namespace GameBundle

open Memory (locate Grows Orderly)

namespace ResourceTable

theorem mem_add {table : ResourceTable} {resource other : Resource}
    (member : other ∈ (table.add resource).resources) : other ∈ table.resources ∨ other = resource := by
  unfold add at member
  split at member
  · exact .inl member
  · exact (List.mem_append.mp member).imp_right List.mem_singleton.mp

theorem mem_addFonts {table : ResourceTable} {url : String} {fileNames : List String}
    {resource : Resource} (member : resource ∈ (table.addFonts url fileNames).resources) :
    resource ∈ table.resources ∨ ∃ name ∈ fileNames, resource = fontResource url name := by
  unfold addFonts at member
  have fonts : ∀ name ∈ fileNames.filter isFontName, name ∈ fileNames :=
    fun name listed => (List.mem_filter.mp listed).1
  generalize fileNames.filter isFontName = names at member fonts
  induction names generalizing table with
  | nil => exact .inl member
  | cons name names ih =>
    rw [List.forall_mem_cons] at fonts
    rcases ih member fonts.2 with held | font
    · exact (mem_add held).imp_right fun same => ⟨name, fonts.1, same⟩
    · exact .inr font

end ResourceTable

namespace ResourceExport

variable {home : Place} {directory destination : Path} {taken : Taken}

theorem reports_exportFrom (directory destination : Path) (taken : Taken)
    (resources : List Resource) (session : Session Memory) :
    session.diagnostics.items <+:
      ((exportFrom directory destination taken resources).run session).2.diagnostics.items := by
  have abreast : Session.Abreast (Memory.Agree session.disk.home (fun _ => True) fun _ => True)
      session.diagnostics session session := ⟨rfl, List.prefix_rfl, .self session.disk⟩
  exact (abreast_exportFrom (fun _ _ _ => trivial)
    (fun _ _ => Memory.admits_of_all (fun _ => trivial) _) taken abreast).2.grown

theorem grows_exportFrom (directory destination : Path) (taken : Taken)
    (resources : List Resource) (session : Session Memory) :
    Grows session.disk ((exportFrom directory destination taken resources).run session).2.disk :=
  (keeps_exportFrom (fun _ _ _ _ _ => Memory.grows_copy _ _ _) taken resources session).1

theorem orderly_exportFrom {session : Session Memory}
    (orderly : Orderly home destination session.disk) (directory : Path) (taken : Taken)
    (resources : List Resource) :
    Orderly home destination ((exportFrom directory destination taken resources).run session).2.disk :=
  (keeps_exportFrom (R := Inherits (Orderly home destination))
    (fun source _ isName _ _ orderly => orderly.copy source isName) taken resources session).1 orderly

/-- A file that is exported without a report lies under its name. -/
theorem isFile_of_exportFile {label name : String} {source : Path} {session later : Session Memory}
    (base : session.disk.home = home) (isName : Path.IsName name)
    (ran : (exportFile label source (destination / name)).exec session = (.ok (), later)) :
    later.disk.tree.isFile (locate home destination ++ [name]) = true ∨
      ¬later.diagnostics.items <+: session.diagnostics.items := by
  rcases Work.copyFound_eq_ok ran with ⟨-, rfl⟩ | ⟨bytes, -, inside, rfl⟩
  · right
    intro shorter
    exact absurd shorter.length_le (by simp [Diagnostics.warn, Diagnostics.push])
  · rw [Memory.place, base, Memory.locate_join_name isName] at inside ⊢
    exact .inl (Tree.isFile_iff.mpr ⟨bytes, Memory.get?_put_self inside bytes⟩)

/-- Exported without fault, each resource with a file has one under a proper name, and unless
something was reported the file lies in the destination. -/
theorem files_exportFrom {session : Session Memory} (base : session.disk.home = home)
    (resources : List Resource)
    (whole : ((exportFrom directory destination taken resources).run session).1.fault? = none) :
    let (done, final) := (exportFrom directory destination taken resources).run session
    ∀ resource ∈ done.resources, resource.file = "" ∨ Path.IsName resource.file ∧
      (final.diagnostics.items <+: session.diagnostics.items →
        final.disk.tree.isFile (locate home destination ++ [resource.file]) = true) := by
  induction resources generalizing taken session with
  | nil => exact fun resource member => by cases member
  | cons resource rest ih =>
    rw [run_exportFrom_cons] at whole ⊢
    by_cases blank : resource.file = ""
    · simp only [blank, if_true] at whole ⊢
      have later := ih base whole
      exact List.forall_mem_cons.mpr ⟨.inl blank, later⟩
    · simp only [blank, if_false] at whole ⊢
      rcases ran : (exportFile resource.name (directory / resource.file)
        (destination / exportedName taken (directory / resource.file))).exec session with
        ⟨outcome, middle⟩
      rw [ran] at whole
      cases outcome with
      | error fault => cases whole
      | ok done =>
        have isName := isName_exportedName taken (directory / resource.file)
        have grown : Grows session.disk middle.disk :=
          (keeps_exportFile (fun _ _ => Memory.grows_copy _ _ _) _).of_exec ran
        have later := ih (grown.base.trans base) whole
        have reports : middle.diagnostics.items <+: _ :=
          reports_exportFrom directory destination (takeName taken (directory / resource.file)
            (exportedName taken (directory / resource.file))) rest middle
        have remain := grows_exportFrom directory destination (takeName taken (directory / resource.file)
          (exportedName taken (directory / resource.file))) rest middle
        have first : session.diagnostics.items <+: middle.diagnostics.items :=
          Work.reports_grow (steady_exportFile trivial
            (Memory.admits_of_all (fun _ => trivial) _) _) ran
        refine List.forall_mem_cons.mpr ⟨.inr ⟨isName, fun quiet => ?_⟩, ?_⟩
        · rcases isFile_of_exportFile base isName ran with there | reported
          · exact remain.files _ there
          · exact absurd (reports.trans quiet) reported
        · intro other member
          exact (later other member).imp_right fun ⟨proper, there⟩ =>
            ⟨proper, fun quiet => there (quiet.trans first)⟩

end ResourceExport

def Project.NamesFiles (project : Project) : Prop :=
  ∀ resource ∈ project.resources.resources, resource.file = "" ∨ Path.IsName resource.file

namespace Exporter

variable {request : ExportRequest} {place : OutputPlace}

/-- Each resource of an exported project that has a file has one under a proper name, and
unless something was reported the file lies in the web root. -/
theorem files_exportedProject {disk : Memory} {exported : Project} {session : Session Memory}
    (ran : (exportedProject request place).start disk = (.ok exported, session)) :
    ∀ resource ∈ exported.resources.resources, resource.file = "" ∨ Path.IsName resource.file ∧
      (session.diagnostics = .empty → session.disk.tree.isFile
        (locate disk.home (request.target.profile.webRootIn place.bundle) ++ [resource.file]) =
          true) := by
  obtain ⟨emptied, done, prepared, copied, whole, rfl⟩ := exportedProject_eq_ok ran
  have orderly := ResourceExport.orderly_exportFrom (orderly_prepare rfl prepared)
    request.project.directory [] request.project.resources.resources
  rw [copied] at orderly
  have files := ResourceExport.files_exportFrom (orderly_prepare rfl prepared).base
    request.project.resources.resources (by rw [copied]; exact whole)
  rw [copied] at files
  have own (resource : Resource) (member : resource ∈ done.resources) :
      resource.file = "" ∨ Path.IsName resource.file ∧ (session.diagnostics = .empty →
        session.disk.tree.isFile (locate disk.home
          (request.target.profile.webRootIn place.bundle) ++ [resource.file]) = true) := by
    refine (files resource member).imp_right fun ⟨isName, there⟩ => ⟨isName, fun quiet => ?_⟩
    apply there
    rw [quiet]
    exact List.nil_prefix
  intro resource member
  change resource ∈ (ResourceTable.addFontsIn ⟨done.resources⟩ _ "" session.disk).resources at member
  unfold ResourceTable.addFontsIn at member
  split at member
  · rename_i names listed
    rcases ResourceTable.mem_addFonts member with held | ⟨name, found, rfl⟩
    · exact own resource held
    · obtain ⟨isName, there⟩ := orderly.of_mem_fileNames listed found
      right
      rw [show (ResourceTable.fontResource "" name).file = name from String.empty_append]
      exact ⟨isName, fun _ => there⟩
  · exact own resource member

theorem namesFiles_exportedProject {disk : Memory} {exported : Project} {session : Session Memory}
    (ran : (exportedProject request place).start disk = (.ok exported, session)) :
    exported.NamesFiles :=
  fun resource member => (files_exportedProject ran resource member).imp_right And.left

end Exporter

end GameBundle
