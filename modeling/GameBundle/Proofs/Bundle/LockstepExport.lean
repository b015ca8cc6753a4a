import GameBundle.Proofs.Bundle.Containment
import GameBundle.Proofs.Bundle.LockstepStages
import GameBundle.Proofs.Storage.Listing

/-!
# Exports in lockstep

Emptying the output directories makes two states of the files agree on all that lies in
these directories and above them, whatever was there before. The rest of an export then
runs in lockstep as long as the states also agree on the files that it looks at.
-/

namespace GameBundle

open Memory (locate Way Admits Agree Bare Orderly)
open Session (Abreast)
open Work (Steady Lockstep)

variable {home : Place} {shared above : Place → Prop}

namespace Work

/-- Emptying a directory makes the states agree above it and inside. -/
theorem lockstep_emptyDir {path : Path} (way : Way shared above (locate home path)) :
    Lockstep (Agree home shared above)
      (fun _ => Agree home (fun spot => shared spot ∨ spot <+: locate home path ∨
        locate home path <+: spot) above)
      (Agree home shared above) (emptyDir path) := by
  refine .bind (.change fun x y agree => agree.createDirs way) fun _ => .change fun x y agree => ?_
  have cleared := agree.clearDir (.inr List.prefix_rfl)
  refine cleared.mono (fun _ x y held => held.mono ?_ fun _ => .inr)
    fun x y held => held.mono (fun _ => .inl) fun _ => .inr
  rintro spot (inside | before | below)
  · exact .inl (.inl inside)
  · exact .inl (.inr before)
  · exact .inr below

/-- A directory that has been emptied is bare. -/
theorem bare_of_emptyDir {path : Path} {session later : Session Memory}
    (ran : (emptyDir path).exec session = (.ok (), later)) :
    Bare (session.disk.place path) later.disk := by
  obtain ⟨_, middle, made, cleared⟩ := exec_bind_eq_ok ran
  have home : middle.disk.home = session.disk.home := by
    have kept := (Memory.grows_createDirs path session.disk).base
    rwa [show session.disk.createDirs path = _ from (exec_change_eq_ok made).1] at kept
  rw [← Memory.place_eq_of_home home]
  exact Memory.bare_of_clearDir (exec_change_eq_ok cleared).1

end Work

namespace OutputPlace

def Touches (place : OutputPlace) (home spot : Place) : Prop :=
  place.Holds home spot ∨ place.IsUnder home spot

variable {place : OutputPlace} {spot : Place}

/-- All places on the way to something in the output directories are touched. -/
theorem Holds.touches {other : Place} (holds : place.Holds home spot) (before : other <+: spot) :
    place.Touches home other :=
  holds.way other before

end OutputPlace

namespace Exporter

variable {exporter : Exporter} {request : ExportRequest} {place : OutputPlace}

theorem lockstep_prepare {webRoot : Path} (bundle : Way shared above (locate home place.bundle))
    (code : Way shared above (locate home place.code))
    (inside : locate home place.bundle <+: locate home webRoot) :
    Lockstep (Agree home shared above)
      (fun _ => Agree home (fun spot => shared spot ∨ place.Touches home spot) above)
      (Agree home shared above) (prepare place webRoot) := by
  have code : Lockstep
      (Agree home (fun spot => shared spot ∨ spot <+: locate home place.bundle ∨
        locate home place.bundle <+: spot) above)
      (fun _ => Agree home (fun spot => shared spot ∨ place.Touches home spot) above)
      (Agree home shared above) (Work.emptyDir place.code) := by
    refine (Work.lockstep_emptyDir fun other before => (code other before).imp_left .inl).mono
      (fun _ _ => id) (fun _ x y held => held.mono ?_ fun _ => .inr)
      fun x y held => held.mono (fun _ => .inl) fun _ => .inr
    rintro spot (held | (holds | holds) | (under | under))
    · exact .inl (.inl held)
    · exact .inl (.inr (.inr holds))
    · exact .inr (.inr holds)
    · exact .inl (.inr (.inl under))
    · exact .inr (.inl under)
  have holds : place.Holds home (locate home webRoot) := .inl inside
  have made : Steady (Agree home (fun spot => shared spot ∨ place.Touches home spot) above)
      (Work.createDirs webRoot) :=
    Work.steady_createDirs fun other before => .inl (.inr (holds.touches before))
  exact .bind (Work.lockstep_emptyDir bundle) fun _ => .bind code fun _ =>
    made.mono (fun _ _ => id) (fun _ _ _ => id) fun x y held => held.mono (fun _ => .inl) fun _ => .inr

theorem bare_of_prepare {webRoot : Path} {session emptied : Session Memory}
    (ran : (prepare place webRoot).exec session = (.ok (), emptied)) :
    Bare (session.disk.place place.bundle) emptied.disk := by
  obtain ⟨_, first, cleared, later⟩ := Work.exec_bind_eq_ok ran
  have rest : Work.Keeps (Inherits (Bare (session.disk.place place.bundle))) (do
      Work.emptyDir place.code
      Work.createDirs webRoot : Work Memory Unit) :=
    .bind (Work.keeps_emptyDir (fun _ bare => bare.createDirs _) fun _ bare => bare.clearDir _)
      fun _ => Work.keeps_createDirs fun _ bare => bare.createDirs _
  exact rest.of_exec later (Work.bare_of_emptyDir cleared)

theorem orderly_withExportedResources (project : Project) (webRoot : Path) :
    Work.Keeps (Inherits (Orderly home webRoot)) (project.withExportedResources webRoot) :=
  keeps_withExportedResources (fun source _ isName _ _ orderly => orderly.copy source isName) project

theorem lockstep_projectWithResources {project : Project} {webRoot : Path}
    (resources : ∀ resource ∈ project.resources.resources, resource.file ≠ "" →
      shared (locate home (project.directory / resource.file)))
    (inside : ∀ spot, locate home webRoot <+: spot → shared spot)
    (way : Way shared above (locate home webRoot)) :
    Lockstep (fun x y => Agree home shared above x y ∧ Orderly home webRoot x ∧
        Orderly home webRoot y)
      (fun _ => Agree home shared above) (Agree home shared above)
      (projectWithResources project webRoot) := by
  have admits (name : String) (isName : Path.IsName name) :
      Admits shared above (locate home (webRoot / name)) := by
    rw [Memory.locate_join_name isName]
    refine ⟨inside _ (List.prefix_append _ _), ?_⟩
    rwa [List.dropLast_concat]
  have exports : Steady (Agree home shared above) (project.withExportedResources webRoot) := by
    refine .bind (.lift fun start one other abreast =>
      ResourceExport.abreast_exportFrom resources admits [] abreast) fun done => ?_
    split
    · exact .throw _
    · exact .pure _
  have exported : Lockstep (fun x y => Agree home shared above x y ∧ Orderly home webRoot x ∧
        Orderly home webRoot y)
      (fun _ x y => Agree home shared above x y ∧ Orderly home webRoot x ∧ Orderly home webRoot y)
      (Agree home shared above) (project.withExportedResources webRoot) :=
    .reaching (exports.narrow fun x y known => known.1) (fun x y known => known.2)
      fun session _ later orderly ran =>
        (orderly_withExportedResources project webRoot).of_exec ran orderly
  refine .bind exported fun project => ?_
  refine .look (fun x y known => ?_) fun _ => .narrow (.pure _) fun _ _ known => known.1.1
  obtain ⟨agree, here, there⟩ := known
  have listed : Storage.fileNames webRoot x = Storage.fileNames webRoot y := by
    have names := here.tidy.fileNames_eq there.tidy fun name =>
      Tree.isFile_congr (agree.tree.same _ (inside _ (List.prefix_append _ _)))
    change x.fileNames webRoot = y.fileNames webRoot
    simp only [Memory.fileNames, agree.place_eq, agree.isDenied_eq, names,
      Tree.isDirectory_congr (agree.tree.same _ (inside _ List.prefix_rfl))]
  unfold ResourceTable.addFontsIn
  rw [listed]

abbrev Refreshed (place : OutputPlace) (home : Place) (shared : Place → Prop) (spot : Place) : Prop :=
  shared spot ∨ place.Touches home spot

theorem orderly_prepare {session emptied : Session Memory} (base : session.disk.home = home)
    (ran : (prepare place (request.target.profile.webRootIn place.bundle)).exec session =
      (.ok (), emptied)) :
    Orderly home (request.target.profile.webRootIn place.bundle) emptied.disk := by
  have kept : Work.Keeps (Memory.Within home (fun _ => True) (fun _ => True))
      (prepare place (request.target.profile.webRootIn place.bundle)) :=
    keeps_prepare (fun _ _ => Memory.within_createDirs fun _ _ => .inl trivial)
      (fun _ _ => Memory.within_clearDir fun _ _ => trivial)
  refine ⟨(kept.of_exec ran base).home.trans base, (bare_of_prepare ran).tidy ?_⟩
  rw [Memory.place, base]
  exact TargetProfile.prefix_webRootIn request.target home place.bundle

theorem lockstep_emptied (request : ExportRequest) (bundle : Way shared above (locate home place.bundle))
    (code : Way shared above (locate home place.code)) :
    Lockstep (Agree home shared above)
      (fun _ x y => Agree home (Refreshed place home shared) above x y ∧
        Orderly home (request.target.profile.webRootIn place.bundle) x ∧
        Orderly home (request.target.profile.webRootIn place.bundle) y)
      (Agree home shared above)
      (prepare place (request.target.profile.webRootIn place.bundle)) :=
  .reaching (lockstep_prepare bundle code
      (TargetProfile.prefix_webRootIn request.target home place.bundle))
    (fun _ _ agree => ⟨agree.base, agree.otherBase⟩) fun _ _ _ => orderly_prepare

theorem lockstep_resources
    (resources : ∀ resource ∈ request.project.resources.resources, resource.file ≠ "" →
      Refreshed place home shared (locate home (request.project.directory / resource.file))) :
    Lockstep (fun x y => Agree home (Refreshed place home shared) above x y ∧
        Orderly home (request.target.profile.webRootIn place.bundle) x ∧
        Orderly home (request.target.profile.webRootIn place.bundle) y)
      (fun _ => Agree home (Refreshed place home shared) above)
      (Agree home (Refreshed place home shared) above)
      (projectWithResources (splashed request.target.profile request.project)
        (request.target.profile.webRootIn place.bundle)) := by
  have holds (spot : Place)
      (inside : locate home (request.target.profile.webRootIn place.bundle) <+: spot) :
      place.Holds home spot :=
    .inl ((TargetProfile.prefix_webRootIn request.target home place.bundle).trans inside)
  apply lockstep_projectWithResources
  · rw [splashed_resources, splashed_directory]
    exact resources
  · exact fun spot inside => .inr (.inl (holds spot inside))
  · exact fun other before => .inl (.inr ((holds _ List.prefix_rfl).touches before))

theorem lockstep_exportedProject (request : ExportRequest)
    (bundle : Way shared above (locate home place.bundle))
    (code : Way shared above (locate home place.code))
    (resources : ∀ resource ∈ request.project.resources.resources, resource.file ≠ "" →
      Refreshed place home shared (locate home (request.project.directory / resource.file))) :
    Lockstep (Agree home shared above) (fun _ => Agree home (Refreshed place home shared) above)
      (Agree home shared above) (exportedProject request place) :=
  .bind (lockstep_emptied request bundle code) fun _ => (lockstep_resources resources).mono
    (fun _ _ => id) (fun _ _ _ => id) fun _ _ held => held.mono (fun _ => .inl) fun _ => .inr

/-- Exports whose bundles are made alike end with the same outcome. -/
theorem alike_exportWith {done failed : Memory → Memory → Prop} {one other : Memory}
    {codeDirectory : Path} (same : other.home = one.home)
    (alike : Alike (fun _ => Abreast done .empty) (Abreast failed .empty)
      ((exporter.build request (outputPlace request codeDirectory one)).start one)
      ((exporter.build request (outputPlace request codeDirectory one)).start other)) :
    let first := exporter.exportWith request codeDirectory one
    let second := exporter.exportWith request codeDirectory other
    first.1 = second.1 ∧ (done first.2 second.2 ∨ failed first.2 second.2) := by
  dsimp only
  unfold exportWith
  rw [outputPlace_of_home same]
  generalize (exporter.build request (outputPlace request codeDirectory one)).start one = here at alike
  generalize (exporter.build request (outputPlace request codeDirectory one)).start other = there
    at alike
  cases alike with
  | ok report held => exact ⟨rfl, .inl held.files⟩
  | error fault held => exact ⟨rfl, .inr held.files⟩

end Exporter

end GameBundle
