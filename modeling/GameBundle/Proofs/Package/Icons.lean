import GameBundle.Proofs.Package.Steps
import GameBundle.Storage.Changes
import GameBundle.Storage.Memory

/-!
# Icons of packages

An icon is looked up in two tables, and an empty text stands for one that is missing in either.
A resource may have an empty name, though. What is looked up is therefore what an entry registers,
and where there is no entry the file of a resource without a name.
-/

namespace GameBundle

namespace Project

variable (project : Project)

def resourceFile? (name : String) : Option String := do
  let resource ← project.resources.find? name
  if resource.file = "" then none else some resource.file

def registeredFile? (platform name : String) : Option String := do
  let entry ← project.platformAssets.find? platform name
  project.resourceFile? entry

/-- The file that serves as an asset. Where nothing is registered it is the one of a resource
without a name. -/
def servedFile? (platform name : String) : Option String :=
  if (project.platformAssets.find? platform name).isSome then
    project.registeredFile? platform name
  else project.resourceFile? ""

theorem fileOf_resources (name : String) :
    project.resources.fileOf name = (project.resourceFile? name).getD "" := by
  unfold ResourceTable.fileOf resourceFile?
  cases project.resources.find? name with
  | none => rfl
  | some resource =>
    show resource.file = (if resource.file = "" then none else some resource.file).getD ""
    split
    · assumption
    · rfl

theorem resourceFile?_ne (name : String) : project.resourceFile? name ≠ some "" := by
  unfold resourceFile?
  cases project.resources.find? name with
  | none => simp
  | some resource => simp [bind]

theorem servedFile?_ne (platform name : String) : project.servedFile? platform name ≠ some "" := by
  unfold servedFile? registeredFile?
  split
  · cases project.platformAssets.find? platform name with
    | none => simp
    | some entry => exact project.resourceFile?_ne entry
  · exact project.resourceFile?_ne ""

/-- The empty text stands for an asset that nothing serves as. -/
theorem assetFile_eq (platform name : String) :
    project.assetFile platform name = (project.servedFile? platform name).getD "" := by
  unfold assetFile PlatformAssets.resourceName servedFile? registeredFile?
  cases project.platformAssets.find? platform name with
  | none => exact project.fileOf_resources ""
  | some entry => exact project.fileOf_resources entry

theorem assetFile_eq_empty_iff (platform name : String) :
    project.assetFile platform name = "" ↔ project.servedFile? platform name = none := by
  rw [assetFile_eq]
  cases served : project.servedFile? platform name with
  | none => simp
  | some file =>
    have inhabited : file ≠ "" := by
      rintro rfl
      exact project.servedFile?_ne platform name served
    simpa using inhabited

/-- What serves as an asset is what is registered for it, unless nothing is entered and a resource
without a name has a file. -/
theorem servedFile?_eq_iff (platform name : String) :
    project.servedFile? platform name = project.registeredFile? platform name ↔
      ((project.platformAssets.find? platform name).isSome = true ∨
        project.resourceFile? "" = none) := by
  unfold servedFile? registeredFile?
  cases project.platformAssets.find? platform name with
  | none => simp
  | some entry => simp

end Project

theorem Mobile.iconPath?_eq (source : PackageSource) (platform size : String) :
    iconPath? source platform size =
      (source.project.servedFile? platform (iconName size)).map fun file =>
        source.profile.webRoot ++ "/" ++ file := by
  have empty := source.project.assetFile_eq_empty_iff platform (iconName size)
  have file := source.project.assetFile_eq platform (iconName size)
  unfold iconPath?
  cases served : source.project.servedFile? platform (iconName size) with
  | none => simp [empty.mpr served]
  | some found =>
    rw [served, Option.getD_some] at file
    have inhabited : found ≠ "" := by
      rintro rfl
      exact source.project.servedFile?_ne platform (iconName size) served
    simp [file, inhabited]

theorem Desktop.exec_copyIcon {σ : Type} [Storage σ] (source : PackageSource)
    (session : Session σ) :
    (copyIcon source).exec session =
      match source.project.servedFile? "desktop" "icon-512" with
      | none => (.ok [], session)
      | some file => Work.exec (do
          if Storage.isFile (source.webRoot / file) session.disk then
            return [← source.copy (source.webRoot / file) "buildResources/icon.png"]
          Work.warn .missingIconFile "desktop icon not found; package built without icon"
            (source.webRoot / file).text
          return []) session := by
  have empty := source.project.assetFile_eq_empty_iff "desktop" "icon-512"
  have file := source.project.assetFile_eq "desktop" "icon-512"
  unfold copyIcon
  cases served : source.project.servedFile? "desktop" "icon-512" with
  | none => simp [empty.mpr served]
  | some found =>
    rw [served, Option.getD_some] at file
    have inhabited : found ≠ "" := by
      rintro rfl
      exact source.project.servedFile?_ne "desktop" "icon-512" served
    dsimp only
    rw [file, if_neg inhabited, Work.isFile, Work.exec_look_bind]

section Copied

variable {σ : Type} [Storage σ] {source : PackageSource} {session later : Session σ}
  {icon : List Path}

theorem Desktop.copyIcon_of_missing
    (missing : source.project.servedFile? "desktop" "icon-512" = none)
    (ran : (copyIcon source).exec session = (.ok icon, later)) : icon = [] ∧ later = session := by
  rw [exec_copyIcon, missing] at ran
  cases ran
  exact ⟨rfl, rfl⟩

theorem Desktop.copyIcon_of_served {file : String}
    (served : source.project.servedFile? "desktop" "icon-512" = some file)
    (ran : (copyIcon source).exec session = (.ok icon, later)) :
    (Storage.isFile (source.webRoot / file) session.disk = true →
      icon = [source.directory / "buildResources/icon.png"] ∧
        Storage.copy (source.webRoot / file) (source.directory / "buildResources/icon.png")
          session.disk = (.ok (), later.disk)) ∧
    (Storage.isFile (source.webRoot / file) session.disk = false →
      icon = [] ∧ later.disk = session.disk) := by
  rw [exec_copyIcon, served] at ran
  constructor
  · intro found
    simp only [found, if_true] at ran
    obtain ⟨path, _, copy, copied⟩ := Work.exec_bind_eq_ok ran
    cases copied
    obtain ⟨rfl, moved⟩ := PackageSource.copy_run copy
    exact ⟨rfl, moved⟩
  · intro missing
    simp only [missing] at ran
    cases ran
    exact ⟨rfl, rfl⟩

end Copied

/-- Packages take their icons from what serves as assets: the settings of a mobile package list
the paths below the web root, and a desktop package has a copy of the file there. This is what the
project registers, unless nothing is entered and a resource without a name has a file. -/
theorem PackageSource.icons_served {σ : Type} [Storage σ] (source : PackageSource)
    (session : Session σ) :
    (∀ platform name,
      source.project.servedFile? platform name = source.project.registeredFile? platform name ↔
        ((source.project.platformAssets.find? platform name).isSome = true ∨
          source.project.resourceFile? "" = none)) ∧
    Mobile.androidElements source =
      String.join (Mobile.androidIcons.filterMap fun (size, density) =>
        (source.project.servedFile? "android" (Mobile.iconName size)).map fun file =>
          Mobile.androidElement (source.profile.webRoot ++ "/" ++ file) density) ∧
    Mobile.iosElements source =
      String.join (Mobile.iosIcons.filterMap fun size =>
        (source.project.servedFile? "ios" (Mobile.iconName size)).map fun file =>
          Mobile.iosElement (source.profile.webRoot ++ "/" ++ file) size) ∧
    (∀ written later, (Mobile.package source).exec session = (.ok written, later) →
      ∃ (template : String) (settled : Session σ),
        Storage.readText (source.runtime / "Cordova/config.xml") session.disk = .ok template ∧
        Storage.write (source.directory / "config.xml")
          (Template.fill template (Mobile.substitutions source)) session.disk =
            (.ok (), settled.disk)) ∧
    ∀ written later, (Desktop.package source).exec session = (.ok written, later) →
      ∃ (files : List Path) (prepared : Session σ),
        (Desktop.prepare source).exec session = (.ok files, prepared) ∧
        match source.project.servedFile? "desktop" "icon-512" with
        | none => written = files ∧ later = prepared
        | some file =>
          if Storage.isFile (source.webRoot / file) prepared.disk then
            written = files ++ [source.directory / "buildResources/icon.png"] ∧
            Storage.copy (source.webRoot / file) (source.directory / "buildResources/icon.png")
              prepared.disk = (.ok (), later.disk)
          else written = files ∧ later.disk = prepared.disk := by
  refine ⟨source.project.servedFile?_eq_iff, ?_, ?_, fun written later ran => ?_,
    fun written later ran => ?_⟩
  · simp [Mobile.androidElements, Mobile.iconPath?_eq, Function.comp_def]
  · simp [Mobile.iosElements, Mobile.iconPath?_eq, Function.comp_def]
  · obtain ⟨template, settled, read, wrote, -⟩ := Mobile.package_run ran
    exact ⟨template, settled, read, wrote⟩
  · obtain ⟨files, icon, prepared, first, copied, rfl⟩ := Desktop.package_run ran
    refine ⟨files, prepared, first, ?_⟩
    split
    · rename_i missing
      obtain ⟨rfl, rfl⟩ := Desktop.copyIcon_of_missing missing copied
      exact ⟨List.append_nil files, rfl⟩
    · rename_i file served
      have run := Desktop.copyIcon_of_served served copied
      split
      · rename_i found
        obtain ⟨rfl, moved⟩ := run.1 found
        exact ⟨rfl, moved⟩
      · rename_i missing
        obtain ⟨rfl, kept⟩ := run.2 (Bool.eq_false_iff.mpr missing)
        exact ⟨List.append_nil files, kept⟩

/-- A project without entries for assets, but with a resource that has no name. -/
def namelessSource (target : Target) : PackageSource where
  project := { Project.blank "Nameless" with resources := ⟨[⟨"", .image, "hero.png"⟩]⟩ }
  profile := target.profile
  runtime := ⟨"/rt"⟩
  directory := ⟨"/out"⟩
  scripts := []

def namelessStart : Session Memory where
  disk := {
    tree := Tree.ofEntries [
      (["rt", "Cordova", "config.xml"], .file "<widget/>".toUTF8),
      (["rt", "Cordova", "package.json"], .file "\x7b\x7d".toUTF8),
      (["rt", "Electron", "main.js"], .file "open();".toUTF8),
      (["rt", "Electron", "package.json"], .file "\x7b\x7d".toUTF8),
      (["out", "app", "hero.png"], .file "hero".toUTF8)]
    home := []
    denied := [] }
  diagnostics := .empty

/-- The nameless resource is on no list of the project, and yet its file is the icon. -/
theorem nameless_icon_served :
    (namelessSource .electron).project.registeredFile? "desktop" "icon-512" = none ∧
    (∃ written later prepared,
      (Desktop.package (namelessSource .electron)).exec namelessStart = (.ok written, later) ∧
      Storage.copy (⟨"/out/app/hero.png"⟩ : Path) ⟨"/out/buildResources/icon.png"⟩ prepared =
        (.ok (), later.disk)) ∧
    ∃ written later template settled,
      (Mobile.package (namelessSource .cordova)).exec namelessStart = (.ok written, later) ∧
      Storage.write (⟨"/out/config.xml"⟩ : Path)
        (Template.fill template (Mobile.substitutions (namelessSource .cordova)))
        namelessStart.disk = (.ok (), settled) ∧
      Mobile.androidElements (namelessSource .cordova) =
        String.join (Mobile.androidIcons.map fun icon =>
          Mobile.androidElement "www/hero.png" icon.2) := by
  have desktop : ((Desktop.package (namelessSource .electron)).exec namelessStart).1.map
      (fun _ => ()) = .ok () := by decide +kernel
  have mobile : ((Mobile.package (namelessSource .cordova)).exec namelessStart).1.map
      (fun _ => ()) = .ok () := by decide +kernel
  obtain ⟨written, later, ran, -⟩ := Work.exec_eq_ok_of_map desktop
  obtain ⟨others, final, went, -⟩ := Work.exec_eq_ok_of_map mobile
  obtain ⟨-, -, -, -, icon⟩ :=
    PackageSource.icons_served (namelessSource .electron) namelessStart
  obtain ⟨-, android, -, settings, -⟩ :=
    PackageSource.icons_served (namelessSource .cordova) namelessStart
  obtain ⟨template, settled, -, wrote⟩ := settings _ _ went
  obtain ⟨files, prepared, first, icon⟩ := icon _ _ ran
  have served : (namelessSource .electron).project.servedFile? "desktop" "icon-512" =
      some "hero.png" := by decide +kernel
  have same : prepared = ((Desktop.prepare (namelessSource .electron)).exec namelessStart).2 := by
    rw [first]
  have found : Storage.isFile ((namelessSource .electron).webRoot / "hero.png") prepared.disk =
      true := by
    rw [same]
    decide +kernel
  rw [served] at icon
  dsimp only at icon
  rw [if_pos found] at icon
  refine ⟨by decide +kernel, ⟨written, later, prepared.disk, ran, ?_⟩, others, final, template,
    settled.disk, went, ?_, ?_⟩
  · exact icon.2
  · exact wrote
  · exact android.trans (by decide +kernel)

end GameBundle
