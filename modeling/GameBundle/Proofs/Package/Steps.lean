import GameBundle.Package.Target
import GameBundle.Proofs.Bundle.Work

/-!
# Steps of packaging

What a package step that succeeds has read, written and reported, on any files.
-/

namespace GameBundle

variable {σ : Type} [Storage σ] {session later : Session σ} {source : PackageSource}

theorem Work.readText_of_template {path : Path} {text : String}
    (ran : (Work.template path).exec session = (.ok text, later)) :
    Storage.readText path session.disk = .ok text ∧ later = session := by
  unfold Work.template at ran
  rw [Work.exec_look_bind] at ran
  split at ran
  · rename_i read
    cases ran
    exact ⟨read, rfl⟩
  · cases ran

theorem PackageSource.write_run {file text : String} {path : Path}
    (ran : (source.write file text).exec session = (.ok path, later)) :
    path = source.directory / file ∧
      Storage.write (source.directory / file) text session.disk = (.ok (), later.disk) ∧
      later.diagnostics = session.diagnostics := by
  unfold PackageSource.write at ran
  obtain ⟨done, middle, wrote, ran⟩ := Work.exec_bind_eq_ok ran
  cases ran
  exact ⟨rfl, Work.exec_change_eq_ok wrote⟩

theorem PackageSource.copy_run {origin path : Path} {file : String}
    (ran : (source.copy origin file).exec session = (.ok path, later)) :
    path = source.directory / file ∧
      Storage.copy origin (source.directory / file) session.disk = (.ok (), later.disk) := by
  unfold PackageSource.copy at ran
  obtain ⟨done, middle, copied, ran⟩ := Work.exec_bind_eq_ok ran
  cases ran
  exact ⟨rfl, (Work.exec_change_eq_ok copied).1⟩

/-- The scripts that are listed are the ones found when the engine has been copied, and each of
the others is reported. -/
theorem Native.package_run {written : List Path}
    (ran : (Native.package source).exec session = (.ok written, later)) :
    ∃ (engine : Path) (copied : Session σ) (template : String),
      (source.copyTemplate "Cocos2d/main.js" "main.js" >>= fun _ =>
        source.copyTemplate "Cocos2d/cocos2d-js-v3.10.js" "cocos2d-js-v3.10.js").exec session =
          (.ok engine, copied) ∧
      let paths := source.scripts.map (Native.scriptPath source)
      let found := fun path => Storage.isFile (source.directory / path) copied.disk
      Storage.readText (source.runtime / "Cocos2d/project.json") copied.disk = .ok template ∧
      Storage.write (source.directory / "project.json")
          (Native.projectFile template (paths.filter found) source.profile.isPreview)
          copied.disk = (.ok (), later.disk) ∧
      later.diagnostics = copied.diagnostics.append
        ⟨(paths.filter fun path => !found path).map Native.missingScript⟩ := by
  unfold Native.package at ran
  obtain ⟨main, first, copied, ran⟩ := Work.exec_bind_eq_ok ran
  obtain ⟨engine, second, again, ran⟩ := Work.exec_bind_eq_ok ran
  rw [Work.exec_look_bind, List.partition_eq_filter_filter] at ran
  obtain ⟨_, reported, report, ran⟩ := Work.exec_bind_eq_ok ran
  obtain ⟨template, _, read, ran⟩ := Work.exec_bind_eq_ok ran
  obtain ⟨file, _, wrote, ran⟩ := Work.exec_bind_eq_ok ran
  cases ran
  cases report
  obtain ⟨text, rfl⟩ := Work.readText_of_template read
  obtain ⟨-, wrote, quiet⟩ := PackageSource.write_run wrote
  exact ⟨engine, second, template, (Work.exec_bind_of_ok copied).trans again, text, wrote, quiet⟩

/-- The settings are filled from their template, which is read before anything is written. -/
theorem Mobile.package_run {written : List Path}
    (ran : (Mobile.package source).exec session = (.ok written, later)) :
    ∃ (template : String) (settled : Session σ),
      Storage.readText (source.runtime / "Cordova/config.xml") session.disk = .ok template ∧
      Storage.write (source.directory / "config.xml")
        (Template.fill template (Mobile.substitutions source)) session.disk =
          (.ok (), settled.disk) ∧
      settled.diagnostics =
        session.diagnostics.append ⟨Mobile.missingIcons source session.disk⟩ ∧
      ∃ manifest, (source.writeManifest "Cordova/package.json").exec settled =
        (.ok manifest, later) ∧ written = [source.directory / "config.xml", manifest] := by
  unfold Mobile.package at ran
  rw [Work.exec_look_bind] at ran
  obtain ⟨_, reported, report, ran⟩ := Work.exec_bind_eq_ok ran
  obtain ⟨template, _, read, ran⟩ := Work.exec_bind_eq_ok ran
  obtain ⟨settings, settled, wrote, ran⟩ := Work.exec_bind_eq_ok ran
  obtain ⟨manifest, _, last, ran⟩ := Work.exec_bind_eq_ok ran
  cases ran
  cases report
  obtain ⟨text, rfl⟩ := Work.readText_of_template read
  obtain ⟨rfl, wrote, quiet⟩ := PackageSource.write_run wrote
  exact ⟨template, settled, text, wrote, quiet, manifest, last, rfl⟩

def Desktop.prepare (source : PackageSource) : Work σ (List Path) := do
  let manifest ← source.writeManifest "Electron/package.json"
  let template ← source.template "Electron/main.js"
  let main ← source.write "main.js" (windowScript template source.project)
  Work.createDirs (source.directory / "buildResources")
  return [manifest, main]

theorem Desktop.package_run {written : List Path}
    (ran : (Desktop.package source).exec session = (.ok written, later)) :
    ∃ (files icon : List Path) (prepared : Session σ),
      (Desktop.prepare source).exec session = (.ok files, prepared) ∧
      (Desktop.copyIcon source).exec prepared = (.ok icon, later) ∧ written = files ++ icon := by
  unfold Desktop.package at ran
  obtain ⟨manifest, first, wrote, ran⟩ := Work.exec_bind_eq_ok ran
  obtain ⟨template, second, read, ran⟩ := Work.exec_bind_eq_ok ran
  obtain ⟨main, third, filled, ran⟩ := Work.exec_bind_eq_ok ran
  obtain ⟨_, prepared, made, ran⟩ := Work.exec_bind_eq_ok ran
  obtain ⟨icon, last, copied, ran⟩ := Work.exec_bind_eq_ok ran
  cases ran
  refine ⟨[manifest, main], icon, prepared, ?_, copied, rfl⟩
  unfold Desktop.prepare
  rw [Work.exec_bind_of_ok wrote, Work.exec_bind_of_ok read, Work.exec_bind_of_ok filled,
    Work.exec_bind_of_ok made]
  rfl

end GameBundle
