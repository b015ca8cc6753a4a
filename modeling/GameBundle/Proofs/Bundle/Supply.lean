import GameBundle.Proofs.Bundle.LockstepExport

/-!
# Making the scripts of a bundle

Assembling a bundle first makes its scripts and then the entry point and the package.
Neither takes back a report, and files stay files. When nothing has been reported in the
end, every script was found and lies in the bundle.
-/

namespace GameBundle

open Memory (locate Admits Agree Grows Within)
open Work (Steady Keeps)

namespace Session

/-- Nothing that was reported is taken back, and what was a file still is one. -/
structure Ahead (before after : Session Memory) : Prop where
  reports : before.diagnostics.items <+: after.diagnostics.items
  files : Grows before.disk after.disk

instance : IsPreorder (Session Memory) Ahead where
  refl session := ⟨List.prefix_rfl, refl_of Grows session.disk⟩
  trans _ _ _ first second :=
    ⟨first.reports.trans second.reports, trans_of Grows first.files second.files⟩

variable {before after : Session Memory}

theorem Ahead.quiet (ahead : Ahead before after) (quiet : after.diagnostics = .empty) :
    before.diagnostics = .empty := by
  have none := ahead.reports
  rw [quiet] at none
  exact congrArg Diagnostics.mk (List.prefix_nil.mp none)

theorem Ahead.isFile (ahead : Ahead before after) {path : Path}
    (held : before.disk.isFile path = true) : after.disk.isFile path = true := by
  rw [Memory.isFile, Memory.place_eq_of_home ahead.files.base]
  exact ahead.files.files _ held

end Session

open Session (Ahead)

namespace Work

variable {α : Type} {session later : Session Memory}

/-- What a step that keeps files and runs in lockstep leaves is ahead of what was before. -/
theorem ahead {work : Work Memory α} {outcome : Except ExportFault α} (keeps : Keeps Grows work)
    (steady : Steady (Agree session.disk.home (fun _ => True) fun _ => True) work)
    (ran : work.exec session = (outcome, later)) : Ahead session later :=
  ⟨reports_grow steady ran, keeps.of_exec ran⟩

theorem everywhere (place : Place) : Admits (fun _ => True) (fun _ => True) place :=
  Memory.admits_of_all (fun _ => trivial) place

/-- A text that was written stands under its path. -/
theorem get?_of_write {path : Path} {text : String}
    (ran : (write path text).exec session = (.ok (), later)) :
    later.disk.tree.get? (session.disk.place path) = some (.file text.toUTF8) := by
  obtain ⟨inside, written⟩ := Memory.write_eq_ok (exec_change_eq_ok ran).1
  rw [written]
  exact Memory.get?_put_self inside _

theorem ahead_write {path : Path} {text : String} {outcome : Except ExportFault Unit}
    (ran : (write path text).exec session = (outcome, later)) : Ahead session later :=
  ahead (keeps_write (Memory.grows_write _ _)) (steady_write (everywhere _) _) ran

theorem isFile_of_write {path : Path} {text : String}
    (ran : (write path text).exec session = (.ok (), later)) : later.disk.isFile path = true := by
  rw [Memory.isFile, Memory.place_eq_of_home (ahead_write ran).files.base]
  exact Tree.isFile_iff.mpr ⟨_, get?_of_write ran⟩

theorem isFile_of_copy {source target : Path} (found : session.disk.isFile source = true)
    (ran : (copy source target).exec session = (.ok (), later)) :
    later.disk.isFile target = true := by
  have grown : Grows session.disk later.disk := by
    have kept := Memory.grows_copy source target session.disk
    rwa [show session.disk.copy source target = _ from (exec_change_eq_ok ran).1] at kept
  obtain ⟨bytes, read⟩ := Tree.isFile_iff.mp found
  obtain ⟨inside, copied⟩ := Memory.copy_eq_ok (exec_change_eq_ok ran).1 read
  rw [Memory.isFile, Memory.place_eq_of_home grown.base, copied]
  exact Tree.isFile_iff.mpr ⟨bytes, Memory.get?_put_self inside bytes⟩

end Work

namespace Exporter

variable {exporter : Exporter} {request : ExportRequest} {place : OutputPlace} {project : Project}
  {session later : Session Memory}

theorem ahead_materialize {runtime includesDir : Path} {scripts : List String}
    {outcome : Except ExportFault Unit}
    (ran : (scripts.forM (materialize runtime includesDir)).exec session = (outcome, later)) :
    Ahead session later :=
  Work.ahead (.forM fun script _ => grows_materialize runtime includesDir script)
    (.forM fun _ _ => steady_materialize trivial fun _ => Work.everywhere _) ran

/-- A script that is copied without a report lies in the bundle. -/
theorem isFile_of_quiet_materialize {runtime includesDir : Path} {script : String}
    (ran : (materialize runtime includesDir script).exec session = (.ok (), later))
    (quiet : later.diagnostics = .empty) :
    later.disk.isFile (includesDir / LoadOrder.bundleName script) = true := by
  rcases materialize_eq_ok ran with ⟨-, -, reported⟩ | ⟨bytes, -, inside, copied, -⟩
  · exact absurd quiet reported
  · rw [copied]
    exact Tree.isFile_iff.mpr ⟨bytes, Memory.get?_put_self inside bytes⟩

/-- Scripts that are copied without a report lie in the bundle. -/
theorem isFile_of_quiet_forM {runtime includesDir : Path} {scripts : List String}
    (ran : (scripts.forM (materialize runtime includesDir)).exec session = (.ok (), later))
    (quiet : later.diagnostics = .empty) :
    ∀ script ∈ scripts, later.disk.isFile (includesDir / LoadOrder.bundleName script) = true := by
  induction scripts generalizing session with
  | nil => exact fun script member => by cases member
  | cons first rest ih =>
    rw [Work.forM_cons] at ran
    obtain ⟨_, middle, copied, ran⟩ := Work.exec_bind_eq_ok ran
    have ahead := ahead_materialize ran
    exact List.forall_mem_cons.mpr
      ⟨ahead.isFile (isFile_of_quiet_materialize copied (ahead.quiet quiet)), ih ran⟩

/-- Scripts that are all found are copied without a report. -/
theorem quiet_of_found {runtime includesDir : Path} {scripts : List String}
    (ran : (scripts.forM (materialize runtime includesDir)).exec session = (.ok (), later))
    (found : ∀ script ∈ scripts, session.disk.isFile (LoadOrder.source runtime script) = true) :
    later.diagnostics = session.diagnostics := by
  induction scripts generalizing session with
  | nil =>
    cases ran
    rfl
  | cons first rest ih =>
    rw [List.forall_mem_cons] at found
    rw [Work.forM_cons] at ran
    obtain ⟨_, middle, copied, ran⟩ := Work.exec_bind_eq_ok ran
    have ahead : Ahead session middle := Work.ahead (grows_materialize runtime includesDir first)
      (steady_materialize trivial fun _ => Work.everywhere _) copied
    have reports : middle.diagnostics = session.diagnostics := by
      rcases materialize_eq_ok copied with ⟨missing, -⟩ | ⟨_, -, -, -, reports⟩
      · rw [found.1] at missing
        cases missing
      · exact reports
    exact (ih ran fun script member => ahead.isFile (found.2 script member)).trans reports

theorem materialize_of_missing {runtime includesDir : Path} {script : String}
    (missing : session.disk.isFile (LoadOrder.source runtime script) = false) :
    (materialize runtime includesDir script).exec session =
      (.ok (), ⟨session.disk, session.diagnostics.warn .missingIncludeFile
        ("could not find include file " ++ Json.quoteName script)
        (LoadOrder.source runtime script).text⟩) := by
  unfold materialize
  dsimp only
  rw [Work.isFile, Work.exec_look_bind, show Storage.isFile (LoadOrder.source runtime script)
    session.disk = false from missing, if_neg Bool.false_ne_true, Work.exec_warn]

/-- A first script that is not found is the first to be reported. -/
theorem reports_of_missing {runtime includesDir : Path} {first : String} {rest : List String}
    (ran : ((first :: rest).forM (materialize runtime includesDir)).exec session = (.ok (), later))
    (missing : session.disk.isFile (LoadOrder.source runtime first) = false) :
    session.diagnostics.items ++ [.warning .missingIncludeFile
        ("could not find include file " ++ Json.quoteName first)
        (some (LoadOrder.source runtime first).text)] <+: later.diagnostics.items := by
  rw [Work.forM_cons, Work.exec_bind_of_ok (materialize_of_missing missing)] at ran
  exact (ahead_materialize ran).reports

theorem ahead_generated {scripts : List GeneratedScript} {outcome : Except ExportFault Unit}
    (ran : (scripts.forM writeGenerated).exec session = (outcome, later)) : Ahead session later :=
  Work.ahead (.forM fun _ _ => keeps_writeGenerated (Memory.grows_write _ _))
    (.forM fun _ _ => steady_writeGenerated (Work.everywhere _)) ran

theorem isFile_of_generated {scripts : List GeneratedScript}
    (ran : (scripts.forM writeGenerated).exec session = (.ok (), later)) :
    ∀ script ∈ scripts, later.disk.isFile script.path = true := by
  induction scripts generalizing session with
  | nil => exact fun script member => by cases member
  | cons first rest ih =>
    rw [Work.forM_cons] at ran
    obtain ⟨_, middle, generated, ran⟩ := Work.exec_bind_eq_ok ran
    obtain ⟨_, written, stored, reported⟩ := Work.exec_bind_eq_ok generated
    have same : middle.disk = written.disk := by
      rw [Work.exec_report, Prod.mk.injEq] at reported
      rw [← reported.2]
    have lies : middle.disk.isFile first.path = true := by
      rw [same]
      exact Work.isFile_of_write stored
    exact List.forall_mem_cons.mpr ⟨(ahead_generated ran).isFile lies, ih ran⟩

theorem mem_allScripts_data (exporter : Exporter) (request : ExportRequest) (place : OutputPlace)
    (project : Project) :
    (place.code / "data.js").text ∈ (exporter.allScripts request place project).paths := by
  unfold allScripts
  rw [IncludeList.paths_insert (wellFormed_scriptsOf _ _)]
  split
  · assumption
  · exact List.mem_append_right _ List.mem_cons_self

/-- No other script of the bundle is copied to where the data is written and copied to. -/
def SparesData (exporter : Exporter) (request : ExportRequest) (place : OutputPlace)
    (project : Project) (home : Place) : Prop :=
  let data := place.code / "data.js"
  ∀ script ∈ (exporter.allScripts request place project).paths, script ≠ data.text →
    locate home (exporter.scriptCopy request place script).2 ≠ locate home data ∧
      locate home (exporter.scriptCopy request place script).2 ≠
        locate home (exporter.scriptCopy request place data.text).2

section

variable {home spot shipped : Place} {runtime includesDir : Path} {data : String}
  {bytes : ByteArray}

/-- A script that is copied leaves the data alone, or is the data and puts it into the bundle. -/
theorem data_of_materialize {script : String}
    (ran : (materialize runtime includesDir script).exec session = (.ok (), later))
    (base : session.disk.home = home) (source : locate home (LoadOrder.source runtime data) = spot)
    (target : locate home (includesDir / LoadOrder.bundleName data) = shipped)
    (apart : script ≠ data → locate home (includesDir / LoadOrder.bundleName script) ≠ spot ∧
      locate home (includesDir / LoadOrder.bundleName script) ≠ shipped)
    (written : session.disk.tree.get? spot = some (.file bytes)) :
    later.disk.tree.get? spot = some (.file bytes) ∧
      (data = script ∨ session.disk.tree.get? shipped = some (.file bytes) →
        later.disk.tree.get? shipped = some (.file bytes)) := by
  have step := materialize_eq_ok ran
  simp only [Memory.isFile, Memory.place, base] at step
  by_cases same : script = data
  · subst same
    rw [source, target] at step
    rcases step with ⟨missing, -⟩ | ⟨contents, read, inside, put, -⟩
    · rw [Tree.isFile_iff.mpr ⟨bytes, written⟩] at missing
      cases missing
    · obtain rfl : bytes = contents := by
        rw [written] at read
        exact Node.file.inj (Option.some.inj read)
      rw [put]
      refine ⟨?_, fun _ => Memory.get?_put_self inside bytes⟩
      by_cases there : spot = shipped
      · rw [there]
        exact Memory.get?_put_self inside bytes
      · exact Memory.file_put_of_ne written there bytes
  · obtain ⟨fromSpot, fromShipped⟩ := apart same
    rcases step with ⟨-, unchanged, -⟩ | ⟨contents, -, -, put, -⟩
    · rw [unchanged]
      exact ⟨written, fun held => held.resolve_left (Ne.symm same)⟩
    · rw [put]
      exact ⟨Memory.file_put_of_ne written fromSpot.symm contents, fun held =>
        Memory.file_put_of_ne (held.resolve_left (Ne.symm same)) fromShipped.symm contents⟩

/-- The data stays as it was written, and is copied into the bundle, when other scripts are
copied elsewhere. -/
theorem data_of_forM {scripts : List String}
    (ran : (scripts.forM (materialize runtime includesDir)).exec session = (.ok (), later))
    (base : session.disk.home = home) (source : locate home (LoadOrder.source runtime data) = spot)
    (target : locate home (includesDir / LoadOrder.bundleName data) = shipped)
    (apart : ∀ script ∈ scripts, script ≠ data →
      locate home (includesDir / LoadOrder.bundleName script) ≠ spot ∧
        locate home (includesDir / LoadOrder.bundleName script) ≠ shipped)
    (written : session.disk.tree.get? spot = some (.file bytes)) :
    later.disk.tree.get? spot = some (.file bytes) ∧
      (data ∈ scripts ∨ session.disk.tree.get? shipped = some (.file bytes) →
        later.disk.tree.get? shipped = some (.file bytes)) := by
  induction scripts generalizing session with
  | nil =>
    cases ran
    exact ⟨written, fun held => held.resolve_left List.not_mem_nil⟩
  | cons first rest ih =>
    rw [Work.forM_cons] at ran
    rw [List.forall_mem_cons] at apart
    obtain ⟨_, middle, copied, ran⟩ := Work.exec_bind_eq_ok ran
    have home := ((grows_materialize runtime includesDir first).of_exec copied).base.trans base
    obtain ⟨kept, put⟩ := data_of_materialize copied base source target apart.1 written
    obtain ⟨still, ships⟩ := ih ran home apart.2 kept
    refine ⟨still, fun held => ships ?_⟩
    rw [List.mem_cons, or_assoc, or_left_comm] at held
    exact held.imp_right put

end

/-- What is known once the scripts of a bundle are made. -/
structure Supplied (exporter : Exporter) (request : ExportRequest) (place : OutputPlace)
    (project : Project) (session supplied : Session Memory) : Prop where
  ahead : Ahead session supplied
  generated : ∀ script ∈ GeneratedScript.ofProject exporter.events project place.code
    (!request.target.profile.isPreview), supplied.disk.isFile script.path = true
  data : supplied.disk.isFile (place.code / "data.js") = true
  scripts : supplied.diagnostics = .empty →
    ∀ script ∈ (exporter.allScripts request place project).paths,
      supplied.disk.isFile (exporter.scriptCopy request place script).2 = true
  document : place.code.isAbsolute = true →
    exporter.SparesData request place project session.disk.home →
      ∀ path ∈ [place.code / "data.js", request.target.profile.includesDirIn place.bundle / "data.js"],
        supplied.disk.tree.get? (locate session.disk.home path) =
          some (.file (dataScript (shipped project request.layout)
            (GameOptions.ofIncludes request.target.profile.isPreview request.externalLayout
              (exporter.scriptsOf request place project).paths request.hashes)).toUTF8)

theorem supplied_of_exec
    (ran : (exporter.supply request place project).exec session = (.ok (), later)) :
    exporter.Supplied request place project session later := by
  obtain ⟨generated, external, stored, first, second, third, last⟩ := supply_eq_ok ran
  have begun : Ahead session generated := ahead_generated first
  have joined : Ahead generated external :=
    Work.ahead (.forM fun _ _ => keeps_copyExternal (Memory.grows_copy _ _))
      (.forM fun _ _ => steady_copyExternal trivial (Work.everywhere _)) second
  have written : Ahead external stored := Work.ahead_write third
  have copied : Ahead stored later := ahead_materialize last
  have rest : Ahead generated later := trans_of Ahead joined (trans_of Ahead written copied)
  refine ⟨trans_of Ahead begun rest, fun script member => rest.isFile (isFile_of_generated first
    script member), copied.isFile (Work.isFile_of_write third), isFile_of_quiet_forM last, ?_⟩
  intro absolute spares
  have base : stored.disk.home = session.disk.home :=
    written.files.base.trans (joined.files.base.trans begun.files.base)
  have isName : Path.IsName "data.js" := by decide
  have source : LoadOrder.source exporter.settings.runtimeDirectory (place.code / "data.js").text =
      place.code / "data.js" := if_pos (Path.isAbsolute_join_name absolute isName)
  have name : LoadOrder.bundleName (place.code / "data.js").text = "data.js" :=
    LoadOrder.bundleName_join (.inl absolute) isName
  have stands := Work.get?_of_write third
  rw [Memory.place, joined.files.base.trans begun.files.base] at stands
  unfold SparesData scriptCopy at spares
  obtain ⟨kept, shipped⟩ := data_of_forM last base (congrArg (locate _) source) rfl spares stands
  rw [name] at shipped
  simp only [List.forall_mem_cons, List.not_mem_nil, false_implies, implies_true, and_true]
  exact ⟨kept, shipped (.inl (mem_allScripts_data exporter request place project))⟩

end Exporter

end GameBundle
