import GameBundle.Proofs.Bundle.ExportedProject
import GameBundle.Proofs.Bundle.RendererFilter

/-!
# Scripts that the options name

The options of a running game name its scripts as they were asked for, and the bundle names them
as they were copied. The two agree on the scripts of the engine. A generated script is asked for
by its path on the machine of the author, and the options say so.
-/

namespace GameBundle

namespace LoadOrder

theorem bundleName_eq_self_iff {script : String} : bundleName script = script ↔
    (Path.mk script).isAbsolute = false ∨ (Path.mk script).fileName? = none := by
  by_cases absolute : (Path.mk script).isAbsolute = true
  · rw [bundleName, if_pos absolute, absolute, or_iff_right (by simp)]
    cases named : (Path.mk script).fileName? with
    | none => simp
    | some name =>
      have isName := Path.isName_of_fileName? named
      have relative := Path.relative_of_isInner (Path.isInner_of_isName isName)
      have moved : name ≠ script := by
        rintro rfl
        rw [relative] at absolute
        cases absolute
      simpa using moved
  · rw [bundleName, if_neg absolute]
    simp [absolute]

/-- Scripts that have been renamed keep their names. -/
theorem bundleName_bundleName (script : String) :
    bundleName (bundleName script) = bundleName script := by
  rw [bundleName_eq_self_iff]
  by_cases absolute : (Path.mk script).isAbsolute = true
  · cases named : (Path.mk script).fileName? with
    | none =>
      rw [bundleName_eq_self_iff.mpr (.inr named)]
      exact .inr named
    | some name =>
      have isName := Path.isName_of_fileName? named
      rw [bundleName, if_pos absolute, named]
      exact .inl (Path.relative_of_isInner (Path.isInner_of_isName isName))
  · rw [Bool.not_eq_true] at absolute
    rw [bundleName_eq_self_iff.mpr (.inl absolute)]
    exact .inl absolute

/-- Scripts are the ones of the bundle just when none is renamed and none is taken for the data. -/
theorem eq_renamed_iff {scripts : List String} {data name : String} (nodup : scripts.Nodup)
    (named : bundleName data = name) :
    scripts = (((if data ∈ scripts then scripts else scripts ++ [data]).map
        bundleName).eraseDups).filter (· ≠ name) ↔
      ∀ script ∈ scripts, bundleName script = script ∧ script ≠ name := by
  constructor
  · intro same script member
    rw [same, List.mem_filter, List.mem_eraseDups, List.mem_map] at member
    obtain ⟨⟨source, -, rfl⟩, other⟩ := member
    exact ⟨bundleName_bundleName source, of_decide_eq_true other⟩
  · intro kept
    have apart : data ∉ scripts := by
      intro member
      obtain ⟨fixed, other⟩ := kept data member
      exact other (fixed.symm.trans named)
    have fresh : name ∉ scripts := fun member => (kept name member).2 rfl
    have fixed : scripts.map bundleName = scripts := by
      rw [List.map_congr_left fun script member => (kept script member).1, List.map_id']
    have once : (scripts ++ [name]).Nodup :=
      nodup.append (List.nodup_singleton name) (List.disjoint_singleton.mpr fresh)
    have held : scripts.filter (· ≠ name) = scripts :=
      List.filter_eq_self.mpr fun script member => decide_eq_true (kept script member).2
    rw [if_neg apart, List.map_append, fixed, List.map_singleton, named,
      IncludeList.eraseDups_of_nodup once, List.filter_append, held]
    simp

end LoadOrder

namespace Exporter

variable {σ : Type} [Storage σ] {exporter : Exporter} {request : ExportRequest}
  {place : OutputPlace} {project : Project}

theorem cases_generatedNames {name : String} (member : name ∈ generatedNames project) :
    name = "data.js" ∨ Path.IsName name ∧ ∀ events profile code, (code / name).text ∈
      LoadOrder.asked events profile project project code := by
  unfold generatedNames at member
  rcases List.mem_append.mp member with script | data
  · right
    rcases List.mem_append.mp script with behavior | layout
    · obtain ⟨extension, declared, inside⟩ := List.mem_flatMap.mp behavior
      obtain ⟨behavior, listed, rfl⟩ := List.mem_map.mp inside
      exact ⟨GeneratedScript.isName_behaviorFile _ _,
        fun events profile code => asked_behavior events profile code declared listed⟩
    · obtain ⟨index, bound, rfl⟩ := List.mem_map.mp layout
      exact ⟨GeneratedScript.isName_layoutFile index,
        fun events profile code => asked_layout events profile code (List.mem_range.mp bound)⟩
  · exact .inl (List.mem_singleton.mp data)

theorem isAbsolute_join_of_rooted {code : Path}
    (rooted : code.isAbsolute = true ∨ code.text = "") {name : String} (isName : Path.IsName name) :
    (code / name).isAbsolute = code.isAbsolute := by
  rcases rooted with absolute | blank
  · rw [Path.isAbsolute_join_name absolute isName, absolute]
  · obtain ⟨text⟩ := code
    subst blank
    rw [Path.blank_join]
    exact Path.relative_of_isInner (Path.isInner_of_isName isName)

theorem assemble_options {session final : Session σ} {report : ExportReport}
    (ran : (exporter.assemble request place project).exec session = (.ok report, final)) :
    report.options.scripts.map ScriptFile.path =
      (exporter.scriptsOf request place project).paths := by
  rw [assemble_eq] at ran
  obtain ⟨_, supplied, -, ran⟩ := Work.exec_bind_eq_ok ran
  obtain ⟨page, rendered, files, -, -, rfl⟩ := finish_eq_ok ran
  simp [GameOptions.ofIncludes, Function.comp_def]

theorem options_agree_iff (rooted : place.code.isAbsolute = true ∨ place.code.text = "")
    {session final : Session σ} {report : ExportReport}
    (ran : (exporter.assemble request place project).exec session = (.ok report, final)) :
    report.options.scripts.map ScriptFile.path = report.includes.filter (· ≠ "data.js") ↔
      ∀ script ∈ report.options.scripts,
        ((Path.mk script.path).isAbsolute = false ∨ (Path.mk script.path).fileName? = none) ∧
          script.path ≠ "data.js" := by
  have named := assemble_options ran
  have nodup : (exporter.scriptsOf request place project).paths.Nodup :=
    (wellFormed_scriptsOf place project).nodup
  have closing : LoadOrder.bundleName (place.code / "data.js").text = "data.js" :=
    LoadOrder.bundleName_join rooted (by decide)
  rw [← named] at nodup
  rw [assemble_includes ran, bundleNames_allScripts, LoadOrder.reference, LoadOrder.renamed_eq,
    ← paths_scriptsOf, ← named]
  refine (LoadOrder.eq_renamed_iff nodup closing).trans ?_
  simp only [LoadOrder.bundleName_eq_self_iff, List.forall_mem_map]

/-- How the options of a report name the scripts of its bundle. -/
structure NamesScripts (exporter : Exporter) (request : ExportRequest) (place : OutputPlace)
    (exported : Project) (report : ExportReport) : Prop where
  /-- They are the scripts asked for, before any of them is renamed. -/
  paths : report.options.scripts.map ScriptFile.path = LoadOrder.kept exporter.events
    request.target.profile request.project exported place.code
  /-- The bundle names them the same just when each is relative and none is named as the data. -/
  agree : report.options.scripts.map ScriptFile.path = report.includes.filter (· ≠ "data.js") ↔
    ∀ script ∈ report.options.scripts,
      ((Path.mk script.path).isAbsolute = false ∨ (Path.mk script.path).fileName? = none) ∧
        script.path ≠ "data.js"
  /-- A generated script is named by its path in the directory of code. -/
  generated : ∀ path ∈ report.generated, path ≠ place.code / "data.js" →
    path.isAbsolute = place.code.isAbsolute ∧
      ((∃ script ∈ report.options.scripts, script.path = path.text) ↔
        IncludeList.isMarked request.target.profile.renderer.other.markers path.text = false)

/-- A successful export tells the running game the paths of scripts as they were asked for, and
writes them into the data. -/
theorem options_name_scripts {codeDirectory : Path} {disk after : σ} {report : ExportReport}
    (rooted : (outputPlace request codeDirectory disk).code.isAbsolute = true ∨
      (outputPlace request codeDirectory disk).code.text = "")
    (done : exporter.exportWith request codeDirectory disk = (.ok report, after)) :
    let place := outputPlace request codeDirectory disk
    ∃ exported session generated copied stored final,
      (exportedProject request place).start disk = (.ok exported, session) ∧
      exporter.NamesScripts request place exported report ∧
      -- they are written into the data before any script is copied
      ((GeneratedScript.ofProject exporter.events exported place.code
        (!request.target.profile.isPreview)).forM writeGenerated).exec session =
          (.ok (), generated) ∧
      ((ExternalScript.ofProject exported place.code).forM copyExternal).exec generated =
        (.ok (), copied) ∧
      Storage.write (place.code / "data.js")
        (dataScript (shipped exported request.layout) report.options) copied.disk =
          (.ok (), stored.disk) ∧
      (exporter.ship request place exported).exec stored = (.ok report, final) ∧
      final.disk = after := by
  intro place
  obtain ⟨exported, session, final, first, second, last⟩ := exportWith_eq_ok done
  obtain ⟨generated, copied, stored, written, gathered, data, rest⟩ := assemble_eq_ok second
  refine ⟨exported, session, generated, copied, stored, final, first, ?_, written, gathered, data,
    rest, last⟩
  have named := assemble_options second
  rw [paths_scriptsOf] at named
  refine ⟨?_, options_agree_iff rooted second, ?_⟩
  · obtain ⟨extensions, layouts, sourceFiles⟩ := exportedProject_declares first
    rw [named]
    unfold LoadOrder.kept
    rw [LoadOrder.asked_congr exporter.events request.target.profile exported place.code extensions
      layouts sourceFiles]
  · intro path member other
    rw [assemble_generated second] at member
    obtain ⟨name, listed, rfl⟩ := List.mem_map.mp member
    rcases cases_generatedNames listed with rfl | ⟨isName, asked⟩
    · exact absurd rfl other
    refine ⟨isAbsolute_join_of_rooted rooted isName, ?_⟩
    have mentioned : (∃ script ∈ report.options.scripts, script.path = (place.code / name).text) ↔
        (place.code / name).text ∈ report.options.scripts.map ScriptFile.path := List.mem_map.symm
    rw [mentioned, named, LoadOrder.kept_eq, List.mem_filter, List.mem_eraseDups,
      and_iff_right (asked _ _ _), Bool.not_eq_true']

/-- The options name the script of the layout by its path on the machine of the author, which
the bundle does not know it by. -/
theorem level_options_name_scripts : ∃ report after exported session,
    lone.exportWith levelRequest ⟨"/out/code"⟩ heroDisk = (.ok report, after) ∧
      (exportedProject levelRequest heroPlace).start heroDisk = (.ok exported, session) ∧
      lone.NamesScripts levelRequest heroPlace exported report ∧
      (∃ script ∈ report.options.scripts, script.path = "/out/code/code0.js") ∧
      report.options.scripts.map ScriptFile.path ≠ report.includes.filter (· ≠ "data.js") := by
  obtain ⟨report, after, done⟩ := level_succeeds
  obtain ⟨exported, session, -, -, -, -, first, names, -⟩ :=
    options_name_scripts (isAbsolute_outputPlace levelRequest ⟨"/out/code"⟩ heroDisk) done
  have names : lone.NamesScripts levelRequest heroPlace exported report := names
  have layout : ∃ script ∈ report.options.scripts, script.path = "/out/code/code0.js" := by
    obtain ⟨rfl, -⟩ := Work.ok_unique first level_exported
    rw [← List.mem_map, names.paths, LoadOrder.kept, List.mem_filter, List.mem_eraseDups,
      level_asked]
    exact ⟨List.mem_append_right _ (by simp), rfl⟩
  refine ⟨report, after, exported, session, done, first, names, layout, fun same => ?_⟩
  obtain ⟨script, listed, path⟩ := layout
  obtain ⟨relative | nameless, -⟩ := names.agree.mp same script listed
  · rw [path] at relative
    exact absurd relative (by decide)
  · rw [path] at nameless
    exact absurd nameless (by decide +kernel)

end Exporter

end GameBundle
