import GameBundle.Bundle.Batch
import GameBundle.Proofs.Bundle.FinishedBundle
import GameBundle.Proofs.Bundle.LoadOrder

/-!
# Strictness

An export is judged once all of it is made. Strictness turns a finished bundle with
something reported into a fault and touches nothing else: files, faults and reports with
nothing in them are those of the lenient export, also within a batch.
-/

namespace GameBundle

theorem Diagnostics.hasWarnings_iff {diagnostics : Diagnostics} :
    diagnostics.hasWarnings = true ↔ diagnostics.items ≠ [] := by
  unfold hasWarnings
  cases diagnostics.items with
  | nil => simp
  | cons first rest => simp

/-- The request with its flag of strictness set. -/
def ExportRequest.withStrict (request : ExportRequest) (strict : Bool) : ExportRequest :=
  { request with strict }

/-- The exporter with the flag of strictness set in its settings. -/
def Exporter.withStrict (exporter : Exporter) (strict : Bool) : Exporter :=
  { exporter with settings := { exporter.settings with strict } }

namespace ExportReport

variable {report : ExportReport}

theorem verdict_of_quiet (quiet : report.diagnostics.items = []) (strict : Bool) :
    report.verdict strict = .ok report := by
  have clean : report.diagnostics.hasWarnings = false := by
    rw [← Bool.not_eq_true, Diagnostics.hasWarnings_iff]
    exact not_not_intro quiet
  unfold verdict
  rw [clean, Bool.and_false]
  rfl

theorem verdict_of_reported {first : Diagnostic} {rest : List Diagnostic}
    (reported : report.diagnostics.items = first :: rest) :
    report.verdict true = .error (.strict report.target (rest.length + 1) first.text) := by
  have warned : report.diagnostics.hasWarnings = true := by
    rw [Diagnostics.hasWarnings_iff, reported]
    exact List.cons_ne_nil first rest
  unfold verdict
  rw [warned, Diagnostics.size, Diagnostics.texts, reported]
  rfl

end ExportReport

namespace Exporter

variable {σ : Type} [Storage σ]

def judged (outcome : Except ExportFault ExportReport) : Except ExportFault ExportReport :=
  outcome.bind fun report => report.verdict true

/-- Flags of strictness are seen by the verdict alone. -/
theorem exportWith_withStrict (exporter : Exporter) (request : ExportRequest)
    (codeDirectory : Path) (disk : σ) (bySettings byRequest : Bool) :
    (exporter.withStrict bySettings).exportWith (request.withStrict byRequest) codeDirectory disk =
      let made := (exporter.build request (outputPlace request codeDirectory disk)).start disk
      (made.1.bind fun report => report.verdict (byRequest || bySettings), made.2.disk) := rfl

/-- A strict export is the lenient one, judged. -/
theorem exportWith_strict (exporter : Exporter) (request : ExportRequest) (codeDirectory : Path)
    (disk : σ) {bySettings byRequest : Bool} (strict : (byRequest || bySettings) = true) :
    (exporter.withStrict bySettings).exportWith (request.withStrict byRequest) codeDirectory disk =
      ((exporter.withStrict false).exportWith (request.withStrict false) codeDirectory disk).map
        judged id := by
  rw [exportWith_withStrict, exportWith_withStrict, strict]
  generalize (exporter.build request (outputPlace request codeDirectory disk)).start disk = made
  rcases made with ⟨outcome, session⟩
  cases outcome <;> rfl

theorem exportWith_target {exporter : Exporter} {request : ExportRequest} {codeDirectory : Path}
    {disk after : σ} {report : ExportReport}
    (done : exporter.exportWith request codeDirectory disk = (.ok report, after)) :
    report.target = request.target := by
  obtain ⟨exported, session, final, -, made, -⟩ := exportWith_eq_ok done
  rw [assemble_eq] at made
  obtain ⟨-, supplied, -, finished⟩ := Work.exec_bind_eq_ok made
  obtain ⟨page, rendered, files, -, -, rfl⟩ := finish_eq_ok finished
  rfl

/-- The picture's bundle loads the scripts of the engine, and this one before all others. -/
theorem hero_firstScript : ∃ rest, (lone.allScripts heroRequest heroPlace
    heroRequest.project).paths = "libs/jshashtable.js" :: rest := by
  obtain ⟨rest, kept⟩ : ∃ rest, LoadOrder.kept lone.events heroRequest.target.profile
      heroRequest.project heroRequest.project heroPlace.code = "libs/jshashtable.js" :: rest := by
    obtain ⟨others, first⟩ : ∃ others, coreScripts ++ eventsToolScripts ++ Renderer.pixi.scripts =
        "libs/jshashtable.js" :: others := ⟨_, rfl⟩
    rw [LoadOrder.kept, hero_asked, first, List.eraseDups_cons, List.filter_cons_of_pos (by decide)]
    exact ⟨_, rfl⟩
  rw [allScripts, IncludeList.paths_insert (wellFormed_scriptsOf _ _), paths_scriptsOf, kept]
  split
  · exact ⟨rest, rfl⟩
  · exact ⟨rest ++ [_], rfl⟩

/-- What is reported of that script. -/
def heroWarning : Diagnostic :=
  .warning .missingIncludeFile "could not find include file `libs/jshashtable.js`"
    (some "/rt/Runtime/libs/jshashtable.js")

theorem heroWarning_text : heroWarning.text = "W201 [export] could not find include file " ++
    "`libs/jshashtable.js` (/rt/Runtime/libs/jshashtable.js)" := by
  decide +kernel

/-- The runtime of the picture lacks the first script, which is reported before all others. -/
theorem hero_reports {report : ExportReport} {after : Memory}
    (done : lone.exportWith heroRequest ⟨"/out/code"⟩ heroDisk = (.ok report, after)) :
    ∃ rest, report.diagnostics.items = heroWarning :: rest := by
  obtain ⟨exported, session, final, first, second, -⟩ := exportWith_eq_ok done
  obtain ⟨rfl, rfl⟩ := Work.ok_unique hero_exported first
  change (lone.assemble heroRequest heroPlace heroRequest.project).exec heroSession = _ at second
  rw [assemble_eq] at second
  obtain ⟨_, supplied, supplying, finishing⟩ := Work.exec_bind_eq_ok second
  obtain ⟨text, stored, wrote, copying⟩ := hero_supply_eq_ok supplying
  obtain ⟨scripts, begins⟩ := hero_firstScript
  rw [begins] at copying
  obtain ⟨written, unreported⟩ := Work.exec_change_eq_ok wrote
  have missing : stored.disk.isFile
      (LoadOrder.source lone.settings.runtimeDirectory "libs/jshashtable.js") = false := by
    obtain ⟨-, put⟩ := Memory.write_eq_ok written
    have data : heroSession.disk.place (heroPlace.code / "data.js") =
        ["out", "code", "data.js"] := by
      decide +kernel
    have apart : heroSession.disk.place (LoadOrder.source lone.settings.runtimeDirectory
        "libs/jshashtable.js") ≠ ["out", "code", "data.js"] := by
      decide +kernel
    have absent : heroSession.disk.tree.isFile (heroSession.disk.place
        (LoadOrder.source lone.settings.runtimeDirectory "libs/jshashtable.js")) = false := by
      decide +kernel
    rw [Memory.isFile, put, data, ← absent]
    exact Memory.isFile_put_of_ne apart _
  obtain ⟨ahead, same⟩ := ahead_finish finishing
  have reports := (reports_of_missing copying missing).trans ahead.reports
  rw [unreported, hero_quiet, ← same] at reports
  obtain ⟨rest, items⟩ := reports
  exact ⟨rest, items.symm⟩

/-- A strict export leaves the files of the lenient one and ends with its fault, or with its
report when nothing was reported; otherwise it fails with the first of what was reported. -/
theorem exportOne_strict (exporter : Exporter) (request : ExportRequest) (disk : σ)
    (bySettings byRequest : Bool) (strict : (byRequest || bySettings) = true) :
    let lenient := (exporter.withStrict false).exportOne (request.withStrict false) disk
    let judged := (exporter.withStrict bySettings).exportOne (request.withStrict byRequest) disk
    judged.2 = lenient.2 ∧
      match lenient.1 with
      | .error fault => judged.1 = .error fault
      | .ok report =>
        match report.diagnostics.items with
        | [] => judged.1 = .ok report
        | first :: rest =>
          judged.1 = .error (.strict request.target (first :: rest).length first.text) := by
  intro lenient strictly
  have same : strictly = lenient.map judged id := exportWith_strict exporter request
    (exporter.settings.codeDirectoryFor request.directory) disk strict
  rw [same]
  refine ⟨rfl, ?_⟩
  rcases done : lenient with ⟨outcome, after⟩
  cases outcome with
  | error fault => rfl
  | ok report =>
    have alone : (exporter.withStrict false).exportWith (request.withStrict false)
        (exporter.settings.codeDirectoryFor request.directory) disk = (.ok report, after) := done
    have target : report.target = (request.withStrict false).target := exportWith_target alone
    dsimp only [Prod.map]
    split
    · rename_i quiet
      exact ExportReport.verdict_of_quiet quiet true
    · rename_i first rest reported
      rw [show request.target = report.target from target.symm]
      exact ExportReport.verdict_of_reported reported

/-- The picture is exported with a warning for each script of the engine, of which strictness
names the first. -/
theorem hero_strict : ∃ report after rest,
    lone.exportOne heroRequest heroDisk = (.ok report, after) ∧
    report.diagnostics.items = heroWarning :: rest ∧
    lone.exportOne (heroRequest.withStrict true) heroDisk =
      (.error (.strict .html5 (rest.length + 1) ("W201 [export] could not find include file " ++
        "`libs/jshashtable.js` (/rt/Runtime/libs/jshashtable.js)")), after) := by
  have alone : lone.withStrict false = lone := rfl
  have plain : heroRequest.withStrict false = heroRequest := rfl
  obtain ⟨report, after, done⟩ := hero_succeeds
  have lenient : lone.exportOne heroRequest heroDisk = (.ok report, after) := done
  obtain ⟨rest, reported⟩ := hero_reports done
  have judged := exportOne_strict lone heroRequest heroDisk false true rfl
  rw [alone, plain, lenient] at judged
  simp only [reported, heroWarning_text] at judged
  exact ⟨report, after, rest, lenient, reported, Prod.ext judged.2 judged.1⟩

/-- Requests of a strict batch are turned down, and exported with files and faults, as in a
lenient one; each outcome is judged on its own. -/
theorem exportBatch_strict (exporter : Exporter) (earlier : List OutputPlace)
    (requests : List ExportRequest) (disk : σ) :
    (exporter.withStrict true).exportBatch earlier requests disk =
      ((exporter.withStrict false).exportBatch earlier
        (requests.map (ExportRequest.withStrict · false)) disk).map (List.map judged) id := by
  induction requests generalizing earlier disk with
  | nil => rfl
  | cons request rest ih =>
    have first : (exporter.withStrict true).exportApart earlier request disk =
        ((exporter.withStrict false).exportApart earlier (request.withStrict false) disk).map
          judged id := by
      have place : (exporter.withStrict true).batchPlace disk request =
          exporter.batchPlace disk request := rfl
      have lenient : (exporter.withStrict false).batchPlace disk (request.withStrict false) =
          exporter.batchPlace disk request := rfl
      rw [exportApart, exportApart, place, lenient]
      cases earlier.findSome? (exporter.batchPlace disk request).conflict? with
      | some directory => rfl
      | none =>
        exact exportWith_strict exporter request (exporter.batchCodeDirectory request) disk
          (Bool.or_true request.strict)
    rw [List.map_cons, exportBatch, exportBatch, first]
    dsimp only [Prod.map]
    rw [ih]
    rfl

/-- A strict batch leaves the files of the lenient one. -/
theorem exportAll_strict (exporter : Exporter) (requests : List ExportRequest) (disk : σ) :
    (exporter.withStrict true).exportAll requests disk =
      ((exporter.withStrict false).exportAll
        (requests.map (ExportRequest.withStrict · false)) disk).map (List.map judged) id :=
  exportBatch_strict exporter [] requests disk

end Exporter

end GameBundle
