import GameBundle.CommandLine.Run
import GameBundle.Proofs.Bundle.Fingerprint
import GameBundle.Proofs.Bundle.Siblings

/-!
# Several targets at once

A command exports several targets into a directory each, and a single one right into the output
directory. What it leaves in the directory of a target is what a command leaves there that asks for
this target alone, except that a preview among the targets provides all of them with fingerprints.
-/

namespace GameBundle

open GameBundle.Path (IsName)

/-- The command for one of the targets alone, into the directory that the target has among others. -/
def ExportArguments.only (arguments : ExportArguments) (target : Target) : ExportArguments :=
  { arguments with
    targets := [target]
    output := arguments.output / target.name }

namespace Command

variable {arguments : ExportArguments} {project : Project} {hashes : Dictionary Nat}
  {target : Target}

def requestFor (arguments : ExportArguments) (project : Project) (hashes : Dictionary Nat)
    (target : Target) : ExportRequest where
  project
  target
  directory := arguments.output / target.name
  layout := arguments.layout
  externalLayout := arguments.externalLayout
  hashes
  strict := false

theorem requests_of_several (several : arguments.targets.length ≠ 1) :
    requests arguments project hashes =
      arguments.targets.map (requestFor arguments project hashes) := by
  unfold requests outputFor
  simp only [if_neg several]
  rfl

theorem requestFor_withHashes (hashes own : Dictionary Nat) :
    (requestFor arguments project hashes target).withHashes own =
      requestFor arguments project own target := rfl

theorem requests_only : requests (arguments.only target) project hashes =
    [requestFor arguments project hashes target] := rfl

section

variable {σ : Type} [Storage σ] {disk : σ}

theorem prepared_cases (arguments : ExportArguments) (disk : σ) :
    (∃ failure, prepared arguments disk = .error failure ∧
      ∀ target, prepared (arguments.only target) disk = .error failure) ∨
    ∃ exporter project,
      prepared arguments disk = .ok (exporter, requests arguments project
        (fingerprints arguments exporter.settings.runtimeRoot disk)) ∧
      ∀ target, prepared (arguments.only target) disk = .ok (exporter, [requestFor arguments project
        (fingerprints (arguments.only target) exporter.settings.runtimeRoot disk) target]) := by
  have same (target : Target) : settings (arguments.only target) disk = settings arguments disk :=
    rfl
  have file (target : Target) : (arguments.only target).project = arguments.project := rfl
  unfold prepared
  simp only [same, file, ← requests_only]
  cases settings arguments disk with
  | error failure => exact .inl ⟨failure, rfl, fun _ => rfl⟩
  | ok settings =>
    cases (Project.load arguments.project disk).mapError
      (CommandFailure.loadProject arguments.project) with
    | error failure => exact .inl ⟨failure, rfl, fun _ => rfl⟩
    | ok project => exact .inr ⟨⟨settings, .inline⟩, project, rfl, fun _ => rfl⟩

theorem exportRequests_of_several {exporter : Exporter} {requests : List ExportRequest}
    (several : requests.length ≠ 1) :
    exportRequests exporter requests disk = exporter.exportAll requests disk := by
  unfold exportRequests
  split
  · exact absurd rfl several
  · rfl

theorem hasWords_fingerprints (root : Path) : (fingerprints arguments root disk).HasWords := by
  unfold fingerprints
  split
  · exact hasWords_scriptFingerprints root watchedScripts disk
  · exact Dictionary.hasWords_nil

/-- Where no preview is among other targets, a target gets the fingerprints it gets alone. -/
theorem fingerprints_only (root : Path) (listed : target ∈ arguments.targets)
    (fair : target = .preview ∨ .preview ∉ arguments.targets) :
    fingerprints (arguments.only target) root disk = fingerprints arguments root disk := by
  unfold fingerprints ExportArguments.only
  rcases fair with rfl | absent
  · simp [listed]
  · have other : Target.preview ≠ target := fun same => absent (same ▸ listed)
    simp [absent, other]

end

/-- A command without failures has succeeded with every export. -/
theorem ok_of_exit {withReport : Bool} {outcomes : List (Target × Except ExportFault ExportReport)}
    (success : (summary withReport outcomes).exit = 0) {outcome : Except ExportFault ExportReport}
    (listed : (target, outcome) ∈ outcomes) : ∃ report, outcome = .ok report := by
  unfold summary at success
  dsimp only at success
  split at success
  · rename_i quiet
    cases outcome with
    | ok report => exact ⟨report, rfl⟩
    | error fault =>
      have said := List.filterMap_eq_nil_iff.mp quiet _ listed
      cases said
  · cases success

section

variable {σ : Type} [Storage σ] {disk : σ} {exporter : Exporter} {requests : List ExportRequest}
  {request : ExportRequest}

theorem runExport_of_several (several : requests.length ≠ 1)
    (ready : prepared arguments disk = .ok (exporter, requests)) :
    runExport arguments disk =
      (summary arguments.report (arguments.targets.zip (exporter.exportAll requests disk).1),
        (exporter.exportAll requests disk).2) := by
  unfold runExport
  rw [ready]
  dsimp only
  rw [exportRequests_of_several several]

theorem runExport_only (joined : exporter.settings.codeDirectory = none)
    (ready : prepared (arguments.only target) disk = .ok (exporter, [request])) :
    runExport (arguments.only target) disk =
      (summary arguments.report [(target, (exporter.exportAlone request disk).1)],
        (exporter.exportAlone request disk).2) := by
  have same : exporter.exportOne request disk = exporter.exportAlone request disk := by
    unfold Exporter.exportOne Exporter.exportAlone
    rw [ExportSettings.codeDirectoryFor, Exporter.batchCodeDirectory, joined]
    rfl
  unfold runExport
  rw [ready]
  dsimp only [exportRequests]
  rw [same]
  rfl

end

variable {disk : Memory}

def Asks (arguments : ExportArguments) (disk : Memory) (exporter : Exporter)
    (request : ExportRequest) : Prop :=
  ∃ requests, prepared arguments disk = .ok (exporter, requests) ∧ request ∈ requests

/-- A request that keeps to the directory of its target: its code goes into its bundle, it asks for
no scripts outside, and it reads nothing of the common output directory. -/
structure KeepsTo (exporter : Exporter) (disk : Memory) (output : Path) (request : ExportRequest) :
    Prop where
  joined : exporter.settings.codeDirectory = none
  inside : exporter.AsksInside disk request
  clear : exporter.ReadsClear disk output request

/-- Whether a game is told the same fingerprints when its target is one of several and when it is
the only one. -/
def ToldAlike (arguments : ExportArguments) (disk : Memory) (target : Target) : Prop :=
  ∀ exporter request, Asks arguments disk exporter request → request.target = target →
    ∀ exported session,
      (Exporter.exportedProject request (exporter.batchPlace disk request)).start disk =
        (.ok exported, session) →
      exporter.TellsAlike request (exporter.batchPlace disk request) exported
        (fingerprints (arguments.only target) exporter.settings.runtimeRoot disk) request.hashes

section

variable {exporter : Exporter}

theorem forall_asks_iff {P : Exporter → ExportRequest → Prop}
    (ready : prepared arguments disk =
      .ok (exporter, arguments.targets.map (requestFor arguments project hashes)))
    (listed : target ∈ arguments.targets) :
    (∀ exporter request, Asks arguments disk exporter request → request.target = target →
      P exporter request) ↔ P exporter (requestFor arguments project hashes target) := by
  constructor
  · exact fun all => all _ _ ⟨_, ready, List.mem_map.mpr ⟨target, listed, rfl⟩⟩ rfl
  · rintro one _ request ⟨requests, again, member⟩ same
    obtain ⟨rfl, rfl⟩ := Prod.mk.inj (Except.ok.inj (ready.symm.trans again))
    obtain ⟨other, -, rfl⟩ := List.mem_map.mp member
    obtain rfl : other = target := same
    exact one

/-- Beside a preview a target is told the same as alone exactly when the scripts that it loads and
the preview watches have fingerprint zero as far as they can be read. -/
theorem toldAlike_beside_preview
    (ready : prepared arguments disk = .ok (exporter, arguments.targets.map (requestFor arguments
      project (fingerprints arguments exporter.settings.runtimeRoot disk))))
    (listed : target ∈ arguments.targets) (other : target ≠ .preview)
    (beside : .preview ∈ arguments.targets) :
    let request := requestFor arguments project [] target
    ToldAlike arguments disk target ↔ ∀ exported session,
      (Exporter.exportedProject request (exporter.batchPlace disk request)).start disk =
        (.ok exported, session) →
      ∀ script ∈ (exporter.scriptsOf request (exporter.batchPlace disk request) exported).paths,
        script ∈ watchedScripts →
          (contentDigest? Digest.fingerprint exporter.settings.runtimeRoot disk script).getD 0 =
            0 := by
  intro request
  have own : fingerprints (arguments.only target) exporter.settings.runtimeRoot disk = [] := by
    simp [fingerprints, ExportArguments.only, other.symm]
  have all : fingerprints arguments exporter.settings.runtimeRoot disk =
      scriptFingerprints Digest.fingerprint exporter.settings.runtimeRoot watchedScripts disk :=
    if_pos (by simpa using beside)
  rw [ToldAlike, forall_asks_iff ready listed, own]
  refine forall_congr' fun exported => forall_congr' fun session => forall_congr' fun ran => ?_
  refine forall_congr' fun script => forall_congr' fun loaded => ?_
  change 0 = Dictionary.fingerprint (fingerprints arguments _ disk) script ↔ _
  rw [all, Dictionary.fingerprint, find?_scriptFingerprints]
  by_cases watched : script ∈ watchedScripts <;> simp [watched, eq_comm]

theorem run_several (several : 2 ≤ arguments.targets.length) (distinct : arguments.targets.Nodup)
    (proper : ∀ name ∈ disk.home, IsName name)
    (keeps : ∀ exporter request, Asks arguments disk exporter request →
      KeepsTo exporter disk arguments.output request)
    (ready : prepared arguments disk =
      .ok (exporter, arguments.targets.map (requestFor arguments project hashes)))
    (listed : target ∈ arguments.targets) :
    let request := requestFor arguments project hashes target
    let run := runExport arguments disk
    (∀ spot, disk.place (arguments.output / target.name) <+: spot →
      run.2.tree.get? spot = exporter.leaves request disk spot) ∧
    (run.1.exit = 0 → ∃ report, (exporter.exportAlone request disk).1 = .ok report) := by
  intro request run
  have kept : ∀ request ∈ arguments.targets.map (requestFor arguments project hashes),
      KeepsTo exporter disk arguments.output request :=
    fun request member => keeps exporter request ⟨_, ready, member⟩
  have siblings : ∀ request ∈ arguments.targets.map (requestFor arguments project hashes),
      exporter.Sibling arguments.output request := by
    intro request member
    refine ⟨?_, (kept request member).joined⟩
    obtain ⟨target, -, rfl⟩ := List.mem_map.mp member
    rfl
  obtain ⟨outcomes, files⟩ := Exporter.exportAll_siblings proper siblings
    (List.pairwise_map.mpr distinct) (fun request member => (kept request member).inside)
    fun request member => (kept request member).clear
  have ran : run = _ := runExport_of_several (by rw [List.length_map]; omega) ready
  rw [ran]
  refine ⟨files request (List.mem_map.mpr ⟨target, listed, rfl⟩), fun success => ?_⟩
  have answered : (target, (exporter.exportAlone request disk).1) ∈ arguments.targets.zip
      (exporter.exportAll
        (arguments.targets.map (requestFor arguments project hashes)) disk).1 := by
    rw [outcomes, List.map_map, ← List.map_prod_left_eq_zip]
    exact List.mem_map.mpr ⟨target, listed, rfl⟩
  exact ok_of_exit success answered

theorem run_alone {request : ExportRequest} (joined : exporter.settings.codeDirectory = none)
    (ready : prepared (arguments.only target) disk = .ok (exporter, [request])) :
    let run := runExport (arguments.only target) disk
    (∀ spot, run.2.tree.get? spot = exporter.leaves request disk spot) ∧
    (run.1.exit = 0 → ∃ report, (exporter.exportAlone request disk).1 = .ok report) := by
  intro run
  have ran : run = _ := runExport_only joined ready
  rw [ran]
  exact ⟨fun _ => rfl, fun success => ok_of_exit success List.mem_cons_self⟩

end

/-- Of several targets of a command, each gets the files in its directory that it gets alone, if it
is told the same fingerprints. This is so for a preview, and for all targets where no preview is
among them. Where the data tells other fingerprints, the files differ. -/
theorem targets_apart (several : 2 ≤ arguments.targets.length)
    (distinct : arguments.targets.Nodup) (proper : ∀ name ∈ disk.home, IsName name)
    (keeps : ∀ exporter request, Asks arguments disk exporter request →
      KeepsTo exporter disk arguments.output request) :
    ∀ target ∈ arguments.targets,
      let joint := runExport arguments disk
      let alone := runExport (arguments.only target) disk
      (ToldAlike arguments disk target →
        ∀ spot, disk.place (arguments.output / target.name) <+: spot →
          joint.2.tree.get? spot = alone.2.tree.get? spot) ∧
      (target = .preview ∨ .preview ∉ arguments.targets → ToldAlike arguments disk target) ∧
      -- when both commands succeed, the data tells a difference in fingerprints
      (joint.1.exit = 0 → alone.1.exit = 0 →
        (∀ exporter request, Asks arguments disk exporter request → request.target = target →
          exporter.KeepsData request (exporter.batchPlace disk request) disk) →
        let data := disk.place (arguments.output / target.name / "code" / "data.js")
        joint.2.tree.get? data = alone.2.tree.get? data → ToldAlike arguments disk target) := by
  intro target listed joint alone
  have code : IsName "code" := by decide
  have script : IsName "data.js" := by decide
  rcases prepared_cases arguments disk with ⟨failure, failed, failedAlone⟩ |
    ⟨exporter, project, ready, readyAlone⟩
  · have nothing : ToldAlike arguments disk target := by
      rintro exporter request ⟨requests, ready, -⟩
      rw [failed] at ready
      cases ready
    have unchanged : joint = (.failure failure, disk) := by
      rw [show joint = runExport arguments disk from rfl, runExport, failed]
    have left : alone = (.failure failure, disk) := by
      rw [show alone = runExport (arguments.only target) disk from rfl, runExport, failedAlone]
    rw [unchanged, left]
    exact ⟨fun _ _ _ => rfl, fun _ => nothing, fun _ _ _ _ => nothing⟩
  · rw [requests_of_several (by omega)] at ready
    have joined : exporter.settings.codeDirectory = none :=
      (keeps exporter _ ⟨_, ready, List.mem_map.mpr ⟨target, listed, rfl⟩⟩).joined
    obtain ⟨files, success⟩ := run_several several distinct proper keeps ready listed
    have one := readyAlone target
    rw [← requestFor_withHashes (fingerprints arguments exporter.settings.runtimeRoot disk)] at one
    obtain ⟨filesAlone, successAlone⟩ := run_alone joined one
    rw [ToldAlike, forall_asks_iff ready listed, forall_asks_iff ready listed]
    refine ⟨fun told spot below => ?_, fun fair exported session _ script _ => ?_, ?_⟩
    · rw [files spot below, filesAlone, Exporter.leaves_withHashes told]
    · rw [fingerprints_only exporter.settings.runtimeRoot listed fair]
      rfl
    · intro exit exitAlone spared data same
      have below : disk.place (arguments.output / target.name) <+: data := by
        have place : data = disk.place (arguments.output / target.name) ++ ["code"] ++ ["data.js"] := by
          rw [Memory.place, ← Memory.locate_join_name code, ← Memory.locate_join_name script]
          rfl
        rw [place, List.append_assoc]
        exact List.prefix_append _ _
      obtain ⟨report, done⟩ := success exit
      obtain ⟨other, again⟩ := successAlone exitAlone
      rw [files data below, filesAlone] at same
      exact Exporter.Sibling.tellsAlike ⟨rfl, joined⟩ proper (hasWords_fingerprints _)
        (hasWords_fingerprints _) spared done again same

/-- A game without content, and a runtime with an empty page and one of its scripts. -/
def pageDisk : Memory where
  tree := ⟨[(["rt", "Runtime", "kiln.js"], .file .empty),
    (["rt", "Runtime", "index.html"], .file .empty), (["rt", "Runtime"], .directory),
    (["rt"], .directory), (["game", "game.json"], .file "\x7b\"name\": \"Game\"\x7d".toUTF8),
    (["game"], .directory)]⟩
  home := ["cwd"]
  denied := []

/-- Exports the game for the web and as a preview. -/
def pageArguments : ExportArguments where
  project := ⟨"/game/game.json"⟩
  output := ⟨"/out"⟩
  targets := [.preview, .html5]
  layout := none
  externalLayout := none
  runtimeRoot := some ⟨"/rt"⟩
  settings := none
  strict := false
  report := false

def pageProject : Project := { Project.blank "Game" with projectFile := "/game/game.json" }

theorem page_loaded : Project.load pageArguments.project pageDisk = .ok pageProject := by
  have kept : (Project.load pageArguments.project pageDisk).toOption = some pageProject := by
    decide +kernel
  cases loaded : Project.load pageArguments.project pageDisk with
  | error fault => rw [loaded] at kept; cases kept
  | ok project => rw [loaded] at kept; exact congrArg Except.ok (Option.some.inj kept)

theorem page_prepared : prepared pageArguments pageDisk = .ok (Exporter.lone,
    pageArguments.targets.map
      (requestFor pageArguments pageProject (fingerprints pageArguments ⟨"/rt"⟩ pageDisk))) := by
  have found : settings pageArguments pageDisk = .ok Exporter.lone.settings := rfl
  unfold prepared
  rw [found, page_loaded]
  rfl

theorem page_keeps {exporter : Exporter} {request : ExportRequest}
    (asks : Asks pageArguments pageDisk exporter request) :
    KeepsTo exporter pageDisk pageArguments.output request := by
  obtain ⟨requests, ready, member⟩ := asks
  obtain ⟨rfl, rfl⟩ := Prod.mk.inj (Except.ok.inj (page_prepared.symm.trans ready))
  obtain ⟨target, -, rfl⟩ := List.mem_map.mp member
  refine ⟨rfl, fun exported session ran script asked => ?_, fun path read => ?_⟩
  · rw [Exporter.requested_of_bare rfl rfl ran] at asked
    cases asked
  · cases read with
    | runtime => decide +kernel
    | resource listed named => cases listed
    | external listed language => cases listed
    | script ran kept asked absolute =>
      rw [Exporter.requested_of_bare rfl rfl ran] at asked
      cases asked

/-- Because of the preview the page is told the digest of an empty script, where alone it is told
zero. -/
theorem page_told : ¬ToldAlike pageArguments pageDisk .html5 := by
  intro told
  let request := requestFor pageArguments pageProject [] .html5
  let place := Exporter.lone.batchPlace pageDisk request
  have exported : ((Exporter.exportedProject request place).start pageDisk).1 = .ok pageProject := by
    decide +kernel
  have loaded : "kiln.js" ∈ (Exporter.lone.scriptsOf request place pageProject).paths := by
    rw [Exporter.paths_scriptsOf]
    decide +kernel
  have read : Storage.read (runtimeDirectory ⟨"/rt"⟩ / "kiln.js") pageDisk = .ok .empty := rfl
  have watched : "kiln.js" ∈ watchedScripts := by decide +kernel
  have silent := (toldAlike_beside_preview page_prepared (by decide) (by decide) (by decide)).mp told
  rcases ran : (Exporter.exportedProject request place).start pageDisk with ⟨outcome, session⟩
  rw [ran] at exported
  obtain rfl : outcome = .ok pageProject := exported
  have zero := silent pageProject session ran "kiln.js" loaded watched
  rw [contentDigest?, show Exporter.lone.settings.runtimeRoot = ⟨"/rt"⟩ from rfl, read] at zero
  have digest : Digest.fingerprint .empty = 0xe3b0c442 := by decide +kernel
  have blank : Digest.fingerprint .empty = 0 := zero
  omega

/-- The preview is exported the same with and without the page, and the page is told apart by the
fingerprint of the script of the runtime. -/
theorem page_targets_apart :
    2 ≤ pageArguments.targets.length ∧ pageArguments.targets.Nodup ∧
      (∀ name ∈ pageDisk.home, IsName name) ∧
      (∀ exporter request, Asks pageArguments pageDisk exporter request →
        KeepsTo exporter pageDisk pageArguments.output request) ∧
      (∀ spot, ["out", "preview"] <+: spot →
        (runExport pageArguments pageDisk).2.tree.get? spot =
          (runExport (pageArguments.only .preview) pageDisk).2.tree.get? spot) ∧
      ¬ToldAlike pageArguments pageDisk .html5 := by
  have place : pageDisk.place (pageArguments.output / Target.preview.name) = ["out", "preview"] :=
    rfl
  have proper : ∀ name ∈ pageDisk.home, IsName name := by decide
  have keeps : ∀ exporter request, Asks pageArguments pageDisk exporter request →
      KeepsTo exporter pageDisk pageArguments.output request := fun _ _ => page_keeps
  obtain ⟨files, told, -⟩ := targets_apart (by decide) (by decide) proper keeps .preview
    List.mem_cons_self
  rw [place] at files
  exact ⟨by decide, by decide, proper, keeps, files (told (.inl rfl)), page_told⟩

end Command

end GameBundle
