import GameBundle.Proofs.Bundle.Batch
import GameBundle.Proofs.Bundle.LevelExport
import Mathlib.Data.List.Pairwise

/-!
# The order of a batch

Requests can be exported in any order when their directories do not meet and none reads
where another one writes. Each is answered as on its own, and the files in the end are the
same: what one request changes no other changes or looks at, apart from directories that
several of them miss above their own.
-/

namespace GameBundle.Exporter

open Memory (locate Agree Confined Meets IsLevel)
open Session (Abreast)

variable {exporter : Exporter} {disk memory : Memory} {request other : ExportRequest}

def Parted (exporter : Exporter) (home : Place) (request other : ExportRequest) : Prop :=
  ∀ own ∈ exporter.directories request, ∀ taken ∈ exporter.directories other,
    ¬Meets home own taken

theorem Parted.symm {home : Place} (parted : exporter.Parted home request other) :
    exporter.Parted home other request :=
  fun own mine taken theirs meets => parted taken theirs own mine meets.symm

theorem not_clashes_iff {home : Place} {earlier : List ExportRequest} :
    ¬exporter.Clashes home request earlier ↔
      ∀ other ∈ earlier, exporter.Parted home request other := by
  simp only [Clashes, Parted, not_exists, not_and]

section OnItsOwn

variable {σ : Type} [Storage σ]

def exportAlone (exporter : Exporter) (request : ExportRequest) (disk : σ) :
    Except ExportFault ExportReport × σ :=
  exporter.exportWith request (exporter.batchCodeDirectory request) disk

/-- Exports requests one after the other, also where their directories meet. -/
def exportInTurn (exporter : Exporter) :
    List ExportRequest → σ → List (Except ExportFault ExportReport) × σ
  | [], disk => ([], disk)
  | request :: rest, disk =>
    let (outcome, changed) := exporter.exportAlone request disk
    let (outcomes, final) := exporter.exportInTurn rest changed
    (outcome :: outcomes, final)

end OnItsOwn

theorem exportApart_of_parted {earlier : List ExportRequest} (base : memory.home = disk.home)
    (parted : ∀ other ∈ earlier, exporter.Parted disk.home request other) :
    exporter.exportApart (earlier.map (exporter.batchPlace disk)) request memory =
      exporter.exportAlone request memory := by
  apply exportApart_of_apart
  rw [batchPlace_of_home base, isSome_conflict_iff]
  exact not_clashes_iff.mpr parted

/-- A request has its place also among files that are left by others. -/
theorem map_batchPlace_concat (base : memory.home = disk.home) (earlier : List ExportRequest) :
    earlier.map (exporter.batchPlace disk) ++ [exporter.batchPlace memory request] =
      (earlier ++ [request]).map (exporter.batchPlace disk) := by
  rw [batchPlace_of_home base, List.map_append]
  rfl

/-- Where no request is turned down, no directories meet. -/
theorem pairwise_parted_of_accepted (earlier : List ExportRequest) {requests : List ExportRequest}
    (base : memory.home = disk.home)
    (accepted : ∀ flaw, .error (.settings flaw) ∉
      (exporter.exportBatch (earlier.map (exporter.batchPlace disk)) requests memory).1) :
    requests.Pairwise (exporter.Parted disk.home) ∧
      ∀ request ∈ requests, ∀ other ∈ earlier, exporter.Parted disk.home request other := by
  induction requests generalizing earlier memory with
  | nil => exact ⟨.nil, fun request member => by cases member⟩
  | cons request rest ih =>
    have parted : ∀ other ∈ earlier, exporter.Parted disk.home request other := by
      rw [← not_clashes_iff, ← isSome_conflict_iff, ← batchPlace_of_home base]
      intro conflict
      obtain ⟨flaw, failed⟩ := exportApart_of_conflict conflict
      apply accepted flaw
      rw [exportBatch_cons, failed]
      exact List.mem_cons_self
    rw [exportBatch_cons, map_batchPlace_concat base] at accepted
    obtain ⟨apart, fresh⟩ := ih (earlier ++ [request]) ((home_exportApart _ request memory).trans base)
      fun flaw later => accepted flaw (List.mem_cons_of_mem _ later)
    simp only [List.forall_mem_append, List.forall_mem_singleton] at fresh
    exact ⟨.cons (fun other member => (fresh other member).2.symm) apart,
      List.forall_mem_cons.mpr ⟨parted, fun other member => (fresh other member).1⟩⟩

theorem exportBatch_of_parted (earlier : List ExportRequest) {requests : List ExportRequest}
    (base : memory.home = disk.home) (apart : requests.Pairwise (exporter.Parted disk.home))
    (fresh : ∀ request ∈ requests, ∀ other ∈ earlier, exporter.Parted disk.home request other) :
    exporter.exportBatch (earlier.map (exporter.batchPlace disk)) requests memory =
      exporter.exportInTurn requests memory := by
  induction requests generalizing earlier memory with
  | nil => rfl
  | cons request rest ih =>
    rw [List.pairwise_cons] at apart
    rw [List.forall_mem_cons] at fresh
    have home : (exporter.exportAlone request memory).2.home = disk.home :=
      (home_exportWith exporter request _ memory).trans base
    have later := ih (earlier ++ [request]) home apart.2 ?_
    · rw [exportBatch_cons, map_batchPlace_concat base, exportApart_of_parted base fresh.1]
      dsimp only
      rw [later]
      rfl
    · simp only [List.forall_mem_append, List.forall_mem_singleton]
      exact fun other member => ⟨fresh.2 other member, (apart.1 other member).symm⟩

/-- No request is turned down exactly when no directories meet. -/
theorem accepted_iff {requests : List ExportRequest} :
    (∀ flaw, .error (.settings flaw) ∉ (exporter.exportAll requests disk).1) ↔
      requests.Pairwise (exporter.Parted disk.home) := by
  constructor
  · exact fun accepted => (pairwise_parted_of_accepted [] rfl accepted).1
  · intro apart flaw
    have inTurn : exporter.exportAll requests disk = exporter.exportInTurn requests disk :=
      exportBatch_of_parted [] rfl apart fun _ _ _ member => by cases member
    rw [inTurn]
    clear inTurn apart
    induction requests generalizing disk with
    | nil => exact List.not_mem_nil
    | cons request rest ih =>
      intro member
      rcases List.mem_cons.mp member with failed | later
      · exact exportWith_ne_settings _ disk flaw failed.symm
      · exact ih later

/-- The paths that a request of a batch reads: the runtime directory, with templates and
scripts of the engine, the files of resources, external scripts, and scripts of the bundle
that effects or events ask for by absolute paths. -/
inductive Reads (exporter : Exporter) (request : ExportRequest) (disk : Memory) : Path → Prop where
  | runtime : Reads exporter request disk exporter.settings.runtimeDirectory
  | resource {resource : Resource} (listed : resource ∈ request.project.resources.resources)
      (named : resource.file ≠ "") :
      Reads exporter request disk (request.project.directory / resource.file)
  | external {source : SourceFile} (listed : source ∈ request.project.sourceFiles)
      (language : source.language = "Javascript") :
      Reads exporter request disk (request.project.directory / source.fileName)
  | script {exported : Project} {session : Session Memory} {script : String}
      (ran : (exportedProject request (exporter.batchPlace disk request)).start disk =
        (.ok exported, session))
      (kept : script ∈
        (exporter.allScripts request (exporter.batchPlace disk request) exported).paths)
      (asked : script ∈ LoadOrder.requested exporter.events request.target.profile exported)
      (absolute : (Path.mk script).isAbsolute = true) : Reads exporter request disk ⟨script⟩

def ReadsApart (exporter : Exporter) (disk : Memory) (request other : ExportRequest) : Prop :=
  ∀ path, exporter.Reads request disk path → ∀ taken ∈ exporter.directories other,
    ¬disk.place path <+: disk.place taken ∧ ¬disk.place taken <+: disk.place path

/-- Two requests that write apart from each other, and read apart from what the other writes. -/
structure Undisturbed (exporter : Exporter) (disk : Memory) (request other : ExportRequest) :
    Prop where
  parted : exporter.Parted disk.home request other
  reads : exporter.ReadsApart disk request other
  read : exporter.ReadsApart disk other request

theorem Undisturbed.symm (undisturbed : exporter.Undisturbed disk request other) :
    exporter.Undisturbed disk other request :=
  ⟨undisturbed.parted.symm, undisturbed.read, undisturbed.reads⟩

/-- No directory of a request has double dots, and it asks for no script with double dots. -/
structure Level (exporter : Exporter) (disk : Memory) (request : ExportRequest) : Prop where
  directories : ∀ path ∈ exporter.directories request, .up ∉ path.components
  asks : ∀ exported session,
    (exportedProject request (exporter.batchPlace disk request)).start disk =
      (.ok exported, session) → exporter.AsksLevel request exported

def AsksInside (exporter : Exporter) (disk : Memory) (request : ExportRequest) : Prop :=
  ∀ exported session, (exportedProject request (exporter.batchPlace disk request)).start disk =
    (.ok exported, session) → exporter.AsksLevel request exported

theorem locate_batchPlace (exporter : Exporter) (request : ExportRequest)
    (proper : ∀ name ∈ disk.home, Path.IsName name) :
    locate disk.home (exporter.batchPlace disk request).bundle = disk.place request.directory ∧
      locate disk.home (exporter.batchPlace disk request).code =
        disk.place (exporter.batchCodeDirectory request) :=
  ⟨Memory.place_absolute proper _, Memory.place_absolute proper _⟩

theorem holds_batchPlace_iff (proper : ∀ name ∈ disk.home, Path.IsName name) {spot : Place} :
    (exporter.batchPlace disk request).Holds disk.home spot ↔
      ∃ own ∈ exporter.directories request, disk.place own <+: spot := by
  obtain ⟨bundle, code⟩ := locate_batchPlace exporter request proper
  simp [OutputPlace.Holds, bundle, code, directories]

theorem isUnder_batchPlace_iff (proper : ∀ name ∈ disk.home, Path.IsName name) {spot : Place} :
    (exporter.batchPlace disk request).IsUnder disk.home spot ↔
      ∃ own ∈ exporter.directories request, spot <+: disk.place own := by
  obtain ⟨bundle, code⟩ := locate_batchPlace exporter request proper
  simp [OutputPlace.IsUnder, bundle, code, directories]

theorem meets_of_blank {home : Place} {path : Path} (blank : path.text = "") (other : Path) :
    Meets home path other := by
  left
  rw [Memory.route, if_pos blank]
  exact List.nil_prefix

/-- Nothing inside the directories of one request lies inside or above those of another. -/
theorem Undisturbed.not_touches (undisturbed : exporter.Undisturbed disk request other)
    (proper : ∀ name ∈ disk.home, Path.IsName name) (level : exporter.Level disk request)
    (otherLevel : exporter.Level disk other) {spot : Place}
    (holds : (exporter.batchPlace disk request).Holds disk.home spot) :
    ¬(exporter.batchPlace disk other).Touches disk.home spot := by
  obtain ⟨own, mine, inside⟩ := (holds_batchPlace_iff proper).mp holds
  have apart (taken : Path) (theirs : taken ∈ exporter.directories other) :
      ¬(disk.place own <+: disk.place taken ∨ disk.place taken <+: disk.place own) := by
    have parted := undisturbed.parted own mine taken theirs
    rwa [Memory.meets_iff_of_isLevel proper
      ⟨fun blank => parted (meets_of_blank blank taken), level.directories own mine⟩
      ⟨fun blank => parted (meets_of_blank blank own).symm, otherLevel.directories taken theirs⟩]
      at parted
  rintro (within | under)
  · obtain ⟨taken, theirs, before⟩ := (holds_batchPlace_iff proper).mp within
    exact apart taken theirs (List.prefix_or_prefix_of_prefix inside before)
  · obtain ⟨taken, theirs, before⟩ := (isUnder_batchPlace_iff proper).mp under
    exact apart taken theirs (.inl (inside.trans before))

/-- Two requests of which neither lies or looks where the other one writes. -/
structure Detached (exporter : Exporter) (disk : Memory) (request other : ExportRequest) :
    Prop where
  clear : ∀ spot, (exporter.batchPlace disk request).Holds disk.home spot →
    ¬(exporter.batchPlace disk other).Touches disk.home spot
  cleared : ∀ spot, (exporter.batchPlace disk other).Holds disk.home spot →
    ¬(exporter.batchPlace disk request).Touches disk.home spot
  reads : exporter.ReadsApart disk request other
  read : exporter.ReadsApart disk other request

theorem Detached.symm (detached : exporter.Detached disk request other) :
    exporter.Detached disk other request :=
  ⟨detached.cleared, detached.clear, detached.read, detached.reads⟩

instance : Std.Symm (exporter.Detached disk) := ⟨fun _ _ => Detached.symm⟩

theorem Undisturbed.detached (undisturbed : exporter.Undisturbed disk request other)
    (proper : ∀ name ∈ disk.home, Path.IsName name) (level : exporter.Level disk request)
    (otherLevel : exporter.Level disk other) : exporter.Detached disk request other where
  clear := fun _ => undisturbed.not_touches proper level otherLevel
  cleared := fun _ => undisturbed.symm.not_touches proper otherLevel level
  reads := undisturbed.reads
  read := undisturbed.read

/-- Among files that agree on what it reads, a request is exported with the same outcome. What
it leaves is the same where the files agree, and what it changes is confined in both. -/
theorem exportAlone_of_agree {shared : Place → Prop} (inside : exporter.AsksInside disk request)
    (agree : Agree disk.home shared ((exporter.batchPlace disk request).IsUnder disk.home) disk
      memory)
    (reads : ∀ path, exporter.Reads request disk path →
      ∀ spot, disk.place path <+: spot → shared spot) :
    let place := exporter.batchPlace disk request
    (exporter.exportAlone request disk).1 = (exporter.exportAlone request memory).1 ∧
      (∀ spot, shared spot → (exporter.exportAlone request disk).2.tree.get? spot =
        (exporter.exportAlone request memory).2.tree.get? spot) ∧
      Confined (place.Holds disk.home) (place.IsUnder disk.home) memory
        (exporter.exportAlone request memory).2 := by
  intro place
  have exports := lockstep_exportedProject request
    (fun _ before => .inr (.inl before)) (fun _ before => .inr (.inr before))
    (fun resource listed named => .inl (reads _ (.resource listed named) _ List.prefix_rfl))
    .empty ⟨disk, .empty⟩ ⟨memory, .empty⟩ ⟨rfl, List.prefix_rfl, agree⟩
  have asks (exported : Project) (session : Session Memory)
      (ran : (exportedProject request (exporter.batchPlace memory request)).start memory =
        (.ok exported, session)) : exporter.AsksLevel request exported := by
    rw [batchPlace_of_home agree.otherBase] at ran
    have first : ((exportedProject request place).start disk).1 = .ok exported :=
      exports.outcome.trans (congrArg Prod.fst ran)
    exact inside exported _ (Prod.ext first rfl)
  have confined := confined_of_asksLevel asks
  rw [← batchPlace, batchPlace_of_home agree.otherBase, agree.otherBase] at confined
  have built : Alike (fun _ => Abreast (Agree disk.home shared (place.IsUnder disk.home)) .empty)
      (Abreast (Agree disk.home shared (place.IsUnder disk.home)) .empty)
      ((exporter.build request place).start disk) ((exporter.build request place).start memory) := by
    refine Work.Lockstep.bindAt exports fun exported session ran => ?_
    refine .mono ((inside exported session ran).steady_assemble
      (isAbsolute_outputPlace request _ disk) (namesFiles_exportedProject ran) ?_
      (fun spot => .inr) ?_ ?_) (fun _ _ => id) ?_ ?_
    · exact fun spot below => .inl (reads _ .runtime spot below)
    · intro script member
      obtain ⟨source, listed, javascript, same⟩ := ExternalScript.exists_source_of_mem member
      rw [(exportedProject_declares ran).2.2] at listed
      rw [same, exportedProject_directory ran]
      exact .inl (reads _ (.external listed javascript) _ List.prefix_rfl)
    · exact fun script kept asked absolute =>
        .inl (reads _ (.script ran kept asked absolute) _ List.prefix_rfl)
    · exact fun _ x y held => held.mono (fun _ => .inl) fun _ => .inr
    · exact fun x y held => held.mono (fun _ => .inl) fun _ => .inr
  obtain ⟨same, files⟩ := alike_exportWith agree.otherBase built
  exact ⟨same, ((or_self_iff).mp files).tree.same, confined⟩

def leaves (exporter : Exporter) (request : ExportRequest) (disk : Memory) (spot : Place) :
    Option Node :=
  (exporter.exportAlone request disk).2.tree.get? spot

/-- The files after some requests: a place is as one of them leaves it that changes it, or as
it was when none does. -/
structure Merged (exporter : Exporter) (disk : Memory) (done : List ExportRequest)
    (memory : Memory) : Prop where
  home : memory.home = disk.home
  denied : memory.denied = disk.denied
  changed : ∀ request ∈ done, ∀ spot,
    exporter.leaves request disk spot ≠ disk.tree.get? spot →
      memory.tree.get? spot = exporter.leaves request disk spot
  untouched : ∀ spot,
    (∀ request ∈ done, exporter.leaves request disk spot = disk.tree.get? spot) →
      memory.tree.get? spot = disk.tree.get? spot

/-- The files after a request of its own are confined to its directories. -/
theorem AsksInside.confined (inside : exporter.AsksInside disk request) :
    Confined ((exporter.batchPlace disk request).Holds disk.home)
      ((exporter.batchPlace disk request).IsUnder disk.home) disk
      (exporter.exportAlone request disk).2 :=
  confined_of_asksLevel inside

theorem AsksInside.touches_of_changed (inside : exporter.AsksInside disk request) {spot : Place}
    (differs : exporter.leaves request disk spot ≠ disk.tree.get? spot) :
    (exporter.batchPlace disk request).Touches disk.home spot := by
  rcases inside.confined.tree spot with holds | same | ⟨under, -⟩
  · exact .inl holds
  · exact absurd same differs
  · exact .inr under

namespace Merged

variable {done : List ExportRequest} {last : Memory}

theorem start (exporter : Exporter) (disk : Memory) : exporter.Merged disk [] disk where
  home := rfl
  denied := rfl
  changed := fun request member => by cases member
  untouched := fun _ _ => rfl

/-- The files do not depend on the order of the requests. -/
theorem unique {order : List ExportRequest} (merged : exporter.Merged disk done memory)
    (again : exporter.Merged disk order last) (same : ∀ request, request ∈ done ↔ request ∈ order)
    (spot : Place) : memory.tree.get? spot = last.tree.get? spot := by
  by_cases quiet : ∀ request ∈ done, exporter.leaves request disk spot = disk.tree.get? spot
  · rw [merged.untouched spot quiet]
    exact (again.untouched spot fun request member => quiet request ((same request).mpr member)).symm
  · push Not at quiet
    obtain ⟨request, member, differs⟩ := quiet
    rw [merged.changed request member spot differs]
    exact (again.changed request ((same request).mp member) spot differs).symm

/-- A place that changed lies inside the directories of a request, or is a directory that was
missing above them. -/
theorem cases (merged : exporter.Merged disk done memory)
    (insides : ∀ request ∈ done, exporter.AsksInside disk request) (spot : Place) :
    memory.tree.get? spot = disk.tree.get? spot ∨ ∃ request ∈ done,
      (exporter.batchPlace disk request).Holds disk.home spot ∨
        (exporter.batchPlace disk request).IsUnder disk.home spot ∧
          disk.tree.get? spot = none ∧ memory.tree.get? spot = some .directory := by
  by_cases quiet : ∀ request ∈ done, exporter.leaves request disk spot = disk.tree.get? spot
  · exact .inl (merged.untouched spot quiet)
  · push Not at quiet
    obtain ⟨request, member, differs⟩ := quiet
    have now := merged.changed request member spot differs
    rcases (insides request member).confined.tree spot with holds | same | ⟨under, absent, made⟩
    · exact .inr ⟨request, member, .inl holds⟩
    · exact absurd same differs
    · exact .inr ⟨request, member, .inr ⟨under, absent, now.trans made⟩⟩

theorem same_of_apart (merged : exporter.Merged disk done memory)
    (proper : ∀ name ∈ disk.home, Path.IsName name)
    (insides : ∀ request ∈ done, exporter.AsksInside disk request) {path : Path}
    (apart : ∀ request ∈ done, ∀ taken ∈ exporter.directories request,
      ¬disk.place path <+: disk.place taken ∧ ¬disk.place taken <+: disk.place path)
    {spot : Place} (inside : disk.place path <+: spot) :
    disk.tree.get? spot = memory.tree.get? spot := by
  rcases merged.cases insides spot with same | ⟨request, member, holds | ⟨under, -⟩⟩
  · exact same.symm
  · obtain ⟨taken, theirs, before⟩ := (holds_batchPlace_iff proper).mp holds
    obtain ⟨above, below⟩ := apart request member taken theirs
    exact absurd (List.prefix_or_prefix_of_prefix inside before) (not_or.mpr ⟨above, below⟩)
  · obtain ⟨taken, theirs, before⟩ := (isUnder_batchPlace_iff proper).mp under
    exact absurd (inside.trans before) (apart request member taken theirs).1

/-- On the way to the directories of a request still to come, the same places are files. -/
theorem agree (merged : exporter.Merged disk done memory)
    (insides : ∀ other ∈ done, exporter.AsksInside disk other)
    (detached : ∀ other ∈ done, exporter.Detached disk request other) :
    Agree disk.home (fun spot => disk.tree.get? spot = memory.tree.get? spot)
      ((exporter.batchPlace disk request).IsUnder disk.home) disk memory where
  base := rfl
  otherBase := merged.home
  denied := merged.denied.symm
  tree := by
    refine ⟨fun _ => id, fun spot under => ?_⟩
    rcases merged.cases insides spot with same | ⟨other, member, holds | ⟨-, absent, made⟩⟩
    · exact Tree.isFile_congr same.symm
    · exact absurd (.inr under) ((detached other member).cleared spot holds)
    · unfold Tree.isFile
      rw [absent, made]

/-- One more request that nothing disturbs is answered as on its own. -/
theorem step (merged : exporter.Merged disk done memory)
    (proper : ∀ name ∈ disk.home, Path.IsName name) (inside : exporter.AsksInside disk request)
    (insides : ∀ other ∈ done, exporter.AsksInside disk other)
    (detached : ∀ other ∈ done, exporter.Detached disk request other) :
    (exporter.exportAlone request memory).1 = (exporter.exportAlone request disk).1 ∧
      exporter.Merged disk (done ++ [request]) (exporter.exportAlone request memory).2 := by
  have reads (path : Path) (read : exporter.Reads request disk path) (spot : Place)
      (below : disk.place path <+: spot) : disk.tree.get? spot = memory.tree.get? spot :=
    merged.same_of_apart proper insides
      (fun other member taken theirs => (detached other member).reads path read taken theirs)
      below
  obtain ⟨same, files, confined⟩ :=
    exportAlone_of_agree inside (merged.agree insides detached) reads
  have apart {spot : Place} {other : ExportRequest} (member : other ∈ done)
      (holds : (exporter.batchPlace disk other).Holds disk.home spot) :
      ¬(exporter.batchPlace disk request).Touches disk.home spot :=
    (detached other member).cleared spot holds
  have passed {spot : Place} {other : ExportRequest} (member : other ∈ done)
      (under : (exporter.batchPlace disk other).IsUnder disk.home spot)
      (made : memory.tree.get? spot = some .directory) :
      (exporter.exportAlone request memory).2.tree.get? spot = some .directory := by
    rcases confined.tree spot with holds | unchanged | ⟨-, absent, -⟩
    · exact absurd (.inr under) ((detached other member).clear spot holds)
    · exact unchanged.trans made
    · rw [made] at absent
      cases absent
  refine ⟨same.symm, confined.home.trans merged.home, confined.denied.trans merged.denied, ?_, ?_⟩
  · intro other member spot differs
    rcases List.mem_append.mp member with earlier | now
    · have before := merged.changed other earlier spot differs
      rcases (insides other earlier).confined.tree spot with holds | equal | ⟨under, -, made⟩
      · rcases confined.tree spot with within | unchanged | ⟨above, -⟩
        · exact absurd (.inl within) (apart earlier holds)
        · exact unchanged.trans before
        · exact absurd (.inr above) (apart earlier holds)
      · exact absurd equal differs
      · exact (passed earlier under (before.trans made)).trans made.symm
    · obtain rfl := List.mem_singleton.mp now
      rcases merged.cases insides spot with equal | ⟨earlier, before, holds | ⟨under, absent, made⟩⟩
      · exact (files spot equal.symm).symm
      · exact absurd (inside.touches_of_changed differs) (apart before holds)
      · rw [passed before under made]
        rcases inside.confined.tree spot with within | equal | ⟨-, -, also⟩
        · exact absurd (.inr under) ((detached earlier before).clear spot within)
        · exact absurd equal differs
        · exact also.symm
  · intro spot quiet
    have before := merged.untouched spot fun other member =>
      quiet other (List.mem_append_left _ member)
    rw [← files spot before.symm]
    exact quiet request (List.mem_append_right _ List.mem_cons_self)

theorem inTurn_of_detached (merged : exporter.Merged disk done memory)
    (proper : ∀ name ∈ disk.home, Path.IsName name) {rest : List ExportRequest}
    (insides : ∀ request ∈ done ++ rest, exporter.AsksInside disk request)
    (detached : (done ++ rest).Pairwise (exporter.Detached disk)) :
    (exporter.exportInTurn rest memory).1 =
        rest.map (fun request => (exporter.exportAlone request disk).1) ∧
      exporter.Merged disk (done ++ rest) (exporter.exportInTurn rest memory).2 := by
  induction rest generalizing done memory with
  | nil =>
    rw [List.append_nil]
    exact ⟨rfl, merged⟩
  | cons request rest ih =>
    have apart := (List.pairwise_append.mp detached).2.2
    obtain ⟨same, next⟩ := merged.step proper (insides request (by simp))
      (fun other member => insides other (by simp [member]))
      fun other member => (apart other member request List.mem_cons_self).symm
    have whole : done ++ request :: rest = done ++ [request] ++ rest := by simp
    rw [whole] at insides detached ⊢
    obtain ⟨outcomes, last⟩ := ih next insides detached
    refine ⟨?_, last⟩
    rw [List.map_cons, ← outcomes, ← same]
    rfl

theorem own (merged : exporter.Merged disk done memory)
    (insides : ∀ request ∈ done, exporter.AsksInside disk request)
    (detached : done.Pairwise (exporter.Detached disk)) (member : request ∈ done) {spot : Place}
    (holds : (exporter.batchPlace disk request).Holds disk.home spot) :
    memory.tree.get? spot = exporter.leaves request disk spot := by
  by_cases quiet : exporter.leaves request disk spot = disk.tree.get? spot
  · rw [quiet]
    refine merged.untouched spot fun other listed => ?_
    by_cases same : request = other
    · exact same ▸ quiet
    · by_contra differs
      have apart := detached.forall member listed same
      exact apart.clear spot holds ((insides other listed).touches_of_changed differs)
  · exact merged.changed request member spot quiet

/-- Exported in turn, requests that nothing disturbs are each answered as on their own. -/
theorem inTurn (merged : exporter.Merged disk done memory)
    (proper : ∀ name ∈ disk.home, Path.IsName name) {rest : List ExportRequest}
    (levels : ∀ request ∈ done ++ rest, exporter.Level disk request)
    (undisturbed : (done ++ rest).Pairwise (exporter.Undisturbed disk)) :
    (exporter.exportInTurn rest memory).1 =
        rest.map (fun request => (exporter.exportAlone request disk).1) ∧
      exporter.Merged disk (done ++ rest) (exporter.exportInTurn rest memory).2 :=
  merged.inTurn_of_detached proper (fun request member => (levels request member).asks)
    (undisturbed.imp_of_mem fun mine theirs held =>
      held.detached proper (levels _ mine) (levels _ theirs))

end Merged

/-- A batch that turns nothing down, without double dots in paths, whose requests read apart
from what others write, can be exported in any order. Every request is answered as on its
own, whether it succeeds or fails, and the files in the end are always the same. -/
theorem exportAll_perm (exporter : Exporter) {requests order : List ExportRequest} (disk : Memory)
    (reordered : order.Perm requests) (proper : ∀ name ∈ disk.home, Path.IsName name)
    (accepted : ∀ flaw, .error (.settings flaw) ∉ (exporter.exportAll requests disk).1)
    (level : ∀ request ∈ requests, exporter.Level disk request)
    (apart : ∀ request ∈ requests, ∀ other ∈ requests, other ≠ request →
      exporter.ReadsApart disk request other) :
    (exporter.exportAll order disk).1 = order.map (fun request =>
        (exporter.exportWith request (exporter.batchCodeDirectory request) disk).1) ∧
      ∀ spot, (exporter.exportAll order disk).2.tree.get? spot =
        (exporter.exportAll requests disk).2.tree.get? spot := by
  have undisturbed : requests.Pairwise (exporter.Undisturbed disk) := by
    refine (accepted_iff.mp accepted).imp_of_mem fun {one other} mine theirs parted => ?_
    have differ : other ≠ one := by
      rintro rfl
      exact parted _ List.mem_cons_self _ List.mem_cons_self (.inl List.prefix_rfl)
    exact ⟨parted, apart one mine other theirs differ, apart other theirs one mine differ.symm⟩
  have run {order : List ExportRequest} (reordered : order.Perm requests) :
      (exporter.exportAll order disk).1 =
          order.map (fun request => (exporter.exportAlone request disk).1) ∧
        exporter.Merged disk order (exporter.exportAll order disk).2 := by
    have fair : order.Pairwise (exporter.Undisturbed disk) :=
      (reordered.pairwise_iff fun held => held.symm).mpr undisturbed
    have inTurn : exporter.exportAll order disk = exporter.exportInTurn order disk :=
      exportBatch_of_parted [] rfl (fair.imp Undisturbed.parted)
        fun _ _ _ member => by cases member
    rw [inTurn]
    exact (Merged.start exporter disk).inTurn proper
      (fun request member => level request (reordered.mem_iff.mp member)) fair
  obtain ⟨outcomes, merged⟩ := run reordered
  exact ⟨outcomes, merged.unique (run (.refl requests)).2 fun _ => reordered.mem_iff⟩

def phoneRequest : ExportRequest :=
  { heroRequest with target := .cordova, directory := ⟨"/phone"⟩ }

/-- A project without extensions and layouts asks for no scripts. -/
theorem requested_of_bare {request : ExportRequest}
    (extensions : request.project.extensions = []) (layouts : request.project.layouts = [])
    {place : OutputPlace} {exported : Project} {session : Session Memory}
    (ran : (exportedProject request place).start disk = (.ok exported, session)) :
    LoadOrder.requested exporter.events request.target.profile exported = [] := by
  obtain ⟨noExtensions, noLayouts, -⟩ := exportedProject_declares ran
  rw [extensions] at noExtensions
  rw [layouts] at noLayouts
  have effects : LoadOrder.effects exported = [] := by
    simp [LoadOrder.effects, Project.effectTypes, noLayouts]
  simp [LoadOrder.requested, effects, noExtensions, noLayouts]

theorem hero_order_free :
    (lone.exportAll [phoneRequest, heroRequest] heroDisk).1 =
        [(lone.exportWith phoneRequest ⟨"/phone/code"⟩ heroDisk).1,
          (lone.exportWith heroRequest ⟨"/out/code"⟩ heroDisk).1] ∧
      ∀ spot, (lone.exportAll [phoneRequest, heroRequest] heroDisk).2.tree.get? spot =
        (lone.exportAll [heroRequest, phoneRequest] heroDisk).2.tree.get? spot := by
  have reads {request : ExportRequest} (project : request.project = heroRequest.project)
      {path : Path} (read : lone.Reads request heroDisk path) :
      heroDisk.place path = ["rt", "Runtime"] ∨ heroDisk.place path = ["game", "hero.png"] := by
    cases read with
    | runtime => exact .inl rfl
    | resource listed named =>
      rw [project] at listed ⊢
      obtain rfl := List.mem_singleton.mp listed
      exact .inr rfl
    | external listed language =>
      rw [project] at listed
      cases listed
    | script ran kept asked absolute =>
      rw [requested_of_bare (by rw [project]; rfl) (by rw [project]; rfl) ran] at asked
      cases asked
  have outputs : ∀ request ∈ [heroRequest, phoneRequest], ∀ taken ∈ lone.directories request,
      heroDisk.place taken ∈ [["out"], ["out", "code"], ["phone"], ["phone", "code"]] := by
    decide +kernel
  have sameProject : ∀ request ∈ [heroRequest, phoneRequest],
      request.project = heroRequest.project := by
    simp [phoneRequest]
  have apart : ∀ request ∈ [heroRequest, phoneRequest], ∀ other ∈ [heroRequest, phoneRequest],
      other ≠ request → lone.ReadsApart heroDisk request other := by
    intro request mine other theirs _ path read taken listed
    have inside := outputs other theirs taken listed
    generalize heroDisk.place taken = spot at inside
    rcases reads (sameProject request mine) read with same | same
    all_goals
      rw [same]
      revert spot
      decide
  have accepted : ∀ flaw, .error (.settings flaw) ∉
      (lone.exportAll [heroRequest, phoneRequest] heroDisk).1 := by
    rw [accepted_iff, List.pairwise_pair]
    unfold Parted Meets
    decide +kernel
  have level : ∀ request ∈ [heroRequest, phoneRequest], lone.Level heroDisk request := by
    intro request mine
    refine ⟨?_, fun exported session ran script asked => ?_⟩
    · revert request
      decide +kernel
    · have project := sameProject request mine
      rw [requested_of_bare (by rw [project]; rfl) (by rw [project]; rfl) ran] at asked
      cases asked
  have codes : lone.batchCodeDirectory phoneRequest = ⟨"/phone/code"⟩ ∧
      lone.batchCodeDirectory heroRequest = ⟨"/out/code"⟩ := by decide +kernel
  rw [← codes.1, ← codes.2]
  exact exportAll_perm lone heroDisk (.swap _ _ _) (by decide) accepted level apart

end GameBundle.Exporter
