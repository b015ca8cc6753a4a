import GameBundle.Proofs.Bundle.BatchOrder
import GameBundle.Proofs.Bundle.Fingerprint

/-!
# Exports side by side

The exports of a batch may have their directories side by side in a common one, each named after
its target. Such directories do not meet. If the exports read nothing of the common directory and
ask for no scripts outside of their own, each leaves in its own directory what it leaves there when
it is the only one.
-/

namespace GameBundle

open GameBundle.Path (IsName Component)
open Memory (locate route stem)

theorem Target.isName_name (target : Target) : IsName target.name := by
  cases target <;> decide

theorem Target.name_injective : Function.Injective Target.name := by
  intro target other same
  have named := congrArg Target.ofName? same
  rwa [Target.ofName?_name, Target.ofName?_name, Option.some.injEq] at named

namespace Exporter

variable {exporter : Exporter} {output : Path} {disk : Memory} {request other : ExportRequest}

/-- A request whose bundle, with its code, has the directory of its target in a common one. -/
structure Sibling (exporter : Exporter) (output : Path) (request : ExportRequest) : Prop where
  directory : request.directory = output / request.target.name
  joined : exporter.settings.codeDirectory = none

def ReadsClear (exporter : Exporter) (disk : Memory) (output : Path) (request : ExportRequest) :
    Prop :=
  ∀ path, exporter.Reads request disk path →
    ¬disk.place path <+: disk.place output ∧ ¬disk.place output <+: disk.place path

/-- What comes behind a place on the way to another. -/
theorem eq_of_prefix_concat {α : Type} {front spot : List α} {one two : α}
    (first : front ++ [one] <+: spot) (second : front ++ [two] <+: spot) : one = two := by
  obtain ⟨rest, rfl⟩ := first
  rw [List.append_assoc, List.prefix_append_right_inj] at second
  exact (List.cons_prefix_cons.mp second).1.symm

namespace Sibling

theorem lies (sibling : exporter.Sibling output request) (home : Place) {taken : Path}
    (theirs : taken ∈ exporter.directories request) :
    locate home output ++ [request.target.name] <+: locate home taken ∧
      stem home output ++ [Component.name request.target.name] <+: route home taken := by
  have named := request.target.isName_name
  have code : IsName "code" := by decide
  have places : taken = output / request.target.name ∨
      taken = output / request.target.name / "code" := by
    simpa [directories, batchCodeDirectory, sibling.joined, sibling.directory] using theirs
  rcases places with rfl | rfl
  · rw [Memory.locate_join_name named, Memory.route_join_name home named]
    exact ⟨List.prefix_rfl, List.prefix_rfl⟩
  · rw [Memory.locate_join_name code, Memory.locate_join_name named,
      Memory.route_join_name home code, Memory.stem_join_name named,
      Memory.route_join_name home named]
    exact ⟨List.prefix_append _ _, List.prefix_append _ _⟩

theorem parted {home : Place} (one : exporter.Sibling output request)
    (two : exporter.Sibling output other) (differ : request.target ≠ other.target) :
    exporter.Parted home request other := by
  intro own mine taken theirs meets
  have here := (one.lies home mine).2
  have there := (two.lies home theirs).2
  have same : Component.name request.target.name = Component.name other.target.name := by
    rcases meets with before | behind
    · exact eq_of_prefix_concat (here.trans before) there
    · exact eq_of_prefix_concat here (there.trans behind)
  exact differ (Target.name_injective (Component.name.inj same))

/-- Nothing inside a directory of one target lies inside or above one of another target. -/
theorem apart (one : exporter.Sibling output request) (two : exporter.Sibling output other)
    (differ : request.target ≠ other.target) {own taken : Path}
    (mine : own ∈ exporter.directories request) (theirs : taken ∈ exporter.directories other)
    {spot : Place} (inside : disk.place own <+: spot) :
    ¬disk.place taken <+: spot ∧ ¬spot <+: disk.place taken := by
  have here := (one.lies disk.home mine).1.trans inside
  have there := (two.lies disk.home theirs).1
  have differs : request.target.name ≠ other.target.name := Target.name_injective.ne differ
  exact ⟨fun before => differs (eq_of_prefix_concat here (there.trans before)),
    fun before => differs (eq_of_prefix_concat (here.trans before) there)⟩

theorem readsApart (sibling : exporter.Sibling output other)
    (clear : exporter.ReadsClear disk output request) :
    exporter.ReadsApart disk request other := by
  intro path read taken theirs
  obtain ⟨above, below⟩ := clear path read
  have inside : disk.place output <+: disk.place taken :=
    (List.prefix_append _ _).trans (sibling.lies disk.home theirs).1
  constructor
  · intro before
    rcases List.prefix_or_prefix_of_prefix before inside with under | around
    · exact above under
    · exact below around
  · exact fun before => below (inside.trans before)

theorem not_touches (proper : ∀ name ∈ disk.home, IsName name)
    (one : exporter.Sibling output request) (two : exporter.Sibling output other)
    (differ : request.target ≠ other.target) {spot : Place}
    (holds : (exporter.batchPlace disk request).Holds disk.home spot) :
    ¬(exporter.batchPlace disk other).Touches disk.home spot := by
  obtain ⟨own, mine, inside⟩ := (holds_batchPlace_iff proper).mp holds
  rintro (within | under)
  · obtain ⟨taken, theirs, before⟩ := (holds_batchPlace_iff proper).mp within
    exact (one.apart two differ mine theirs inside).1 before
  · obtain ⟨taken, theirs, before⟩ := (isUnder_batchPlace_iff proper).mp under
    exact (one.apart two differ mine theirs inside).2 before

theorem detached (proper : ∀ name ∈ disk.home, IsName name)
    (one : exporter.Sibling output request) (two : exporter.Sibling output other)
    (differ : request.target ≠ other.target) (clear : exporter.ReadsClear disk output request)
    (otherClear : exporter.ReadsClear disk output other) :
    exporter.Detached disk request other where
  clear := fun _ => one.not_touches proper two differ
  cleared := fun _ => two.not_touches proper one differ.symm
  reads := two.readsApart clear
  read := one.readsApart otherClear

end Sibling

/-- Exports side by side are each answered as on their own, and leave in their own directories what
they leave there on their own. -/
theorem exportAll_siblings {requests : List ExportRequest}
    (proper : ∀ name ∈ disk.home, IsName name)
    (siblings : ∀ request ∈ requests, exporter.Sibling output request)
    (distinct : requests.Pairwise fun request other => request.target ≠ other.target)
    (insides : ∀ request ∈ requests, exporter.AsksInside disk request)
    (clear : ∀ request ∈ requests, exporter.ReadsClear disk output request) :
    (exporter.exportAll requests disk).1 =
        requests.map (fun request => (exporter.exportAlone request disk).1) ∧
      ∀ request ∈ requests, ∀ spot, disk.place request.directory <+: spot →
        (exporter.exportAll requests disk).2.tree.get? spot = exporter.leaves request disk spot := by
  have parted : requests.Pairwise (exporter.Parted disk.home) :=
    distinct.imp_of_mem fun mine theirs differ => (siblings _ mine).parted (siblings _ theirs) differ
  have detached : requests.Pairwise (exporter.Detached disk) :=
    distinct.imp_of_mem fun mine theirs differ =>
      (siblings _ mine).detached proper (siblings _ theirs) differ (clear _ mine) (clear _ theirs)
  have inTurn : exporter.exportAll requests disk = exporter.exportInTurn requests disk :=
    exportBatch_of_parted [] rfl parted fun _ _ _ member => by cases member
  obtain ⟨outcomes, merged⟩ :=
    (Merged.start exporter disk).inTurn_of_detached proper insides detached
  rw [inTurn]
  refine ⟨outcomes, fun request member spot inside => merged.own insides detached member ?_⟩
  exact (holds_batchPlace_iff proper).mpr ⟨_, List.mem_cons_self, inside⟩

section

variable {hashes : Dictionary Nat}

theorem leaves_withHashes
    (alike : ∀ exported session,
      (exportedProject request (exporter.batchPlace disk request)).start disk =
        (.ok exported, session) →
      exporter.TellsAlike request (exporter.batchPlace disk request) exported hashes
        request.hashes) (spot : Place) :
    exporter.leaves (request.withHashes hashes) disk spot = exporter.leaves request disk spot :=
  congrArg (fun run => run.2.tree.get? spot) (exportWith_withHashes alike)

/-- Exports of a sibling that differ in fingerprints and leave the same data tell the game the
same. -/
theorem Sibling.tellsAlike {output : Path} (sibling : exporter.Sibling output request)
    (proper : ∀ name ∈ disk.home, IsName name) (words : request.hashes.HasWords)
    (otherWords : hashes.HasWords)
    (keeps : exporter.KeepsData request (exporter.batchPlace disk request) disk)
    {report other : ExportReport} (done : (exporter.exportAlone request disk).1 = .ok report)
    (again : (exporter.exportAlone (request.withHashes hashes) disk).1 = .ok other)
    (same : exporter.leaves request disk (disk.place (request.directory / "code" / "data.js")) =
      exporter.leaves (request.withHashes hashes) disk
        (disk.place (request.directory / "code" / "data.js"))) :
    ∀ exported session,
      (exportedProject request (exporter.batchPlace disk request)).start disk =
        (.ok exported, session) →
      exporter.TellsAlike request (exporter.batchPlace disk request) exported hashes
        request.hashes := by
  intro exported session ran
  have code : exporter.batchCodeDirectory request = request.directory / "code" := by
    rw [batchCodeDirectory, sibling.joined]
  have rooted : (outputPlace request (exporter.batchCodeDirectory request) disk).code.isAbsolute =
      true := by
    rw [code]
    exact Path.isAbsolute_absolute (Path.text_join_ne (by decide)) (Place.isAbsolute_text disk.home)
  have data : locate disk.home
      ((outputPlace request (exporter.batchCodeDirectory request) disk).code / "data.js") =
        disk.place (request.directory / "code" / "data.js") := by
    have isName : IsName "data.js" := by decide
    rw [Memory.locate_join_name isName, Memory.place, Memory.locate_join_name isName, ← code]
    exact congrArg (· ++ _) (Memory.place_absolute proper _)
  rw [← data] at same
  obtain ⟨found, _, first, alike⟩ := tellsAlike_of_data words otherWords rooted keeps
    (Prod.ext done rfl) (Prod.ext again rfl) same
  rw [← batchPlace, ran] at first
  obtain rfl : exported = found := Except.ok.inj (congrArg Prod.fst first)
  exact alike

end

end Exporter

end GameBundle
