import GameBundle.Bundle.Batch
import GameBundle.Proofs.Bundle.Containment

/-!
# Requests that are turned down

A batch answers every request in order. A request is turned down exactly when one of its
directories meets one of an earlier request, and is exported on its own otherwise. Two
directories meet when the route of one begins that of the other. Routes keep double dots;
where there are none, directories meet exactly when their places do.
-/

namespace GameBundle

open Memory (locate route IsLevel)

theorem Path.overlaps_iff {path other : Path} : path.overlaps other = true ↔
    path.components <+: other.components ∨ other.components <+: path.components := by
  unfold overlaps startsWith
  rw [Bool.or_eq_true, List.isPrefixOf_iff_prefix, List.isPrefixOf_iff_prefix, or_comm]

namespace Memory

/-- Whether the route of one path begins that of the other. -/
def Meets (home : Place) (path other : Path) : Prop :=
  route home path <+: route home other ∨ route home other <+: route home path

theorem overlaps_absolute_iff {memory : Memory} {path other : Path} :
    (Storage.absolute path memory).overlaps (Storage.absolute other memory) = true ↔
      Meets memory.home path other := by
  rw [Path.overlaps_iff, components_absolute, components_absolute, Meets]

/-- Paths without double dots meet exactly when the place of one begins that of the other. -/
theorem meets_iff_of_isLevel {home : Place} (proper : ∀ name ∈ home, Path.IsName name)
    {path other : Path} (level : IsLevel path) (otherLevel : IsLevel other) :
    Meets home path other ↔
      locate home path <+: locate home other ∨ locate home other <+: locate home path := by
  rw [Meets, prefix_route_iff proper level otherLevel, prefix_route_iff proper otherLevel level]

end Memory

namespace Exporter

variable {exporter : Exporter} {request : ExportRequest} {disk : Memory}

def directories (exporter : Exporter) (request : ExportRequest) : List Path :=
  [request.directory, exporter.batchCodeDirectory request]

/-- Whether a directory of a request meets one of an earlier request. -/
def Clashes (exporter : Exporter) (home : Place) (request : ExportRequest)
    (earlier : List ExportRequest) : Prop :=
  ∃ other ∈ earlier, ∃ own ∈ exporter.directories request,
    ∃ taken ∈ exporter.directories other, Memory.Meets home own taken

theorem batchPlace_of_home {other : Memory} (same : other.home = disk.home)
    (request : ExportRequest) : exporter.batchPlace other request = exporter.batchPlace disk request :=
  outputPlace_of_home same request (exporter.batchCodeDirectory request)

theorem isSome_conflict_iff (exporter : Exporter) (disk : Memory) (request : ExportRequest)
    (earlier : List ExportRequest) :
    ((earlier.map (exporter.batchPlace disk)).findSome?
      (exporter.batchPlace disk request).conflict?).isSome = true ↔
        exporter.Clashes disk.home request earlier := by
  have one (other : ExportRequest) :
      ((exporter.batchPlace disk request).conflict? (exporter.batchPlace disk other)).isSome =
        true ↔ ∃ own ∈ exporter.directories request, ∃ taken ∈ exporter.directories other,
          Memory.Meets disk.home own taken := by
    have spots (request : ExportRequest) : exporter.batchPlace disk request =
        ⟨Storage.absolute request.directory disk,
          Storage.absolute (exporter.batchCodeDirectory request) disk⟩ := rfl
    rw [OutputPlace.conflict?, spots, spots, List.find?_isSome]
    simp only [OutputPlace.overlaps, directories, List.mem_cons, List.not_mem_nil, or_false,
      exists_eq_or_imp, exists_eq_left, Bool.or_eq_true, Memory.overlaps_absolute_iff]
  rw [List.findSome?_isSome_iff]
  simp only [List.mem_map, exists_exists_and_eq_and, one]
  rfl

/-- A single export never finds fault with settings. -/
theorem exportWith_ne_settings {σ : Type} [Storage σ] (codeDirectory : Path) (disk : σ)
    (flaw : SettingsFlaw) :
    (exporter.exportWith request codeDirectory disk).1 ≠ .error (.settings flaw) := by
  intro failed
  change (((exporter.build request (outputPlace request codeDirectory disk)).start disk).1.bind
    fun report => report.verdict (request.strict || exporter.settings.strict)) = _ at failed
  cases made : ((exporter.build request (outputPlace request codeDirectory disk)).start disk).1 with
  | error fault =>
    rw [made] at failed
    cases failed
    exact isOfFiles_build made
  | ok report =>
    rw [made] at failed
    change report.verdict _ = _ at failed
    unfold ExportReport.verdict at failed
    split at failed <;> cases failed

theorem exportApart_of_conflict {earlier : List OutputPlace}
    (conflict : (earlier.findSome? (exporter.batchPlace disk request).conflict?).isSome = true) :
    ∃ flaw, exporter.exportApart earlier request disk = (.error (.settings flaw), disk) := by
  obtain ⟨directory, found⟩ := Option.isSome_iff_exists.mp conflict
  unfold exportApart
  rw [found]
  exact ⟨_, rfl⟩

theorem exportApart_of_apart {earlier : List OutputPlace}
    (apart : ¬(earlier.findSome? (exporter.batchPlace disk request).conflict?).isSome = true) :
    exporter.exportApart earlier request disk =
      exporter.exportWith request (exporter.batchCodeDirectory request) disk := by
  unfold exportApart
  rw [Option.not_isSome_iff_eq_none.mp apart]

theorem home_exportApart (earlier : List OutputPlace) (request : ExportRequest) (disk : Memory) :
    (exporter.exportApart earlier request disk).2.home = disk.home := by
  unfold exportApart
  split
  · rfl
  · exact home_exportWith exporter request _ disk

theorem exportBatch_cons (earlier : List OutputPlace) (request : ExportRequest)
    (rest : List ExportRequest) (disk : Memory) :
    exporter.exportBatch earlier (request :: rest) disk =
      let (outcome, changed) := exporter.exportApart earlier request disk
      let (outcomes, final) :=
        exporter.exportBatch (earlier ++ [exporter.batchPlace disk request]) rest changed
      (outcome :: outcomes, final) := rfl

theorem length_exportBatch (earlier : List OutputPlace) (requests : List ExportRequest)
    (disk : Memory) : (exporter.exportBatch earlier requests disk).1.length = requests.length := by
  induction requests generalizing earlier disk with
  | nil => rfl
  | cons request rest ih =>
    rw [exportBatch_cons]
    exact congrArg (· + 1) (ih _ _)

theorem home_exportBatch (earlier : List OutputPlace) (requests : List ExportRequest)
    (disk : Memory) : (exporter.exportBatch earlier requests disk).2.home = disk.home := by
  induction requests generalizing earlier disk with
  | nil => rfl
  | cons request rest ih =>
    rw [exportBatch_cons]
    exact (ih _ _).trans (home_exportApart earlier request disk)

/-- A batch goes through its requests in order. What comes later knows the places of what
came before, which depend on the home alone. -/
theorem exportBatch_append (earlier : List OutputPlace) (front back : List ExportRequest)
    (disk : Memory) :
    exporter.exportBatch earlier (front ++ back) disk =
      let (first, middle) := exporter.exportBatch earlier front disk
      let (rest, final) :=
        exporter.exportBatch (earlier ++ front.map (exporter.batchPlace disk)) back middle
      (first ++ rest, final) := by
  induction front generalizing earlier disk with
  | nil => simp [exportBatch]
  | cons request front ih =>
    have same : (exporter.exportApart earlier request disk).2.home = disk.home :=
      home_exportApart earlier request disk
    have places : front.map (exporter.batchPlace (exporter.exportApart earlier request disk).2) =
        front.map (exporter.batchPlace disk) :=
      List.map_congr_left fun other _ => batchPlace_of_home same other
    rw [List.cons_append, exportBatch_cons, exportBatch_cons]
    dsimp only
    rw [ih, places]
    simp

/-- The answer to a request depends on the requests before it and the files they leave. -/
theorem exportAll_at (exporter : Exporter) {requests : List ExportRequest} {index : Nat}
    (listed : requests[index]? = some request) (disk : Memory) :
    let answer := exporter.exportApart
      ((requests.take index).map (exporter.batchPlace disk)) request
      (exporter.exportAll (requests.take index) disk).2
    (exporter.exportAll requests disk).1[index]? = some answer.1 ∧
      (exporter.exportAll (requests.take (index + 1)) disk).2 = answer.2 := by
  obtain ⟨bound, same⟩ := List.getElem?_eq_some_iff.mp listed
  have size : (exporter.exportAll (requests.take index) disk).1.length = index := by
    unfold exportAll
    rw [length_exportBatch, List.length_take_of_le (Nat.le_of_lt bound)]
  have cut : requests = requests.take index ++ request :: requests.drop (index + 1) := by
    rw [← same, ← List.drop_eq_getElem_cons bound, List.take_append_drop]
  have shorter : requests.take (index + 1) = requests.take index ++ [request] := by
    rw [List.take_add_one, listed]
    rfl
  constructor
  · nth_rewrite 1 [cut]
    unfold exportAll at size ⊢
    rw [exportBatch_append]
    dsimp only
    rw [List.getElem?_append_right (by omega), size, Nat.sub_self]
    rfl
  · unfold exportAll
    rw [shorter, exportBatch_append]
    rfl

/-- A batch has one outcome for each request, in order. A request is turned down exactly
when it clashes with an earlier one, which leaves all files as they are, and is exported as
on its own otherwise. Where no directory has double dots or an empty text, requests clash
exactly when the place of a directory of one begins that of a directory of the other. -/
theorem exportAll_outcomes (exporter : Exporter) (requests : List ExportRequest) (disk : Memory) :
    (exporter.exportAll requests disk).1.length = requests.length ∧
      ∀ index request, requests[index]? = some request →
        let earlier := requests.take index
        let before := (exporter.exportAll earlier disk).2
        let after := (exporter.exportAll (requests.take (index + 1)) disk).2
        let outcome := (exporter.exportAll requests disk).1[index]?
        ((∃ flaw, outcome = some (.error (.settings flaw))) ↔
            exporter.Clashes disk.home request earlier) ∧
          (exporter.Clashes disk.home request earlier → after = before) ∧
          (¬exporter.Clashes disk.home request earlier →
            let answer := exporter.exportWith request (exporter.batchCodeDirectory request) before
            outcome = some answer.1 ∧ after = answer.2) ∧
          ((∀ name ∈ disk.home, Path.IsName name) →
            (∀ other ∈ request :: earlier, ∀ path ∈ exporter.directories other, IsLevel path) →
            (exporter.Clashes disk.home request earlier ↔
              ∃ other ∈ earlier, ∃ own ∈ exporter.directories request,
                ∃ taken ∈ exporter.directories other,
                  disk.place own <+: disk.place taken ∨ disk.place taken <+: disk.place own)) := by
  refine ⟨length_exportBatch [] requests disk, ?_⟩
  intro index request listed earlier before after outcome
  obtain ⟨answered, changed⟩ := exporter.exportAll_at listed disk
  have home : before.home = disk.home := home_exportBatch [] earlier disk
  have conflict := exporter.isSome_conflict_iff disk request earlier
  rw [← batchPlace_of_home home] at conflict
  have turnedDown (clashes : exporter.Clashes disk.home request earlier) :
      (∃ flaw, outcome = some (.error (.settings flaw))) ∧ after = before := by
    obtain ⟨flaw, answer⟩ := exportApart_of_conflict (conflict.mpr clashes)
    rw [answer] at answered changed
    exact ⟨⟨flaw, answered⟩, changed⟩
  have exported (apart : ¬exporter.Clashes disk.home request earlier) :
      let answer := exporter.exportWith request (exporter.batchCodeDirectory request) before
      outcome = some answer.1 ∧ after = answer.2 := by
    rw [exportApart_of_apart (mt conflict.mp apart)] at answered changed
    exact ⟨answered, changed⟩
  refine ⟨⟨?_, fun clashes => (turnedDown clashes).1⟩, fun clashes => (turnedDown clashes).2,
    exported, ?_⟩
  · rintro ⟨flaw, failed⟩
    by_contra apart
    have answer := (exported apart).1
    rw [failed] at answer
    exact exportWith_ne_settings _ before flaw (Option.some.inj answer).symm
  · intro proper level
    unfold Clashes
    refine exists_congr fun other => and_congr_right fun member => ?_
    refine exists_congr fun own => and_congr_right fun mine => ?_
    refine exists_congr fun taken => and_congr_right fun theirs => ?_
    have own_level := level request List.mem_cons_self own mine
    have taken_level := level other (List.mem_cons_of_mem request member) taken theirs
    exact Memory.meets_iff_of_isLevel proper own_level taken_level

end Exporter

end GameBundle
