import GameBundle.Proofs.Include.IncludeList
import GameBundle.Proofs.Text.Search

/-!
# Include lists under edits

An include list keeps its paths twice, in a list and in the set of those seen. Every edit
does to the list what it does to a plain list of paths, replies as that list says, and
leaves the set in step. So whatever the edits, the list holds what a replay on plain lists
gives, and the set no more and no less.
-/

namespace GameBundle.IncludeList

namespace Edit

/-- Appends a path to a plain list unless it is there. -/
def append (paths : List String) (path : String) : List String :=
  if path ∈ paths then paths else paths ++ [path]

/-- Whether some marker stands within a path. -/
def Marks (markers : List String) (path : String) : Prop :=
  ∃ marker ∈ markers, marker.toList <:+: path.toList

instance (markers : List String) : DecidablePred (Marks markers) :=
  fun path => inferInstanceAs (Decidable (∃ marker ∈ markers, marker.toList <:+: path.toList))

/-- An edit of a plain list of paths. -/
def replay (paths : List String) : Edit → Reply × List String
  | .insert path => (.inserted (path ∉ paths), append paths path)
  | .extend more => (.extended, more.foldl append paths)
  | .removeMarked markers =>
    (.removed (paths.filter fun path => Marks markers path),
      paths.filter fun path => ¬Marks markers path)

def replayAll (paths : List String) : List Edit → List Reply × List String
  | [] => ([], paths)
  | edit :: edits =>
    let (reply, next) := edit.replay paths
    let (replies, final) := replayAll next edits
    (reply :: replies, final)

end Edit

variable {includes : IncludeList}

theorem isMarked_eq (markers : List String) :
    isMarked markers = fun path => decide (Edit.Marks markers path) := by
  funext path
  rw [Bool.eq_iff_iff, decide_eq_true_iff]
  simp only [isMarked, Edit.Marks, List.any_eq_true, Text.contains_iff]

theorem WellFormed.contains_eq (whole : includes.WellFormed) (path : String) :
    includes.contains path = decide (path ∈ includes.paths) := by
  rw [Bool.eq_iff_iff, decide_eq_true_iff]
  exact whole.contains_iff path

theorem WellFormed.paths_insert_eq_append (whole : includes.WellFormed) (path : String) :
    (includes.insert path).paths = Edit.append includes.paths path :=
  paths_insert whole path

theorem WellFormed.paths_extend_eq_foldl (whole : includes.WellFormed) (paths : List String) :
    (includes.extend paths).paths = paths.foldl Edit.append includes.paths := by
  induction paths generalizing includes with
  | nil => rfl
  | cons path paths ih =>
    rw [extend_cons, List.foldl_cons, ih (whole.insert path), whole.paths_insert_eq_append]

theorem perform_insert (path : String) :
    includes.perform (.insert path) =
      (.inserted (!includes.contains path), includes.insert path) := by
  simp only [perform, enter_eq]

theorem perform_extend (paths : List String) :
    includes.perform (.extend paths) = (.extended, includes.extend paths) := by
  simp only [perform, enter_eq, extend]

theorem perform_removeMarked (markers : List String) :
    includes.perform (.removeMarked markers) =
      (.removed (includes.marked markers), includes.withoutMarked markers) := by
  simp only [perform, takeMarked_eq]

theorem WellFormed.perform (whole : includes.WellFormed) (edit : Edit) :
    (includes.perform edit).2.WellFormed := by
  cases edit with
  | insert path =>
    rw [perform_insert]
    exact whole.insert path
  | extend paths =>
    rw [perform_extend]
    exact whole.extend paths
  | removeMarked markers =>
    rw [perform_removeMarked]
    exact whole.withoutMarked markers

/-- An edit replies and lists what the same edit of a plain list does. -/
theorem WellFormed.perform_replayed (whole : includes.WellFormed) (edit : Edit) :
    ((includes.perform edit).1, (includes.perform edit).2.paths) = edit.replay includes.paths := by
  cases edit with
  | insert path =>
    rw [perform_insert, Edit.replay, whole.contains_eq, whole.paths_insert_eq_append,
      decide_not]
  | extend paths => rw [perform_extend, Edit.replay, whole.paths_extend_eq_foldl]
  | removeMarked markers =>
    simp only [perform_removeMarked, Edit.replay, marked, IncludeList.withoutMarked, isMarked_eq,
      decide_not]

theorem WellFormed.performAll (whole : includes.WellFormed) (edits : List Edit) :
    (includes.performAll edits).2.WellFormed := by
  induction edits generalizing includes with
  | nil => exact whole
  | cons edit edits ih => exact ih (whole.perform edit)

theorem WellFormed.performAll_replayed (whole : includes.WellFormed) (edits : List Edit) :
    ((includes.performAll edits).1, (includes.performAll edits).2.paths) =
      Edit.replayAll includes.paths edits := by
  induction edits generalizing includes with
  | nil => rfl
  | cons edit edits ih =>
    rw [Edit.replayAll, ← whole.perform_replayed edit]
    dsimp only
    rw [← ih (whole.perform edit)]
    rfl

theorem WellFormed.mem_seen_iff (whole : includes.WellFormed) (path : String) :
    path ∈ includes.seen ↔ path ∈ includes.paths := by
  rw [← whole.contains_iff, contains, Std.HashSet.contains_iff_mem]

theorem WellFormed.contains_eq_position (whole : includes.WellFormed) (path : String) :
    includes.contains path = (includes.position? path).isSome := by
  rw [whole.contains_eq, position?, List.findIdx?_isSome, Bool.eq_iff_iff]
  simp

theorem same_iff_of_paths (other : IncludeList) : includes.same other = true ↔
    includes.paths = other.paths ∧ ∀ path, path ∈ includes.seen ↔ path ∈ other.seen := by
  simp only [same, Bool.and_eq_true, beq_iff_eq, List.all_eq_true, Std.HashSet.mem_toList,
    Std.HashSet.contains_iff_mem, and_assoc]
  refine and_congr_right fun _ => ⟨fun both path => ⟨both.1 path, both.2 path⟩, fun held => ?_⟩
  exact ⟨fun path => (held path).mp, fun path => (held path).mpr⟩

/-- Collecting the paths of a list again gives the same list. -/
theorem WellFormed.same_ofList (whole : includes.WellFormed) :
    includes.same (ofList includes.paths) = true := by
  have listed : (ofList includes.paths).paths = includes.paths := by
    rw [paths_ofList, eraseDups_of_nodup whole.nodup]
  rw [same_iff_of_paths, listed]
  refine ⟨rfl, fun path => ?_⟩
  rw [whole.mem_seen_iff, (wellFormed_ofList includes.paths).mem_seen_iff, listed]

/-- A removed path comes back at the end. -/
theorem WellFormed.paths_insert_removed (whole : includes.WellFormed) {markers : List String}
    {path : String} (removed : path ∈ includes.marked markers) :
    ((includes.withoutMarked markers).insert path).paths =
      (includes.withoutMarked markers).paths ++ [path] := by
  have gone : path ∉ (includes.withoutMarked markers).paths := by
    simp [IncludeList.withoutMarked, (List.mem_filter.mp removed).2]
  rw [paths_insert (whole.withoutMarked markers), if_neg gone]

/-- A list that starts empty or collected from paths replies to edits and ends up as a plain
list under the same edits. Its paths are listed once, the paths seen are those listed,
membership is having a position, a removed path comes back at the end, and the list equals
the one collected from its paths. -/
theorem edits_replayed (collected : List String) (edits : List Edit) :
    let (replies, final) := (ofList collected).performAll edits
    (replies, final.paths) = Edit.replayAll collected.eraseDups edits ∧
    final.paths.Nodup ∧
    (∀ path, path ∈ final.seen ↔ path ∈ final.paths) ∧
    (∀ path, final.contains path = (final.position? path).isSome) ∧
    (∀ markers, ∀ path ∈ final.marked markers,
      ((final.withoutMarked markers).insert path).paths =
        (final.withoutMarked markers).paths ++ [path]) ∧
    final.same (ofList final.paths) = true := by
  have start := wellFormed_ofList collected
  have whole := start.performAll edits
  have replayed := start.performAll_replayed edits
  rw [paths_ofList] at replayed
  exact ⟨replayed, whole.nodup, whole.mem_seen_iff, whole.contains_eq_position,
    fun _ _ removed => whole.paths_insert_removed removed, whole.same_ofList⟩

end GameBundle.IncludeList
