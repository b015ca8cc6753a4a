import GameBundle.Proofs.Storage.Confinement

/-!
# Operations that succeed

A file can be put at a place when that is not denied, no file stands in the way above it
and no directory stands there. Putting a file elsewhere does not change that, unless the
two are in each other's way.
-/

namespace GameBundle.Memory

variable {memory : Memory} {call : StorageCall} {place : Place}

/-- Whether a file can be put at a place by some call. -/
structure Fits (memory : Memory) (call : StorageCall) (place : Place) : Prop where
  allowed : memory.isDenied call place = false
  clear : ∀ other ∈ Tree.upTo place.dropLast, memory.tree.isFile other = false
  vacant : memory.tree.isDirectory place = false

instance : Decidable (memory.Fits call place) :=
  decidable_of_iff (memory.isDenied call place = false ∧
    (∀ other ∈ Tree.upTo place.dropLast, memory.tree.isFile other = false) ∧
    memory.tree.isDirectory place = false)
    ⟨fun ⟨allowed, clear, vacant⟩ => ⟨allowed, clear, vacant⟩,
      fun fits => ⟨fits.allowed, fits.clear, fits.vacant⟩⟩

/-- The files once a file has been put at a place. -/
def put (memory : Memory) (place : Place) (bytes : ByteArray) : Memory :=
  { memory with tree := (memory.tree.withDirs place.dropLast).set place (.file bytes) }

theorem Fits.ne_nil (fits : memory.Fits call place) : place ≠ [] := by
  rintro rfl
  exact absurd fits.vacant (by simp [Tree.isDirectory, Tree.get?])

theorem get?_put_self (inside : place ≠ []) (bytes : ByteArray) :
    (memory.put place bytes).tree.get? place = some (.file bytes) :=
  Tree.get?_set_self inside

theorem get?_put_of_ne {other : Place} (apart : other ≠ place) (bytes : ByteArray) :
    (memory.put place bytes).tree.get? other =
      if other <+: place.dropLast ∧ memory.tree.get? other = none then some .directory
      else memory.tree.get? other := by
  refine (Tree.get?_set_of_ne apart).trans ?_
  exact Tree.get?_withDirs memory.tree place.dropLast other

/-- A file stays when another file is put elsewhere. -/
theorem file_put_of_ne {other : Place} {held : ByteArray}
    (there : memory.tree.get? other = some (.file held)) (apart : other ≠ place)
    (bytes : ByteArray) : (memory.put place bytes).tree.get? other = some (.file held) := by
  rw [get?_put_of_ne apart, there]
  simp

theorem isFile_put_of_ne {other : Place} (apart : other ≠ place) (bytes : ByteArray) :
    (memory.put place bytes).tree.isFile other = memory.tree.isFile other := by
  rw [← Tree.isFile_withDirs memory.tree place.dropLast other]
  unfold Tree.isFile put
  rw [Tree.get?_set_of_ne apart]

theorem Fits.put (fits : memory.Fits call place) {other : Place}
    (below : ¬other <+: place.dropLast) (above : ¬place <+: other.dropLast) (apart : place ≠ other)
    (bytes : ByteArray) : (memory.put other bytes).Fits call place where
  allowed := fits.allowed
  clear high member := by
    have differ : high ≠ other := fun same => below (same ▸ (Tree.mem_upTo.mp member).2)
    rw [isFile_put_of_ne differ]
    exact fits.clear high member
  vacant := by
    have kept : (memory.put other bytes).tree.get? place = memory.tree.get? place := by
      rw [get?_put_of_ne apart, if_neg fun made => above made.1]
    unfold Tree.isDirectory
    rw [kept]
    exact fits.vacant

/-- A file can be put again where one was put. -/
theorem Fits.put_self (fits : memory.Fits call place) (bytes : ByteArray) :
    (memory.put place bytes).Fits call place where
  allowed := fits.allowed
  clear high member := by
    have shorter := (Tree.mem_upTo.mp member).2.length_le
    have inside := List.length_pos_iff.mpr fits.ne_nil
    have differ : high ≠ place := by
      rintro rfl
      rw [List.length_dropLast] at shorter
      omega
    rw [isFile_put_of_ne differ]
    exact fits.clear high member
  vacant := by
    unfold Tree.isDirectory
    rw [get?_put_self fits.ne_nil]
    rfl

def namesFile (place : Place) : Bool :=
  place.getLast?.any (·.toList.contains '.') &&
    place.dropLast.all fun name => !name.toList.contains '.'

theorem not_above_of_namesFile {other : Place} (file : namesFile place = true)
    (otherFile : namesFile other = true) : ¬place <+: other.dropLast := by
  intro before
  unfold namesFile at file otherFile
  rw [Bool.and_eq_true, Option.any_eq_true] at file
  rw [Bool.and_eq_true, List.all_eq_true] at otherFile
  obtain ⟨⟨name, last, dotted⟩, -⟩ := file
  have undotted := otherFile.2 name (before.subset (List.mem_of_getLast? last))
  rw [dotted] at undotted
  cases undotted

/-- Files with usual names are not in each other's way. -/
theorem Fits.put_file (fits : memory.Fits call place) (file : namesFile place = true)
    {other : Place} (otherFile : namesFile other = true) (bytes : ByteArray) :
    (memory.put other bytes).Fits call place := by
  by_cases same : place = other
  · subst same
    exact fits.put_self bytes
  · exact fits.put (not_above_of_namesFile otherFile file) (not_above_of_namesFile file otherFile)
      same bytes

private theorem makeDirs_of_clear {tree : Tree} {place : Place}
    (clear : ∀ other ∈ Tree.upTo place, tree.isFile other = false) :
    makeDirs tree place = .ok (tree.withDirs place) := by
  have free : tree.isFile place = false := by
    by_cases root : place = []
    · subst root
      rfl
    · exact clear place (Tree.mem_upTo.mpr ⟨root, List.prefix_rfl⟩)
  have way : (Tree.upTo place).any tree.isFile = false := by
    rw [List.any_eq_false]
    intro other member
    simp [clear other member]
  simp [makeDirs, free, way]

private theorem putFile_of_vacant {memory : Memory} {place : Place}
    (vacant : memory.tree.isDirectory place = false) (bytes : ByteArray) :
    putFile (memory.tree.withDirs place.dropLast) place bytes =
      .ok (memory.put place bytes).tree := by
  have inside : place ≠ [] := by
    rintro rfl
    exact absurd vacant (by simp [Tree.isDirectory, Tree.get?])
  have high : ¬place <+: place.dropLast := by
    intro before
    have short := before.length_le
    rw [List.length_dropLast] at short
    have := List.length_pos_iff.mpr inside
    omega
  have still : (memory.tree.withDirs place.dropLast).isDirectory place = false := by
    unfold Tree.isDirectory
    rw [Tree.get?_withDirs, if_neg fun made => high made.1]
    exact vacant
  rw [putFile, if_neg (by simp [still])]
  rfl

theorem decodeText_toUTF8 (text : String) : decodeText text.toUTF8 = .ok text := by
  have valid : text.toUTF8.IsValidUTF8 := text.isValidUTF8
  rw [decodeText, String.fromUTF8?, dif_pos valid]
  rfl

theorem write_of_fits {path : Path} (fits : memory.Fits .write (memory.place path))
    (text : String) :
    memory.write path text = (.ok (), memory.put (memory.place path) text.toUTF8) := by
  unfold write change
  rw [if_neg (by simp [fits.allowed])]
  simp only [store, makeDirs_of_clear fits.clear, putFile_of_vacant fits.vacant, settle]
  rfl

theorem copy_of_fits {source target : Path} {bytes : ByteArray}
    (fits : memory.Fits .copy (memory.place target))
    (held : memory.tree.get? (memory.place source) = some (.file bytes)) :
    memory.copy source target = (.ok (), memory.put (memory.place target) bytes) := by
  have read : contents (memory.tree.withDirs (memory.place target).dropLast)
      (memory.place source) = .ok bytes := by
    unfold contents
    rw [Tree.get?_withDirs, held]
    simp
  unfold copy change
  rw [if_neg (by simp [fits.allowed])]
  simp only [makeDirs_of_clear fits.clear, read, putFile_of_vacant fits.vacant, settle]
  rfl

theorem change_eq_ok {act : Tree → Except StorageFault Unit × Tree} {after : Memory}
    (h : memory.change call place act = (.ok (), after)) :
    ∃ tree, act memory.tree = (.ok (), tree) ∧ after = { memory with tree } := by
  unfold change at h
  split at h
  · cases h
  · rw [Prod.mk.injEq] at h
    exact ⟨_, Prod.ext h.1 rfl, h.2.symm⟩

/-- A copy that succeeds has put the contents of its source at its target. -/
theorem copy_eq_ok {source target : Path} {bytes : ByteArray} {after : Memory}
    (h : memory.copy source target = (.ok (), after))
    (held : memory.tree.get? (memory.place source) = some (.file bytes)) :
    memory.place target ≠ [] ∧ after = memory.put (memory.place target) bytes := by
  unfold copy at h
  obtain ⟨tree, acted, rfl⟩ := change_eq_ok h
  cases made : makeDirs memory.tree (memory.place target).dropLast with
  | error fault => simp [made] at acted
  | ok changed =>
    rw [makeDirs_eq_ok made] at made
    have read : contents (memory.tree.withDirs (memory.place target).dropLast)
        (memory.place source) = .ok bytes := by
      unfold contents
      rw [Tree.get?_withDirs, held]
      simp
    simp only [made, read] at acted
    cases stored : putFile (memory.tree.withDirs (memory.place target).dropLast)
        (memory.place target) bytes with
    | error fault => simp [stored, settle] at acted
    | ok final =>
      obtain ⟨inside, rfl⟩ := putFile_eq_ok stored
      rw [stored, settle, Prod.mk.injEq] at acted
      exact ⟨inside, by rw [put, acted.2]⟩

private theorem store_eq_ok {tree changed : Tree} {place : Place} {bytes : ByteArray}
    (h : store place bytes tree = (.ok (), changed)) :
    place ≠ [] ∧ changed = (tree.withDirs place.dropLast).set place (.file bytes) := by
  unfold store at h
  cases made : makeDirs tree place.dropLast with
  | error fault => simp [made] at h
  | ok dirs =>
    rw [makeDirs_eq_ok made] at made
    simp only [made] at h
    cases stored : putFile (tree.withDirs place.dropLast) place bytes with
    | error fault => simp [stored, settle] at h
    | ok final =>
      obtain ⟨inside, rfl⟩ := putFile_eq_ok stored
      rw [stored, settle, Prod.mk.injEq] at h
      exact ⟨inside, h.2.symm⟩

/-- A write that succeeds has put the text at its path. -/
theorem write_eq_ok {path : Path} {text : String} {after : Memory}
    (h : memory.write path text = (.ok (), after)) :
    memory.place path ≠ [] ∧ after = memory.put (memory.place path) text.toUTF8 := by
  unfold write at h
  obtain ⟨tree, acted, rfl⟩ := change_eq_ok h
  obtain ⟨inside, rfl⟩ := store_eq_ok acted
  exact ⟨inside, rfl⟩

theorem clearDir_eq_ok {path : Path} {after : Memory}
    (h : memory.clearDir path = (.ok (), after)) :
    after = { memory with tree := memory.tree.clear (memory.place path) } := by
  unfold clearDir at h
  obtain ⟨tree, acted, rfl⟩ := change_eq_ok h
  split at acted
  · rw [Prod.mk.injEq] at acted
    rw [acted.2]
  · cases acted

theorem clear_of_makeDirs {tree changed : Tree} {place : Place}
    (h : makeDirs tree place = .ok changed) :
    ∀ other ∈ Tree.upTo place, tree.isFile other = false := by
  unfold makeDirs at h
  split at h
  · cases h
  · split at h
    · cases h
    · rename_i way
      rw [Bool.not_eq_true, List.any_eq_false] at way
      exact fun other member => Bool.not_eq_true _ ▸ way other member

private theorem vacant_of_putFile {tree changed : Tree} {place : Place} {bytes : ByteArray}
    (h : putFile (tree.withDirs place.dropLast) place bytes = .ok changed) :
    tree.isDirectory place = false := by
  unfold putFile at h
  split at h
  · cases h
  · rename_i vacant
    rw [← Bool.not_eq_true]
    intro directory
    apply vacant
    unfold Tree.isDirectory at directory ⊢
    rw [Tree.get?_withDirs]
    split
    · rfl
    · exact directory

theorem isDenied_of_change {act : Tree → Except StorageFault Unit × Tree} {after : Memory}
    (h : memory.change call place act = (.ok (), after)) : memory.isDenied call place = false := by
  unfold change at h
  split at h
  · cases h
  · rename_i allowed
    simpa using allowed

/-- A file that was written fitted. -/
theorem fits_of_write {path : Path} {text : String} {after : Memory}
    (h : memory.write path text = (.ok (), after)) : memory.Fits .write (memory.place path) := by
  unfold write at h
  obtain ⟨tree, acted, -⟩ := change_eq_ok h
  unfold store at acted
  cases made : makeDirs memory.tree (memory.place path).dropLast with
  | error fault => simp [made] at acted
  | ok changed =>
    simp only [made] at acted
    refine ⟨isDenied_of_change h, clear_of_makeDirs made, ?_⟩
    rw [makeDirs_eq_ok made] at acted
    cases stored : putFile (memory.tree.withDirs (memory.place path).dropLast) (memory.place path)
        text.toUTF8 with
    | error fault =>
      rw [stored] at acted
      cases acted
    | ok final => exact vacant_of_putFile stored

/-- A file that was copied fitted. -/
theorem fits_of_copy {source target : Path} {after : Memory}
    (h : memory.copy source target = (.ok (), after)) :
    memory.Fits .copy (memory.place target) := by
  unfold copy at h
  obtain ⟨tree, acted, -⟩ := change_eq_ok h
  cases made : makeDirs memory.tree (memory.place target).dropLast with
  | error fault => simp [made] at acted
  | ok changed =>
    simp only [made] at acted
    refine ⟨isDenied_of_change h, clear_of_makeDirs made, ?_⟩
    rw [makeDirs_eq_ok made] at acted
    cases read : contents (memory.tree.withDirs (memory.place target).dropLast)
        (memory.place source) with
    | error fault => simp [read] at acted
    | ok bytes =>
      simp only [read] at acted
      cases stored : putFile (memory.tree.withDirs (memory.place target).dropLast)
          (memory.place target) bytes with
      | error fault => simp [stored, settle] at acted
      | ok final => exact vacant_of_putFile stored

theorem isFile_of_copy {source target : Path} {after : Memory}
    (h : memory.copy source target = (.ok (), after)) :
    memory.tree.isFile (memory.place source) = true := by
  unfold copy at h
  obtain ⟨tree, acted, -⟩ := change_eq_ok h
  cases made : makeDirs memory.tree (memory.place target).dropLast with
  | error fault => simp [made] at acted
  | ok changed =>
    cases read : contents changed (memory.place source) with
    | error fault => simp [made, read] at acted
    | ok bytes =>
      have found := isFile_of_contents read
      rwa [makeDirs_eq_ok made, Tree.isFile_withDirs] at found

/-- A copy that fails has at most made the directories above its target. -/
theorem copy_eq_error {source target : Path} {fault : StorageFault} {after : Memory}
    (h : memory.copy source target = (.error fault, after)) :
    after = memory ∨
      after = { memory with tree := memory.tree.withDirs (memory.place target).dropLast } := by
  unfold copy change at h
  dsimp only at h
  split at h
  · cases h
    exact .inl rfl
  · cases made : makeDirs memory.tree (memory.place target).dropLast with
    | error cause =>
      simp only [made, Prod.mk.injEq] at h
      exact .inl h.2.symm
    | ok changed =>
      rw [← makeDirs_eq_ok made]
      cases read : contents changed (memory.place source) with
      | error cause =>
        simp only [made, read, Prod.mk.injEq] at h
        exact .inr h.2.symm
      | ok bytes =>
        cases stored : putFile changed (memory.place target) bytes with
        | error cause =>
          simp only [made, read, stored, settle, Prod.mk.injEq] at h
          exact .inr h.2.symm
        | ok final => simp [made, read, stored, settle] at h

/-- Directories are made where no file stands in the way. -/
theorem createDirs_of_clear {path : Path}
    (allowed : memory.isDenied .createDirs (memory.place path) = false)
    (clear : ∀ other ∈ Tree.upTo (memory.place path), memory.tree.isFile other = false) :
    memory.createDirs path =
      (.ok (), { memory with tree := memory.tree.withDirs (memory.place path) }) := by
  unfold createDirs change
  rw [if_neg (by simp [allowed])]
  simp only [makeDirs_of_clear clear, settle]

theorem clear_of_createDirs {path : Path} {after : Memory}
    (h : memory.createDirs path = (.ok (), after)) :
    ∀ other ∈ Tree.upTo (memory.place path), memory.tree.isFile other = false := by
  unfold createDirs at h
  obtain ⟨tree, acted, -⟩ := change_eq_ok h
  cases made : makeDirs memory.tree (memory.place path) with
  | error fault => simp [made, settle] at acted
  | ok changed => exact clear_of_makeDirs made

theorem clearDir_of_isDirectory {path : Path}
    (allowed : memory.isDenied .clearDir (memory.place path) = false)
    (directory : memory.tree.isDirectory (memory.place path) = true) :
    memory.clearDir path =
      (.ok (), { memory with tree := memory.tree.clear (memory.place path) }) := by
  unfold clearDir change
  rw [if_neg (by simp [allowed])]
  simp only [directory, if_true]

end GameBundle.Memory
