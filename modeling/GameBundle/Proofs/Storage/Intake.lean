import GameBundle.Proofs.Storage.Success

/-!
# Directories that take copies

Files are copied side by side into a directory from sources that do not lie inside it. Such a
copy puts what its source holds under its name, and neither a source nor a file of another
name changes. This is all that is needed to follow many copies, whatever the storage.
-/

namespace GameBundle

open Memory (locate)

/-- What a copy of `source` into a directory leaves of a storage, read through `bytes?`. -/
structure Storage.Copied {σ : Type} (bytes? : Path → σ → Option ByteArray) (directory : Path)
    (isSource : Path → Prop) (source : Path) (name : String) (before after : σ) : Prop where
  put : bytes? (directory / name) after = bytes? source before
  others : ∀ other, Path.IsName other → other ≠ name →
    bytes? (directory / other) after = bytes? (directory / other) before
  sources : ∀ other, isSource other → bytes? other after = bytes? other before

/-- A directory that takes copies of sources none of which lies inside it. In sound states
`bytes?` is what the file under a path holds. -/
structure Storage.Intake (σ : Type) [Storage σ] (directory : Path) (isSource : Path → Prop) where
  sound : σ → Prop
  bytes? : Path → σ → Option ByteArray
  isFile_eq : ∀ disk source, sound disk → isSource source →
    Storage.isFile source disk = (bytes? source disk).isSome
  agree : ∀ disk source other one two, sound disk → isSource source → isSource other →
    source.same other = true → bytes? source disk = some one → bytes? other disk = some two →
    one = two
  copied : ∀ disk after source name, sound disk → isSource source →
    Storage.isFile source disk = true → Path.IsName name →
    Storage.copy source (directory / name) disk = (.ok (), after) →
    sound after ∧ Copied bytes? directory isSource source name disk after

/-- What a file holds. -/
def Tree.bytes? (tree : Tree) (place : Place) : Option ByteArray :=
  match tree.get? place with
  | some (.file bytes) => some bytes
  | _ => none

theorem Tree.bytes?_eq_some {tree : Tree} {place : Place} {bytes : ByteArray} :
    tree.bytes? place = some bytes ↔ tree.get? place = some (.file bytes) := by
  unfold bytes?
  split
  · rename_i held there
    simp [there]
  · rename_i none
    exact ⟨nofun, fun there => absurd there (none bytes)⟩

theorem Tree.isFile_eq_isSome (tree : Tree) (place : Place) :
    tree.isFile place = (tree.bytes? place).isSome := by
  rw [Bool.eq_iff_iff, isFile_iff, Option.isSome_iff_exists]
  simp only [bytes?_eq_some]

theorem Tree.bytes?_withDirs (tree : Tree) (place sought : Place) :
    (tree.withDirs place).bytes? sought = tree.bytes? sought := by
  unfold bytes?
  rw [get?_withDirs]
  by_cases made : sought <+: place ∧ tree.get? sought = none
  · rw [if_pos made, made.2]
  · rw [if_neg made]

theorem Tree.ne_concat_of_not_isBelow {place above : Place} (outside : isBelow place above = false)
    (name : String) : place ≠ above ++ [name] := by
  rintro rfl
  rw [← Bool.not_eq_true, isBelow_iff] at outside
  exact outside ⟨List.prefix_append _ _, by simp⟩

namespace Memory

theorem bytes?_put_of_ne {memory : Memory} {place other : Place} (apart : other ≠ place)
    (bytes : ByteArray) : (memory.put place bytes).tree.bytes? other = memory.tree.bytes? other := by
  unfold Tree.bytes?
  rw [get?_put_of_ne apart]
  by_cases made : other <+: place.dropLast ∧ memory.tree.get? other = none
  · rw [if_pos made, made.2]
  · rw [if_neg made]

/-- In memory a directory takes copies of all sources whose places are not below its own. -/
def intake (home : Place) (directory : Path) (isSource : Path → Prop)
    (outside : ∀ source, isSource source →
      Tree.isBelow (locate home source) (locate home directory) = false) :
    Storage.Intake Memory directory isSource where
  sound disk := disk.home = home
  bytes? path disk := disk.tree.bytes? (disk.place path)
  isFile_eq disk source _ _ := Tree.isFile_eq_isSome disk.tree (disk.place source)
  agree disk source other one two base _ _ same held otherHeld := by
    rw [place, locate_congr same] at held
    exact Option.some.inj (held.symm.trans otherHeld)
  copied disk after source name base isSource found isName done := by
    obtain ⟨bytes, held⟩ := Tree.isFile_iff.mp found
    obtain ⟨inside, rfl⟩ := copy_eq_ok done held
    have target : disk.place (directory / name) = disk.place directory ++ [name] :=
      locate_join_name isName
    rw [target] at inside ⊢
    refine ⟨base, ?_, fun other otherName apart => ?_, fun other source => ?_⟩
    · change Tree.bytes? _ (disk.place (directory / name)) = disk.tree.bytes? (disk.place _)
      rw [target, Tree.bytes?_eq_some.mpr held, Tree.bytes?_eq_some]
      exact get?_put_self inside bytes
    · change Tree.bytes? _ (disk.place (directory / other)) = disk.tree.bytes? (disk.place _)
      refine bytes?_put_of_ne ?_ bytes
      rw [show disk.place (directory / other) = disk.place directory ++ [other] from
        locate_join_name otherName]
      simpa using apart
    · have apart := outside other source
      rw [← base] at apart
      exact bytes?_put_of_ne (Tree.ne_concat_of_not_isBelow apart name) bytes

end Memory

end GameBundle
