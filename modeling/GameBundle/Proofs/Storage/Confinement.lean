import GameBundle.Proofs.Storage.Place
import GameBundle.Proofs.Storage.Tree
import Mathlib.Order.RelClasses

/-!
# Confined operations on files in memory

Each operation changes the place it is given and makes the directories that are
missing above it; clearing a directory changes what lies below it. Whether it
succeeds or fails, home and denials stay as they were.
-/

namespace GameBundle.Memory

/-- Only free places change, apart from directories that appear where `above` holds. -/
structure Confined (free above : Place → Prop) (before after : Memory) : Prop where
  home : after.home = before.home
  denied : after.denied = before.denied
  tree : Tree.Confined free above before.tree after.tree

variable {free above : Place → Prop} {memory : Memory}

instance : IsPreorder Memory (Confined free above) where
  refl memory := ⟨rfl, rfl, .refl memory.tree⟩
  trans _ _ _ first second :=
    ⟨second.home.trans first.home, second.denied.trans first.denied, first.tree.trans second.tree⟩

theorem Confined.mono {wider higher : Place → Prop} {before after : Memory}
    (confined : Confined free above before after) (free_wider : ∀ place, free place → wider place)
    (above_higher : ∀ place, above place → higher place) : Confined wider higher before after :=
  ⟨confined.home, confined.denied, confined.tree.mono free_wider above_higher⟩

/-- The way to a place: each directory on it is free or may be made. -/
def Way (free above : Place → Prop) (place : Place) : Prop :=
  ∀ other, other <+: place → free other ∨ above other

theorem place_eq_of_home {memory other : Memory} (same : other.home = memory.home) (path : Path) :
    other.place path = memory.place path := by
  unfold place
  rw [same]

private theorem confined_change {call : StorageCall} {place : Place}
    {act : Tree → Except StorageFault Unit × Tree}
    (h : Tree.Confined free above memory.tree (act memory.tree).2) :
    Confined free above memory (memory.change call place act).2 := by
  unfold change
  split
  · exact refl memory
  · exact ⟨rfl, rfl, h⟩

theorem makeDirs_eq_ok {tree changed : Tree} {place : Place}
    (h : makeDirs tree place = .ok changed) : changed = tree.withDirs place := by
  unfold makeDirs at h
  split at h
  · cases h
  · split at h
    · cases h
    · exact (Except.ok.inj h).symm

theorem putFile_eq_ok {tree changed : Tree} {place : Place} {contents : ByteArray}
    (h : putFile tree place contents = .ok changed) :
    place ≠ [] ∧ changed = tree.set place (.file contents) := by
  unfold putFile at h
  split at h
  · cases h
  · rename_i notDirectory
    refine ⟨?_, (Except.ok.inj h).symm⟩
    rintro rfl
    exact notDirectory rfl

theorem isFile_of_contents {tree : Tree} {place : Place} {bytes : ByteArray}
    (h : contents tree place = .ok bytes) : tree.isFile place = true := by
  unfold contents at h
  split at h
  · cases h
  · cases h
  · rename_i held
    exact Tree.isFile_iff.mpr ⟨_, held⟩

private theorem confined_makeDirs {tree changed : Tree} {place : Place}
    (way : Way free above place) (h : makeDirs tree place = .ok changed) :
    Tree.Confined free above tree changed := by
  rw [makeDirs_eq_ok h]
  exact .withDirs way

private theorem confined_putFile {tree : Tree} {place : Place} (h : free place)
    (contents : ByteArray) :
    Tree.Confined free above tree (settle tree (putFile tree place contents)).2 := by
  cases put : putFile tree place contents with
  | error fault => exact .refl tree
  | ok changed =>
    rw [(putFile_eq_ok put).2]
    exact .set h _

theorem confined_createDirs {path : Path} (way : Way free above (memory.place path)) :
    Confined free above memory (memory.createDirs path).2 := by
  apply confined_change
  cases made : makeDirs memory.tree (memory.place path) with
  | error fault => exact .refl memory.tree
  | ok changed => exact confined_makeDirs way made

theorem confined_clearDir {path : Path} (h : ∀ other, memory.place path <+: other → free other) :
    Confined free above memory (memory.clearDir path).2 := by
  apply confined_change
  split
  · exact .clear h
  · exact .refl memory.tree

theorem confined_write {path : Path} (h : free (memory.place path))
    (way : Way free above (memory.place path).dropLast) (text : String) :
    Confined free above memory (memory.write path text).2 := by
  apply confined_change
  unfold store
  cases made : makeDirs memory.tree (memory.place path).dropLast with
  | error fault => exact .refl memory.tree
  | ok changed => exact (confined_makeDirs way made).trans (confined_putFile h _)

theorem confined_copy {source target : Path}
    (h : memory.tree.isFile (memory.place source) = true → free (memory.place target))
    (way : Way free above (memory.place target).dropLast) :
    Confined free above memory (memory.copy source target).2 := by
  apply confined_change
  cases made : makeDirs memory.tree (memory.place target).dropLast with
  | error fault => exact .refl memory.tree
  | ok changed =>
    have dirs := confined_makeDirs way made
    cases held : contents changed (memory.place source) with
    | error fault => simpa [held] using dirs
    | ok bytes =>
      have found := isFile_of_contents held
      rw [makeDirs_eq_ok made, Tree.isFile_withDirs] at found
      simpa [held] using dirs.trans (confined_putFile (h found) bytes)

end GameBundle.Memory
