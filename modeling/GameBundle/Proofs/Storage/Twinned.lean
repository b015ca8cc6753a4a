import GameBundle.Proofs.Storage.Relations

/-!
# Twin directories

Two directories are twins when the same stands at each place in them. A copy of a file
leaves the same files whichever of the two it is taken from, and as long as changes stay
out of both, the directories go on to be twins.
-/

namespace GameBundle.Memory

/-- With the given home, two directories hold the same. -/
structure Twinned (home one other : Place) (memory : Memory) : Prop where
  base : memory.home = home
  same : ∀ rest, memory.tree.get? (one ++ rest) = memory.tree.get? (other ++ rest)

/-- Nothing changes in a directory, and no directory is made there. -/
def Spares (free above : Place → Prop) (directory : Place) : Prop :=
  ∀ rest, ¬free (directory ++ rest) ∧ ¬above (directory ++ rest)

variable {home one other rest : Place} {free above : Place → Prop} {memory after : Memory}

theorem Spares.get?_eq {before after : Tree} (spares : Spares free above one)
    (confined : Tree.Confined free above before after) (rest : Place) :
    after.get? (one ++ rest) = before.get? (one ++ rest) := by
  rcases confined (one ++ rest) with held | same | ⟨high, -⟩
  · exact absurd held (spares rest).1
  · exact same
  · exact absurd high (spares rest).2

/-- No directory on the way to what may change lies in a directory that is spared. -/
theorem Spares.off_way {place : Place} (spares : Spares free above one)
    (way : Way free above place) (rest : Place) : ¬one ++ rest <+: place := fun before =>
  (way _ before).elim (spares rest).1 (spares rest).2

namespace Twinned

theorem of_within (twinned : Twinned home one other memory)
    (within : Within home free above memory after) (first : Spares free above one)
    (second : Spares free above other) : Twinned home one other after where
  base := (within twinned.base).home.trans twinned.base
  same rest := by
    have confined := (within twinned.base).tree
    rw [first.get?_eq confined, second.get?_eq confined, twinned.same]

theorem place_eq (twinned : Twinned home one other memory) (path : Path) :
    memory.place path = locate home path := by
  rw [place, twinned.base]

variable {source twin : Path}

theorem isFile_eq (twinned : Twinned home one other memory)
    (here : locate home source = one ++ rest) (there : locate home twin = other ++ rest) :
    memory.isFile source = memory.isFile twin := by
  unfold Memory.isFile Tree.isFile
  rw [twinned.place_eq, twinned.place_eq, here, there, twinned.same]

/-- A file is copied alike from either directory. -/
theorem copy_eq (twinned : Twinned home one other memory)
    (here : locate home source = one ++ rest) (there : locate home twin = other ++ rest)
    {target : Path} (way : Way free above (locate home target).dropLast)
    (first : Spares free above one) (second : Spares free above other) :
    memory.copy source target = memory.copy twin target := by
  rw [← twinned.place_eq] at way here there
  have reads : contents (memory.tree.withDirs (memory.place target).dropLast) (memory.place source) =
      contents (memory.tree.withDirs (memory.place target).dropLast) (memory.place twin) := by
    unfold contents
    rw [here, there, Tree.get?_withDirs, Tree.get?_withDirs,
      if_neg fun filled => first.off_way way rest filled.1,
      if_neg fun filled => second.off_way way rest filled.1, twinned.same]
  unfold copy change
  dsimp only
  cases made : makeDirs memory.tree (memory.place target).dropLast with
  | error fault => rfl
  | ok tree =>
    rw [makeDirs_eq_ok made]
    dsimp only
    rw [reads]

end Twinned

end GameBundle.Memory
