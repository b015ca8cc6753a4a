import GameBundle.Proofs.Storage.Success

/-!
# Relations that operations keep

What is known about single operations is stated for whole runs through relations between
the files before and after: changes are confined, files stay files, nothing becomes a
file.
-/

namespace GameBundle.Memory

variable {home : Place} {free above : Place → Prop} {last : Memory}

/-- A file may be put at a place. -/
structure Admits (free above : Place → Prop) (place : Place) : Prop where
  target : free place
  way : Way free above place.dropLast

/-- Changes of files that have the given home are confined. -/
def Within (home : Place) (free above : Place → Prop) (before after : Memory) : Prop :=
  before.home = home → Confined free above before after

instance : IsPreorder Memory (Within home free above) where
  refl memory _ := refl_of (Confined free above) memory
  trans _ _ _ first second same :=
    trans_of (Confined free above) (first same) (second ((first same).home.trans same))

theorem within_createDirs {path : Path} (way : Way free above (locate home path))
    (memory : Memory) : Within home free above memory (memory.createDirs path).2 := by
  intro same
  apply confined_createDirs
  rwa [place, same]

theorem within_clearDir {path : Path} (inside : ∀ other, locate home path <+: other → free other)
    (memory : Memory) : Within home free above memory (memory.clearDir path).2 := by
  intro same
  apply confined_clearDir
  rwa [place, same]

theorem within_write {path : Path} (admits : Admits free above (locate home path))
    (text : String) (memory : Memory) :
    Within home free above memory (memory.write path text).2 := by
  intro same
  apply confined_write <;> rw [place, same]
  · exact admits.target
  · exact admits.way

theorem within_copy {target : Path} (admits : Admits free above (locate home target))
    (source : Path) (memory : Memory) :
    Within home free above memory (memory.copy source target).2 := by
  intro same
  apply confined_copy <;> unfold place <;> rw [same]
  · exact fun _ => admits.target
  · exact admits.way

def FilesRemain (before after : Memory) : Prop :=
  ∀ place, before.tree.isFile place = true → after.tree.isFile place = true

instance : IsPreorder Memory FilesRemain where
  refl _ _ held := held
  trans _ _ _ first second place held := second place (first place held)

private theorem filesRemain_change {memory : Memory} {call : StorageCall} {place : Place}
    {act : Tree → Except StorageFault Unit × Tree}
    (h : ∀ tree other, tree.isFile other = true → (act tree).2.isFile other = true) :
    FilesRemain memory (memory.change call place act).2 := by
  intro other held
  unfold change
  split
  · exact held
  · exact h memory.tree other held

private theorem isFile_putFile {tree : Tree} {place other : Place}
    (held : tree.isFile other = true) (bytes : ByteArray) :
    (settle tree (putFile tree place bytes)).2.isFile other = true := by
  cases stored : putFile tree place bytes with
  | error fault => exact held
  | ok changed =>
    rw [(putFile_eq_ok stored).2]
    exact Tree.isFile_set_of_isFile held bytes

private theorem isFile_makeDirs {tree changed : Tree} {place other : Place}
    (made : makeDirs tree place = .ok changed) (held : tree.isFile other = true) :
    changed.isFile other = true := by
  rwa [makeDirs_eq_ok made, Tree.isFile_withDirs]

theorem filesRemain_createDirs (path : Path) (memory : Memory) :
    FilesRemain memory (memory.createDirs path).2 := by
  apply filesRemain_change
  intro tree other held
  cases made : makeDirs tree (memory.place path) with
  | error fault => exact held
  | ok changed => exact isFile_makeDirs made held

theorem filesRemain_write (path : Path) (text : String) (memory : Memory) :
    FilesRemain memory (memory.write path text).2 := by
  apply filesRemain_change
  intro tree other held
  unfold store
  cases made : makeDirs tree (memory.place path).dropLast with
  | error fault => exact held
  | ok changed => exact isFile_putFile (isFile_makeDirs made held) _

theorem filesRemain_copy (source target : Path) (memory : Memory) :
    FilesRemain memory (memory.copy source target).2 := by
  apply filesRemain_change
  intro tree other held
  cases made : makeDirs tree (memory.place target).dropLast with
  | error fault => exact held
  | ok changed =>
    have still := isFile_makeDirs made held
    cases read : contents changed (memory.place source) with
    | error fault => simpa [read] using still
    | ok bytes => simpa [read] using isFile_putFile still bytes

private theorem always_way (place : Place) : Way (fun _ => True) (fun _ => True) place :=
  fun _ _ => .inl trivial

private theorem always_admits (place : Place) : Admits (fun _ => True) (fun _ => True) place :=
  ⟨trivial, always_way place.dropLast⟩

/-- Files stay files, under the same home. -/
structure Grows (before after : Memory) : Prop where
  base : after.home = before.home
  files : FilesRemain before after

instance : IsPreorder Memory Grows where
  refl memory := ⟨rfl, refl_of FilesRemain memory⟩
  trans _ _ _ first second :=
    ⟨second.base.trans first.base, trans_of FilesRemain first.files second.files⟩

theorem grows_createDirs (path : Path) (memory : Memory) :
    Grows memory (memory.createDirs path).2 where
  base := (within_createDirs (always_way _) memory rfl).home
  files := filesRemain_createDirs path memory

theorem grows_write (path : Path) (text : String) (memory : Memory) :
    Grows memory (memory.write path text).2 where
  base := (within_write (always_admits _) text memory rfl).home
  files := filesRemain_write path text memory

theorem grows_copy (source target : Path) (memory : Memory) :
    Grows memory (memory.copy source target).2 where
  base := (within_copy (always_admits _) source memory rfl).home
  files := filesRemain_copy source target memory

/-- Files stay files, and changes on the way to the files `last` are confined. What may
change can thus depend on what is a file in the end. -/
structure Toward (last : Memory) (home : Place) (free above : Place → Prop)
    (before after : Memory) : Prop extends Grows before after where
  confined : before.home = home → FilesRemain after last → Confined free above before after

instance : IsPreorder Memory (Toward last home free above) where
  refl memory := ⟨refl_of Grows memory, fun _ _ => refl_of (Confined free above) memory⟩
  trans _ _ _ first second := by
    refine ⟨trans_of Grows first.toGrows second.toGrows, ?_⟩
    intro same reached
    have earlier := first.confined same (trans_of FilesRemain second.files reached)
    exact trans_of (Confined free above) earlier (second.confined (first.base.trans same) reached)

theorem toward_createDirs {path : Path} (way : Way free above (locate home path))
    (memory : Memory) : Toward last home free above memory (memory.createDirs path).2 where
  toGrows := grows_createDirs path memory
  confined same _ := within_createDirs way memory same

theorem toward_write {path : Path} (admits : Admits free above (locate home path))
    (text : String) (memory : Memory) :
    Toward last home free above memory (memory.write path text).2 where
  toGrows := grows_write path text memory
  confined same _ := within_write admits text memory same

theorem toward_copy {source target : Path}
    (h : last.tree.isFile (locate home source) = true → free (locate home target))
    (way : Way free above (locate home target).dropLast) (memory : Memory) :
    Toward last home free above memory (memory.copy source target).2 where
  toGrows := grows_copy source target memory
  confined same reached := by
    apply confined_copy <;> unfold place <;> rw [same]
    · intro held
      exact h (reached _ (filesRemain_copy source target memory _ held))
    · exact way

theorem toward_copy_found {source target : Path}
    (h : last.tree.isFile (locate home source) = true → Admits free above (locate home target))
    {memory : Memory} (found : memory.isFile source = true) :
    Toward last home free above memory (memory.copy source target).2 where
  toGrows := grows_copy source target memory
  confined same reached := by
    have held : memory.tree.isFile (locate home source) = true := by
      rw [← same]
      exact found
    exact within_copy (h (reached _ (filesRemain_copy source target memory _ held))) source memory
      same

def NoNewFiles (before after : Memory) : Prop :=
  ∀ place, before.tree.isFile place = false → after.tree.isFile place = false

instance : IsPreorder Memory NoNewFiles where
  refl _ _ absent := absent
  trans _ _ _ first second place absent := second place (first place absent)

theorem noNewFiles_createDirs (path : Path) (memory : Memory) :
    NoNewFiles memory (memory.createDirs path).2 := by
  intro place absent
  unfold createDirs change
  dsimp only
  split
  · exact absent
  · cases made : makeDirs memory.tree (memory.place path) with
    | error fault => exact absent
    | ok changed =>
      change changed.isFile place = false
      rwa [makeDirs_eq_ok made, Tree.isFile_withDirs]

theorem noNewFiles_clearDir (path : Path) (memory : Memory) :
    NoNewFiles memory (memory.clearDir path).2 := by
  intro place absent
  unfold clearDir change
  dsimp only
  split
  · exact absent
  · split
    · rw [Tree.isFile_clear, absent, Bool.and_false]
    · exact absent

end GameBundle.Memory
