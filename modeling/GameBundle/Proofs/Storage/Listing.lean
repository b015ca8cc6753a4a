import GameBundle.Proofs.Storage.Relations
import GameBundle.Proofs.Text.Ordered
import GameBundle.Storage.Changes
import GameBundle.Storage.Local

/-!
# Names listed in a directory

A directory is listed from the entries of the tree, also from those that lie behind
another entry for the same place and do not count elsewhere. Clearing removes all of
them, so in a directory that was cleared the names listed are those of files again, and
they stay so while files are put there under proper names.
-/

namespace GameBundle

namespace Tree

/-- Whether some entry, be it one that does not count, makes a place a file. -/
def Lists (tree : Tree) (place : Place) : Prop :=
  ∃ contents, (place, Node.file contents) ∈ tree.entries

theorem nameIn?_eq_some {place : Place} {entry : Place × Node} {name : String} :
    nameIn? place entry = some name ↔
      entry.1 = place ++ [name] ∧ ∃ contents, entry.2 = .file contents := by
  obtain ⟨held, node⟩ := entry
  cases node with
  | directory => simp [nameIn?]
  | file contents =>
    have cut : (held.dropLast = place ∧ held.getLast? = some name) ↔ held = place ++ [name] := by
      constructor
      · rintro ⟨rfl, last⟩
        obtain ⟨front, rfl⟩ := List.getLast?_eq_some_iff.mp last
        simp
      · rintro rfl
        simp
    simpa [nameIn?] using cut

theorem mem_fileNames {tree : Tree} {place : Place} {name : String} :
    name ∈ tree.fileNames place ↔ tree.Lists (place ++ [name]) := by
  unfold fileNames Lists
  rw [Text.mem_ordered, List.mem_filterMap]
  simp only [nameIn?_eq_some]
  constructor
  · rintro ⟨⟨held, node⟩, member, rfl, contents, rfl⟩
    exact ⟨contents, member⟩
  · rintro ⟨contents, member⟩
    exact ⟨_, member, rfl, contents, rfl⟩

theorem lists_of_isFile {tree : Tree} {place : Place} (held : tree.isFile place = true) :
    tree.Lists place := by
  obtain ⟨contents, found⟩ := isFile_iff.mp held
  unfold get? at found
  split at found
  · cases found
  · obtain ⟨front, back, entries, -⟩ := List.lookup_eq_some_iff.mp found
    exact ⟨contents, by simp [entries]⟩

theorem Lists.of_set {tree : Tree} {place sought : Place} {node : Node}
    (listed : (tree.set place node).Lists sought) :
    tree.Lists sought ∨ sought = place ∧ ∃ contents, node = .file contents := by
  obtain ⟨contents, member⟩ := listed
  rcases List.mem_cons.mp member with same | held
  · cases same
    exact .inr ⟨rfl, contents, rfl⟩
  · exact .inl ⟨contents, (List.mem_filter.mp held).1⟩

theorem Lists.of_clear {tree : Tree} {place sought : Place} (listed : (tree.clear place).Lists sought) :
    tree.Lists sought ∧ isBelow sought place = false := by
  obtain ⟨contents, member⟩ := listed
  obtain ⟨held, kept⟩ := List.mem_filter.mp member
  exact ⟨⟨contents, held⟩, by simpa using kept⟩

theorem Lists.of_withDirs {tree : Tree} {place sought : Place}
    (listed : (tree.withDirs place).Lists sought) : tree.Lists sought := by
  unfold withDirs at listed
  generalize upTo place = places at listed
  induction places generalizing tree with
  | nil => exact listed
  | cons above places ih =>
    rw [List.foldl_cons] at listed
    have earlier := ih listed
    split at earlier
    · exact earlier
    · rcases earlier.of_set with held | ⟨-, contents, made⟩
      · exact held
      · cases made

/-- Whether no place has two entries. -/
def Distinct (tree : Tree) : Prop := (tree.entries.map Prod.fst).Nodup

instance (tree : Tree) : Decidable tree.Distinct :=
  inferInstanceAs (Decidable (tree.entries.map Prod.fst).Nodup)

private theorem lookup_of_mem {entries : List (Place × Node)} {place : Place} {node : Node}
    (nodup : (entries.map Prod.fst).Nodup) (member : (place, node) ∈ entries) :
    entries.lookup place = some node := by
  induction entries with
  | nil => cases member
  | cons entry rest ih =>
    obtain ⟨held, other⟩ := entry
    rw [List.map_cons, List.nodup_cons] at nodup
    rcases List.mem_cons.mp member with same | behind
    · cases same
      exact List.lookup_cons_self
    · have apart : (place == held) = false := by
        rw [beq_eq_false_iff_ne]
        rintro rfl
        exact nodup.1 (List.mem_map.mpr ⟨_, behind, rfl⟩)
      rw [List.lookup_cons, apart]
      exact ih nodup.2 behind

theorem Distinct.set {tree : Tree} (distinct : tree.Distinct) (place : Place) (node : Node) :
    (tree.set place node).Distinct := by
  refine List.nodup_cons.mpr ⟨fun member => ?_, distinct.sublist (List.filter_sublist.map _)⟩
  obtain ⟨entry, kept, same⟩ := List.mem_map.mp member
  exact of_decide_eq_true (List.mem_filter.mp kept).2 same

theorem Distinct.withDirs {tree : Tree} (distinct : tree.Distinct) (place : Place) :
    (tree.withDirs place).Distinct := by
  refine List.foldlRecOn (motive := Distinct) (upTo place) _ distinct ?_
  intro tree distinct above _
  cases tree.get? above with
  | some node => exact distinct
  | none => exact distinct.set above .directory

/-- However a tree is built up, each place has one entry. -/
theorem distinct_ofEntries (entries : List (Place × Node)) : (ofEntries entries).Distinct := by
  refine List.foldlRecOn (motive := Distinct) entries _ List.nodup_nil ?_
  rintro tree distinct ⟨place, node⟩ -
  cases node with
  | directory => exact distinct.withDirs place
  | file contents => exact (distinct.withDirs place.dropLast).set place (.file contents)

theorem Distinct.mem_fileNames {tree : Tree} (distinct : tree.Distinct) {place : Place}
    {name : String} : name ∈ tree.fileNames place ↔ tree.isFile (place ++ [name]) = true := by
  rw [Tree.mem_fileNames]
  refine ⟨fun ⟨contents, member⟩ => isFile_iff.mpr ⟨contents, ?_⟩, lists_of_isFile⟩
  rw [get?, if_neg (by simp)]
  exact lookup_of_mem distinct member

end Tree

namespace Memory

theorem fileNames_eq_ok {path : Path} {memory : Memory} {names : List String}
    (listed : memory.fileNames path = .ok names) :
    names = memory.tree.fileNames (memory.place path) := by
  unfold fileNames at listed
  dsimp only at listed
  split at listed
  · cases listed
  · split at listed
    · cases listed
      rfl
    · cases listed

def Bare (root : Place) (memory : Memory) : Prop :=
  ∀ place, Tree.isBelow place root = true → ¬memory.tree.Lists place

/-- What is listed directly inside a place are files under proper names. -/
def Tidy (root : Place) (memory : Memory) : Prop :=
  ∀ name, memory.tree.Lists (root ++ [name]) →
    Path.IsName name ∧ memory.tree.isFile (root ++ [name]) = true

theorem Bare.tidy {root inner : Place} {memory : Memory} (bare : Bare root memory)
    (inside : root <+: inner) : Tidy inner memory := by
  intro name listed
  refine absurd listed (bare _ (Tree.isBelow_iff.mpr ⟨inside.trans (List.prefix_append _ _), ?_⟩))
  rintro rfl
  have short := inside.length_le
  rw [List.length_append, List.length_singleton] at short
  omega

theorem Tidy.mem_fileNames {root : Place} {memory : Memory} (tidy : Tidy root memory)
    {name : String} :
    name ∈ memory.tree.fileNames root ↔ memory.tree.isFile (root ++ [name]) = true := by
  rw [Tree.mem_fileNames]
  exact ⟨fun listed => (tidy name listed).2, Tree.lists_of_isFile⟩

theorem Tidy.fileNames_eq {root : Place} {one other : Memory} (tidy : Tidy root one)
    (otherTidy : Tidy root other)
    (same : ∀ name, one.tree.isFile (root ++ [name]) = other.tree.isFile (root ++ [name])) :
    one.tree.fileNames root = other.tree.fileNames root := by
  apply Text.ordered_congr
  intro name
  have here : name ∈ one.tree.fileNames root ↔ _ := tidy.mem_fileNames
  have there : name ∈ other.tree.fileNames root ↔ _ := otherTidy.mem_fileNames
  unfold Tree.fileNames at here there
  rw [Text.mem_ordered] at here there
  rw [here, there, same name]

theorem Tidy.of_put {root place : Place} {memory : Memory} (tidy : Tidy root memory)
    (inhabited : place ≠ []) (proper : ∀ name, place = root ++ [name] → Path.IsName name)
    (bytes : ByteArray) : Tidy root (memory.put place bytes) := by
  intro name listed
  rcases listed.of_set with held | ⟨same, -⟩
  · obtain ⟨isName, file⟩ := tidy name held.of_withDirs
    refine ⟨isName, Tree.isFile_set_of_isFile ?_ bytes⟩
    rwa [Tree.isFile_withDirs]
  · refine ⟨proper name same.symm, Tree.isFile_iff.mpr ⟨bytes, ?_⟩⟩
    rw [same]
    exact get?_put_self inhabited bytes

theorem Tidy.withDirs {root : Place} {memory : Memory} (tidy : Tidy root memory) (place : Place) :
    Tidy root { memory with tree := memory.tree.withDirs place } := by
  intro name listed
  obtain ⟨isName, file⟩ := tidy name listed.of_withDirs
  refine ⟨isName, ?_⟩
  rwa [Tree.isFile_withDirs]

theorem Tidy.copy {root : Place} {memory : Memory} (tidy : Tidy root memory)
    {source target : Path} (proper : ∀ name, memory.place target = root ++ [name] → Path.IsName name) :
    Tidy root (memory.copy source target).2 := by
  unfold Memory.copy change
  dsimp only
  split
  · exact tidy
  cases made : makeDirs memory.tree (memory.place target).dropLast with
  | error fault => exact tidy
  | ok changed =>
    have dirs := tidy.withDirs (memory.place target).dropLast
    rw [← makeDirs_eq_ok made] at dirs
    cases read : contents changed (memory.place source) with
    | error fault => simpa [read] using dirs
    | ok bytes =>
      cases stored : putFile changed (memory.place target) bytes with
      | error fault => simpa [read, stored, settle] using dirs
      | ok final =>
        obtain ⟨inside, rfl⟩ := putFile_eq_ok stored
        have put := tidy.of_put inside proper bytes
        unfold Memory.put at put
        rw [← makeDirs_eq_ok made] at put
        simpa [read, stored, settle] using put

/-- Files with a home that list only proper files directly inside a directory. -/
structure Orderly (home : Place) (directory : Path) (memory : Memory) : Prop where
  base : memory.home = home
  tidy : Tidy (locate home directory) memory

theorem Orderly.of_mem_fileNames {home : Place} {directory : Path} {memory : Memory}
    (orderly : Orderly home directory memory) {names : List String}
    (listed : memory.fileNames directory = .ok names) {name : String} (member : name ∈ names) :
    Path.IsName name ∧ memory.tree.isFile (locate home directory ++ [name]) = true := by
  unfold fileNames at listed
  dsimp only at listed
  split at listed
  · cases listed
  · split at listed
    · cases listed
      rw [place, orderly.base, Tree.mem_fileNames] at member
      exact orderly.tidy name member
    · cases listed

/-- Files copied directly into a directory leave it orderly. -/
theorem Orderly.copy {home : Place} {directory : Path} {memory : Memory}
    (orderly : Orderly home directory memory) (source : Path) {name : String}
    (isName : Path.IsName name) : Orderly home directory (memory.copy source (directory / name)).2 where
  base := (grows_copy source _ memory).base.trans orderly.base
  tidy := by
    apply orderly.tidy.copy
    intro other same
    rw [place, orderly.base, locate_join_name isName, List.append_cancel_left_eq] at same
    rwa [← List.singleton_inj.mp same]

theorem Bare.createDirs {root : Place} {memory : Memory} (bare : Bare root memory) (path : Path) :
    Bare root (memory.createDirs path).2 := by
  unfold Memory.createDirs change
  dsimp only
  split
  · exact bare
  · cases made : makeDirs memory.tree (memory.place path) with
    | error fault => exact bare
    | ok changed =>
      intro place below listed
      rw [makeDirs_eq_ok made] at listed
      exact bare place below (Tree.Lists.of_withDirs listed)

theorem Bare.clearDir {root : Place} {memory : Memory} (bare : Bare root memory) (path : Path) :
    Bare root (memory.clearDir path).2 := by
  unfold Memory.clearDir change
  dsimp only
  split
  · exact bare
  · split
    · exact fun place below listed => bare place below (Tree.Lists.of_clear listed).1
    · exact bare

theorem bare_of_clearDir {memory after : Memory} {path : Path}
    (h : memory.clearDir path = (.ok (), after)) : Bare (memory.place path) after := by
  rw [clearDir_eq_ok h]
  intro place below listed
  rw [(Tree.Lists.of_clear listed).2] at below
  cases below

end Memory

namespace Local

theorem fileNames_of_directory {path : Path} {disk : Local} {place : Place}
    (leads : disk.directory path = .ok place) :
    disk.fileNames path = .ok (disk.tree.fileNames place) := by
  rw [fileNames, leads]
  rfl

end Local

end GameBundle
