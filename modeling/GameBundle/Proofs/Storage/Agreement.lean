import GameBundle.Proofs.Storage.Relations

/-!
# Operations on files that agree

Two states of the files may hold the same at some places and differ at others. An
operation that works where they agree ends alike in both, and they agree afterwards. To
make a directory it is enough that the same places on the way are files, and where a
directory has been made or cleared in both they agree from then on.
-/

namespace GameBundle

/-- Two results with the same outcome, whose states are related as the outcome asks. -/
inductive Alike {ε α σ : Type} (done : α → σ → σ → Prop) (failed : σ → σ → Prop) :
    Except ε α × σ → Except ε α × σ → Prop where
  | ok (a : α) {one other : σ} (related : done a one other) : Alike done failed (.ok a, one) (.ok a, other)
  | error (fault : ε) {one other : σ} (related : failed one other) :
    Alike done failed (.error fault, one) (.error fault, other)

namespace Alike

variable {ε α σ : Type} {done wider : α → σ → σ → Prop} {failed weaker : σ → σ → Prop}
  {one other : Except ε α × σ}

theorem mono (alike : Alike done failed one other)
    (ends : ∀ a x y, done a x y → wider a x y) (fails : ∀ x y, failed x y → weaker x y) :
    Alike wider weaker one other := by
  cases alike with
  | ok a related => exact .ok a (ends a _ _ related)
  | error fault related => exact .error fault (fails _ _ related)

theorem outcome (alike : Alike done failed one other) : one.1 = other.1 := by
  cases alike <;> rfl

/-- Results that are related whatever the outcome is. -/
theorem related {always : σ → σ → Prop} (alike : Alike (fun _ => always) always one other) :
    always one.2 other.2 := by
  cases alike <;> assumption

end Alike

namespace Tree

/-- Two trees hold the same at shared places, and have the same files where `above` holds. -/
structure Agree (shared above : Place → Prop) (one other : Tree) : Prop where
  same : ∀ place, shared place → one.get? place = other.get? place
  files : ∀ place, above place → one.isFile place = other.isFile place

variable {shared above : Place → Prop} {one other : Tree}

theorem isFile_congr {place : Place} (same : one.get? place = other.get? place) :
    one.isFile place = other.isFile place := by
  unfold isFile
  rw [same]

theorem isDirectory_congr {place : Place} (same : one.get? place = other.get? place) :
    one.isDirectory place = other.isDirectory place := by
  unfold isDirectory
  rw [same]

/-- Where no file stands on the way, all places on it are directories afterwards. -/
theorem get?_withDirs_of_clear {tree : Tree} {place sought : Place} (before : sought <+: place)
    (clear : tree.isFile sought = false) :
    (tree.withDirs place).get? sought = some .directory := by
  rw [get?_withDirs]
  cases held : tree.get? sought with
  | none => simp [before]
  | some node =>
    cases node with
    | directory => simp
    | file contents => simp [isFile, held] at clear

namespace Agree

theorem mono {fewer lower : Place → Prop} (agree : Agree shared above one other)
    (wide : ∀ place, fewer place → shared place)
    (high : ∀ place, lower place → shared place ∨ above place) : Agree fewer lower one other where
  same place inside := agree.same place (wide place inside)
  files place inside := (high place inside).elim
    (fun held => isFile_congr (agree.same place held)) (agree.files place)

theorem set (agree : Agree shared above one other) (place : Place) (node : Node) :
    Agree shared above (one.set place node) (other.set place node) where
  same sought inside := by
    by_cases same : sought = place
    · subst same
      by_cases root : sought = []
      · subst root
        rfl
      · rw [get?_set_self root, get?_set_self root]
    · rw [get?_set_of_ne same, get?_set_of_ne same]
      exact agree.same sought inside
  files sought inside := by
    by_cases same : sought = place
    · subst same
      by_cases root : sought = []
      · subst root
        rfl
      · apply isFile_congr
        rw [get?_set_self root, get?_set_self root]
    · unfold isFile
      rw [get?_set_of_ne same, get?_set_of_ne same]
      exact agree.files sought inside

theorem withDirs (agree : Agree shared above one other) (place : Place) :
    Agree shared above (one.withDirs place) (other.withDirs place) where
  same sought inside := by
    rw [get?_withDirs, get?_withDirs, agree.same sought inside]
  files sought inside := by
    rw [isFile_withDirs, isFile_withDirs, agree.files sought inside]

theorem clear (agree : Agree shared above one other) (place : Place) :
    Agree shared above (one.clear place) (other.clear place) where
  same sought inside := by
    rw [get?_clear, get?_clear, agree.same sought inside]
  files sought inside := by
    rw [isFile_clear, isFile_clear, agree.files sought inside]

theorem on_way (agree : Agree shared above one other) {place sought : Place}
    (way : Memory.Way shared above place) (before : sought <+: place) :
    one.isFile sought = other.isFile sought :=
  (way sought before).elim (fun held => isFile_congr (agree.same sought held))
    (agree.files sought)

end Agree

end Tree

namespace Memory

variable {home : Place} {shared above : Place → Prop} {one other : Memory}

theorem admits_of_all (all : ∀ spot, shared spot) (place : Place) : Admits shared above place :=
  ⟨all place, fun other _ => .inl (all other)⟩

/-- Two states of the files with the same home and denials agree. -/
structure Agree (home : Place) (shared above : Place → Prop) (one other : Memory) : Prop where
  base : one.home = home
  otherBase : other.home = home
  denied : one.denied = other.denied
  tree : Tree.Agree shared above one.tree other.tree

namespace Agree

theorem self (memory : Memory) : Agree memory.home shared above memory memory :=
  ⟨rfl, rfl, rfl, fun _ _ => rfl, fun _ _ => rfl⟩

theorem mono {fewer lower : Place → Prop} (agree : Agree home shared above one other)
    (wide : ∀ place, fewer place → shared place)
    (high : ∀ place, lower place → shared place ∨ above place) : Agree home fewer lower one other :=
  ⟨agree.base, agree.otherBase, agree.denied, agree.tree.mono wide high⟩

theorem place_eq (agree : Agree home shared above one other) (path : Path) :
    one.place path = locate home path ∧ other.place path = locate home path := by
  unfold place
  rw [agree.base, agree.otherBase]
  exact ⟨rfl, rfl⟩

theorem isDenied_eq (agree : Agree home shared above one other) (call : StorageCall)
    (place : Place) : one.isDenied call place = other.isDenied call place := by
  unfold isDenied
  rw [agree.denied]

theorem isFile_eq (agree : Agree home shared above one other) {path : Path}
    (inside : shared (locate home path)) : one.isFile path = other.isFile path := by
  obtain ⟨here, there⟩ := agree.place_eq path
  rw [isFile, isFile, here, there]
  exact Tree.isFile_congr (agree.tree.same _ inside)

theorem readText_eq (agree : Agree home shared above one other) {path : Path}
    (inside : shared (locate home path)) : one.readText path = other.readText path := by
  obtain ⟨here, there⟩ := agree.place_eq path
  simp only [readText, here, there, agree.isDenied_eq, contents, agree.tree.same _ inside]

private theorem change {wider : Place → Prop} {call : StorageCall} {place : Place}
    {act : Tree → Except StorageFault Unit × Tree} (agree : Agree home shared above one other)
    (acts : Alike (fun _ => Tree.Agree wider above) (Tree.Agree shared above) (act one.tree)
      (act other.tree)) :
    Alike (fun _ => Agree home wider above) (Agree home shared above) (one.change call place act)
      (other.change call place act) := by
  unfold Memory.change
  rw [agree.isDenied_eq]
  split
  · exact .error _ agree
  · generalize act one.tree = here at acts
    generalize act other.tree = there at acts
    cases acts with
    | ok done trees => exact .ok done ⟨agree.base, agree.otherBase, agree.denied, trees⟩
    | error fault trees => exact .error fault ⟨agree.base, agree.otherBase, agree.denied, trees⟩

/-- Directories are made alike, and no file stands on the way when they are. -/
private theorem makeDirs_cases {one other : Tree} (agree : Tree.Agree shared above one other)
    {place : Place} (way : Way shared above place) :
    (∃ fault, makeDirs one place = .error fault ∧ makeDirs other place = .error fault) ∨
      (makeDirs one place = .ok (one.withDirs place) ∧
        makeDirs other place = .ok (other.withDirs place) ∧
        ∀ sought, sought <+: place → one.isFile sought = false) := by
  have last := agree.on_way way List.prefix_rfl
  have all : (Tree.upTo place).any one.isFile = (Tree.upTo place).any other.isFile := by
    rw [Bool.eq_iff_iff, List.any_eq_true, List.any_eq_true]
    refine exists_congr fun sought => and_congr_right fun member => ?_
    rw [agree.on_way way (Tree.mem_upTo.mp member).2]
  unfold makeDirs
  rw [← last, ← all]
  cases here : one.isFile place with
  | true => exact .inl ⟨_, rfl, rfl⟩
  | false =>
    cases passed : (Tree.upTo place).any one.isFile with
    | true => exact .inl ⟨_, rfl, rfl⟩
    | false =>
      refine .inr ⟨rfl, rfl, fun sought before => ?_⟩
      by_cases root : sought = []
      · subst root
        rfl
      · exact Bool.eq_false_iff.mpr
          (List.any_eq_false.mp passed sought (Tree.mem_upTo.mpr ⟨root, before⟩))

/-- When a directory is made, the states agree on all places on the way to it. -/
theorem createDirs (agree : Agree home shared above one other) {path : Path}
    (way : Way shared above (locate home path)) :
    Alike (fun _ => Agree home (fun place => shared place ∨ place <+: locate home path) above)
      (Agree home shared above) (one.createDirs path) (other.createDirs path) := by
  obtain ⟨here, there⟩ := agree.place_eq path
  unfold Memory.createDirs
  rw [here, there]
  refine change agree ?_
  rcases makeDirs_cases agree.tree way with ⟨fault, failed, again⟩ | ⟨made, again, clear⟩
  · rw [failed, again]
    exact .error fault agree.tree
  · rw [made, again]
    refine .ok () ⟨?_, (agree.tree.withDirs _).files⟩
    rintro place (inside | before)
    · exact (agree.tree.withDirs _).same place inside
    · have free := clear place before
      rw [Tree.get?_withDirs_of_clear before free]
      rw [agree.tree.on_way way before] at free
      rw [Tree.get?_withDirs_of_clear before free]

/-- When a directory is cleared, the states agree on it and on all below it. -/
theorem clearDir (agree : Agree home shared above one other) {path : Path}
    (inside : shared (locate home path)) :
    Alike (fun _ => Agree home (fun place => shared place ∨ locate home path <+: place) above)
      (Agree home shared above) (one.clearDir path) (other.clearDir path) := by
  obtain ⟨here, there⟩ := agree.place_eq path
  unfold Memory.clearDir
  rw [here, there]
  refine change agree ?_
  have same := agree.tree.same _ inside
  rw [← Tree.isDirectory_congr same]
  split
  · refine .ok () ⟨?_, (agree.tree.clear _).files⟩
    rintro place (held | below)
    · exact (agree.tree.clear _).same place held
    · rw [Tree.get?_clear, Tree.get?_clear]
      split
      · rfl
      · rename_i notBelow
        have equal : place = locate home path := by
          by_contra apart
          exact notBelow (Tree.isBelow_iff.mpr ⟨below, apart⟩)
        rw [equal, same]
  · exact .error _ agree.tree

private theorem putFile {one other : Tree} (agree : Tree.Agree shared above one other)
    {place : Place} (inside : shared place) (bytes : ByteArray) :
    Alike (fun _ => Tree.Agree shared above) (Tree.Agree shared above)
      (settle one (Memory.putFile one place bytes))
      (settle other (Memory.putFile other place bytes)) := by
  unfold Memory.putFile
  rw [Tree.isDirectory_congr (agree.same place inside)]
  split
  · exact .error _ agree
  · exact .ok () (agree.set place _)

theorem write (agree : Agree home shared above one other) {path : Path}
    (admits : Admits shared above (locate home path)) (text : String) :
    Alike (fun _ => Agree home shared above) (Agree home shared above) (one.write path text)
      (other.write path text) := by
  obtain ⟨here, there⟩ := agree.place_eq path
  unfold Memory.write
  rw [here, there]
  refine change agree ?_
  unfold store
  rcases makeDirs_cases agree.tree admits.way with ⟨fault, failed, again⟩ | ⟨made, again, -⟩
  · rw [failed, again]
    exact .error fault agree.tree
  · rw [made, again]
    exact putFile (agree.tree.withDirs _) admits.target _

theorem copy (agree : Agree home shared above one other) {source target : Path}
    (inside : shared (locate home source)) (admits : Admits shared above (locate home target)) :
    Alike (fun _ => Agree home shared above) (Agree home shared above) (one.copy source target)
      (other.copy source target) := by
  obtain ⟨here, there⟩ := agree.place_eq target
  obtain ⟨origin, otherOrigin⟩ := agree.place_eq source
  unfold Memory.copy
  rw [here, there, origin, otherOrigin]
  refine change agree ?_
  rcases makeDirs_cases agree.tree admits.way with ⟨fault, failed, again⟩ | ⟨made, again, -⟩
  · rw [failed, again]
    exact .error fault agree.tree
  · have dirs := agree.tree.withDirs (locate home target).dropLast
    have read : contents (one.tree.withDirs (locate home target).dropLast) (locate home source) =
        contents (other.tree.withDirs (locate home target).dropLast) (locate home source) := by
      unfold contents
      rw [dirs.same _ inside]
    rw [made, again]
    dsimp only
    rw [read]
    cases contents (other.tree.withDirs (locate home target).dropLast) (locate home source) with
    | error fault => exact .error fault dirs
    | ok bytes => exact putFile dirs admits.target bytes

end Agree

end Memory

end GameBundle
