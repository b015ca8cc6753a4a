import GameBundle.Proofs.Path.Parent
import GameBundle.Proofs.Storage.Intake
import GameBundle.Proofs.Storage.Route
import GameBundle.Storage.Local

/-!
# Copies on the local disk

Nothing on the disk stands for something else, so a path that leads anywhere leads to the
place that its text denotes. A file that is put changes no directory, and what other paths
lead to stays. So a directory that is there takes copies on the disk as well.
-/

namespace GameBundle.Local

open GameBundle.Path (IsName isVoid splitParts)
open Memory (locate step)

variable {tree : Tree} {place spot target : Place} {node : Node} {part : List Char}
  {parts rest : List (List Char)}

/-- Whether a part of a path leads on from a directory. -/
def Passes (tree : Tree) (place : Place) (part : List Char) : Prop :=
  isVoid part = true ∨ part = ['.', '.'] ∨
    (String.ofList part).utf8ByteSize ≤ longestName ∧ (tree.get? (step place part)).isSome

/-- What is found at the end of a path is found from directory to directory. -/
theorem walk_cons_eq_taken : walk tree place (part :: rest) = .ok (.taken spot node) ↔
    tree.isDirectory place = true ∧ Passes tree place part ∧
      walk tree (step place part) rest = .ok (.taken spot node) := by
  rw [walk, Passes]
  cases directory : tree.isDirectory place with
  | false =>
    simp only [Bool.not_false, if_true, Bool.false_eq_true, false_and, iff_false]
    split <;> rintro ⟨⟩
  | true =>
    simp only [Bool.not_true, Bool.false_eq_true, if_false, true_and]
    by_cases void : isVoid part = true
    · simp [void, Memory.step_of_void void]
    · by_cases up : part = ['.', '.']
      · simp [up, step, show isVoid ['.', '.'] = false from rfl]
      · have next : step place part = place ++ [String.ofList part] := by simp [step, void, up]
        simp only [void, up, if_false, next, false_or, Bool.false_eq_true]
        by_cases long : longestName < (String.ofList part).utf8ByteSize
        · simp only [long, if_true, Nat.not_le.mpr long, false_and, iff_false]
          split <;> rintro ⟨⟩
        · simp only [long, if_false, Nat.not_lt.mp long, true_and]
          cases there : (tree.get? (place ++ [String.ofList part])).isSome with
          | true => simp
          | false =>
            simp only [Bool.false_eq_true, if_false, false_and, iff_false]
            split <;> rintro ⟨⟩

theorem walk_nil_eq_taken :
    walk tree place [] = .ok (.taken spot node) ↔ place = spot ∧ tree.get? spot = some node := by
  rw [walk]
  cases held : tree.get? place with
  | none =>
    constructor
    · exact nofun
    · rintro ⟨rfl, there⟩
      rw [held] at there
      cases there
  | some other =>
    simp only [Except.ok.injEq, Spot.taken.injEq]
    constructor
    · rintro ⟨rfl, rfl⟩
      exact ⟨rfl, held⟩
    · rintro ⟨rfl, there⟩
      exact ⟨rfl, Option.some.inj (held.symm.trans there)⟩

/-- What a path leads to stands where the text of the path leads. -/
theorem of_walk (walked : walk tree place parts = .ok (.taken spot node)) :
    spot = parts.foldl step place ∧ tree.get? spot = some node := by
  induction parts generalizing place with
  | nil =>
    obtain ⟨rfl, held⟩ := walk_nil_eq_taken.mp walked
    exact ⟨rfl, held⟩
  | cons part rest ih =>
    obtain ⟨-, -, later⟩ := walk_cons_eq_taken.mp walked
    exact ih later

/-- Nothing is found behind what is no directory. -/
theorem eq_of_walk (single : tree.isDirectory place = false)
    (walked : walk tree place parts = .ok (.taken spot node)) : spot = place := by
  cases parts with
  | nil => exact (walk_nil_eq_taken.mp walked).1.symm
  | cons part rest =>
    rw [(walk_cons_eq_taken.mp walked).1] at single
    cases single

theorem walk_solid : walk tree place parts = .ok (.taken spot .directory) ↔
    walk tree place (parts.filter fun part => !isVoid part) = .ok (.taken spot .directory) := by
  induction parts generalizing place with
  | nil => rfl
  | cons part rest ih =>
    rw [walk_cons_eq_taken, ih]
    cases void : isVoid part with
    | false => rw [List.filter_cons_of_pos (by simp [void]), walk_cons_eq_taken]
    | true =>
      rw [List.filter_cons_of_neg (by simp [void]), Memory.step_of_void void]
      refine ⟨fun found => found.2.2, fun walked => ⟨?_, .inl void, walked⟩⟩
      by_contra single
      have single : tree.isDirectory place = false := by simpa using single
      obtain ⟨-, held⟩ := of_walk walked
      rw [eq_of_walk single walked] at held
      simp [Tree.isDirectory, held] at single

section

variable (bytes : ByteArray) (free : tree.isDirectory target = false)

include free

theorem ne_nil_of_not_isDirectory : target ≠ [] := by
  rintro rfl
  cases free

theorem get?_set_file : (tree.set target (.file bytes)).get? target = some (.file bytes) :=
  Tree.get?_set_self (ne_nil_of_not_isDirectory free)

theorem isDirectory_set_file (place : Place) :
    (tree.set target (.file bytes)).isDirectory place = tree.isDirectory place := by
  by_cases same : place = target
  · rw [same, free, Tree.isDirectory, get?_set_file bytes free]
    rfl
  · rw [Tree.isDirectory, Tree.isDirectory, Tree.get?_set_of_ne same]

theorem Passes.set_file (passes : Passes tree place part) :
    Passes (tree.set target (.file bytes)) place part := by
  refine passes.imp_right (.imp_right (.imp_right fun there => ?_))
  by_cases same : step place part = target
  · rw [same, get?_set_file bytes free]
    rfl
  · rwa [Tree.get?_set_of_ne same]

/-- A file that is put changes nothing for paths that lead elsewhere. -/
theorem walk_set_file (apart : spot ≠ target) :
    walk (tree.set target (.file bytes)) place parts = .ok (.taken spot node) ↔
      walk tree place parts = .ok (.taken spot node) := by
  induction parts generalizing place with
  | nil => rw [walk_nil_eq_taken, walk_nil_eq_taken, Tree.get?_set_of_ne apart]
  | cons part rest ih =>
    rw [walk_cons_eq_taken, walk_cons_eq_taken, ih, isDirectory_set_file bytes free]
    by_cases here : step place part = target
    · have lost : walk tree (step place part) rest ≠ .ok (.taken spot node) := by
        rw [here]
        exact fun walked => apart (eq_of_walk free walked)
      simp [lost]
    · rw [Passes, Tree.get?_set_of_ne here, Passes]

end

/-- Free names are found from directory to directory, and are the last in a path. -/
theorem of_walk_cons_vacant (walked : walk tree place (part :: rest) = .ok (.vacant target false)) :
    tree.isDirectory place = true ∧
      (Passes tree place part ∧ walk tree (step place part) rest = .ok (.vacant target false) ∨
        (String.ofList part).utf8ByteSize ≤ longestName ∧ step place part = target ∧
          tree.get? target = none ∧ rest = []) := by
  rw [walk] at walked
  cases directory : tree.isDirectory place with
  | false =>
    simp only [directory, Bool.not_false, if_true] at walked
    split at walked <;> cases walked
  | true =>
    simp only [directory, Bool.not_true, Bool.false_eq_true, if_false] at walked
    refine ⟨rfl, ?_⟩
    by_cases void : isVoid part = true
    · rw [if_pos void] at walked
      exact .inl ⟨.inl void, by rwa [Memory.step_of_void void]⟩
    · rw [if_neg void] at walked
      by_cases up : part = ['.', '.']
      · rw [if_pos up] at walked
        subst up
        exact .inl ⟨.inr (.inl rfl), walked⟩
      · have next : step place part = place ++ [String.ofList part] := by simp [step, void, up]
        rw [if_neg up, ← next] at walked
        by_cases long : longestName < (String.ofList part).utf8ByteSize
        · rw [if_pos long] at walked
          split at walked <;> cases walked
        · rw [if_neg long] at walked
          have short := Nat.not_lt.mp long
          cases there : tree.get? (step place part) with
          | some node =>
            rw [there, Option.isSome_some, if_pos rfl] at walked
            exact .inl ⟨.inr (.inr ⟨short, by rw [there]; rfl⟩), walked⟩
          | none =>
            rw [there, Option.isSome_none, if_neg Bool.false_ne_true] at walked
            split at walked
            · simp only [Except.ok.injEq, Spot.vacant.injEq, Bool.not_eq_false', List.isEmpty_iff]
                at walked
              obtain ⟨same, last⟩ := walked
              exact .inr ⟨short, same, same ▸ there, last⟩
            · cases walked

theorem get?_of_walk_vacant (walked : walk tree place parts = .ok (.vacant target false)) :
    tree.get? target = none := by
  induction parts generalizing place with
  | nil =>
    rw [walk] at walked
    split at walked <;> cases walked
  | cons part rest ih =>
    obtain ⟨-, ⟨-, later⟩ | ⟨-, -, free, -⟩⟩ := of_walk_cons_vacant walked
    · exact ih later
    · exact free

/-- A path that leads to a free name leads to the file that is put there. -/
theorem walk_set_of_vacant (bytes : ByteArray)
    (walked : walk tree place parts = .ok (.vacant target false)) :
    walk (tree.set target (.file bytes)) place parts = .ok (.taken target (.file bytes)) := by
  have absent := get?_of_walk_vacant walked
  have free : tree.isDirectory target = false := by
    rw [Tree.isDirectory, absent]
    rfl
  induction parts generalizing place with
  | nil =>
    rw [walk] at walked
    split at walked <;> cases walked
  | cons part rest ih =>
    obtain ⟨directory, ⟨passes, later⟩ | ⟨short, same, -, rfl⟩⟩ := of_walk_cons_vacant walked
    · refine walk_cons_eq_taken.mpr ⟨?_, passes.set_file bytes free, ih later⟩
      rwa [isDirectory_set_file bytes free]
    · refine walk_cons_eq_taken.mpr ⟨?_, .inr (.inr ⟨short, ?_⟩), ?_⟩
      · rwa [isDirectory_set_file bytes free]
      · rw [same, get?_set_file bytes free]
        rfl
      · rw [same]
        exact walk_nil_eq_taken.mpr ⟨rfl, get?_set_file bytes free⟩

/-- A path that leads to a file leads to what is put there instead. -/
theorem walk_set_of_taken (bytes : ByteArray) {held : ByteArray}
    (walked : walk tree place parts = .ok (.taken target (.file held))) :
    walk (tree.set target (.file bytes)) place parts = .ok (.taken target (.file bytes)) := by
  obtain ⟨-, there⟩ := of_walk walked
  have free : tree.isDirectory target = false := by
    rw [Tree.isDirectory, there]
    rfl
  induction parts generalizing place with
  | nil =>
    exact walk_nil_eq_taken.mpr ⟨(walk_nil_eq_taken.mp walked).1, get?_set_file bytes free⟩
  | cons part rest ih =>
    obtain ⟨directory, passes, later⟩ := walk_cons_eq_taken.mp walked
    refine walk_cons_eq_taken.mpr ⟨?_, passes.set_file bytes free, ih later⟩
    rwa [isDirectory_set_file bytes free]

variable {disk after : Local} {path source directory : Path} {name : String}

def Sayable (path : Path) : Prop :=
  '\x00' ∉ path.text.toList ∧ path.text ≠ "" ∧ path.text.utf8ByteSize ≤ longestPath

def start (disk : Local) (path : Path) : Place := if path.isAbsolute then [] else disk.home

theorem resolve_of_sayable (sayable : Sayable path) :
    disk.resolve path = walk disk.tree (disk.start path) (splitParts path.text.toList) := by
  obtain ⟨clean, named, short⟩ := sayable
  simp [resolve, clean, named, Nat.not_lt.mpr short, start]

theorem sayable_of_resolve {spot : Spot} (resolved : disk.resolve path = .ok spot) :
    Sayable path := by
  unfold resolve at resolved
  split at resolved
  · cases resolved
  · split at resolved
    · cases resolved
    · split at resolved
      · cases resolved
      · rename_i clean named short
        exact ⟨by simpa using clean, by simpa using named, Nat.not_lt.mp short⟩

/-- A path that leads to something leads to the place that its text denotes. -/
theorem of_resolve (resolved : disk.resolve path = .ok (.taken spot node)) :
    spot = locate disk.home path ∧ disk.tree.get? spot = some node := by
  rw [resolve_of_sayable (sayable_of_resolve resolved)] at resolved
  exact of_walk resolved

def put (disk : Local) (place : Place) (bytes : ByteArray) : Local :=
  { disk with tree := disk.tree.set place (.file bytes) }

theorem resolve_put (bytes : ByteArray) (free : disk.tree.isDirectory target = false)
    (apart : spot ≠ target) :
    (disk.put target bytes).resolve path = .ok (.taken spot node) ↔
      disk.resolve path = .ok (.taken spot node) := by
  by_cases sayable : Sayable path
  · rw [resolve_of_sayable sayable, resolve_of_sayable sayable]
    exact walk_set_file bytes free apart
  · exact iff_of_false (fun found => sayable (sayable_of_resolve found))
      fun found => sayable (sayable_of_resolve found)

theorem isDirectory_iff :
    disk.isDirectory path = true ↔ ∃ spot, disk.resolve path = .ok (.taken spot .directory) := by
  unfold isDirectory
  split
  · rename_i spot found
    exact iff_of_true rfl ⟨spot, found⟩
  · rename_i lost
    exact iff_of_false Bool.false_ne_true fun ⟨spot, found⟩ => lost spot found

theorem isFile_iff : disk.isFile path = true ↔
    ∃ spot bytes, disk.resolve path = .ok (.taken spot (.file bytes)) := by
  unfold isFile
  split
  · rename_i spot bytes found
    exact iff_of_true rfl ⟨spot, bytes, found⟩
  · rename_i lost
    exact iff_of_false Bool.false_ne_true fun ⟨spot, bytes, found⟩ => lost spot bytes found

theorem read_eq_ok {bytes : ByteArray} :
    disk.read path = .ok bytes ↔ ∃ spot, disk.resolve path = .ok (.taken spot (.file bytes)) := by
  unfold read
  rcases disk.resolve path with _ | (⟨_, _ | _⟩ | _ | _ | _) <;> simp [eq_comm]

/-- A directory that is there need not be made. -/
theorem createDirs_of_isDirectory (there : disk.isDirectory path = true) :
    disk.createDirs path = (.ok (), disk) := by
  obtain ⟨spot, found⟩ := isDirectory_iff.mp there
  have stays : disk.ensureDir path = (.ok (), disk) := by
    simp [ensureDir, makeDir, found, there, fault]
  unfold createDirs createLevels
  cases path.parent? with
  | none => rfl
  | some parent => simp [stays]

theorem Sayable.shorten {other : Path} (sayable : Sayable path) (named : other.text ≠ "")
    (before : other.text.toList <+: path.text.toList) : Sayable other := by
  obtain ⟨clean, -, short⟩ := sayable
  obtain ⟨behind, whole⟩ := before
  have text : path.text = other.text ++ String.ofList behind := by
    rw [← String.toList_inj, String.toList_append, String.toList_ofList, whole]
  refine ⟨?_, named, ?_⟩
  · rw [← whole, List.mem_append, not_or] at clean
    exact clean.1
  · rw [text, String.utf8ByteSize_append] at short
    exact (Nat.le_add_right _ _).trans short

/-- The same directory is found without the end of its path. -/
theorem isDirectory_above {above : Path} (isName : IsName name)
    (there : disk.isDirectory directory = true) (sayable : Sayable above)
    (before : above.text.toList <+: (directory / name).text.toList)
    (solid : above.solidParts = directory.solidParts) : disk.isDirectory above = true := by
  obtain ⟨spot, found⟩ := isDirectory_iff.mp there
  have absolute : above.isAbsolute = directory.isAbsolute := by
    refine Eq.trans ?_ (Path.isAbsolute_join isName)
    obtain ⟨behind, whole⟩ := before
    obtain ⟨first, others, chars⟩ := List.exists_cons_of_ne_nil
      (show above.text.toList ≠ [] by simpa using sayable.2.1)
    rw [Path.isAbsolute, Path.isAbsolute, ← whole, chars]
    rfl
  refine isDirectory_iff.mpr ⟨spot, ?_⟩
  rw [resolve_of_sayable (sayable_of_resolve found), walk_solid] at found
  rw [resolve_of_sayable sayable, walk_solid, start, absolute]
  exact (congrArg (walk _ _) solid).trans found

/-- Nothing is made above a name in a directory that is there. -/
theorem createParent_join (isName : IsName name) (there : disk.isDirectory directory = true)
    (sayable : Sayable (directory / name)) :
    disk.createParent (directory / name) = (.ok (), disk) := by
  obtain ⟨spot, found⟩ := isDirectory_iff.mp there
  obtain ⟨above, parent, before, solid⟩ :=
    Path.parent?_join_name isName (sayable_of_resolve found).2.1
  rw [createParent, parent]
  dsimp only
  by_cases blank : above.text = ""
  · rw [show above = ⟨""⟩ from congrArg Path.mk blank]
    rfl
  · exact createDirs_of_isDirectory
      (isDirectory_above isName there (sayable.shorten blank before) before solid)

theorem of_target (free : disk.target path = .ok spot) :
    (∃ held, disk.resolve path = .ok (.taken spot (.file held))) ∨
      disk.resolve path = .ok (.vacant spot false) := by
  unfold target at free
  rcases resolved : disk.resolve path with _ | (⟨_, _ | held⟩ | ⟨_, _ | _⟩ | _ | _) <;>
    simp [resolved] at free
  · exact .inl ⟨held, by rw [free]⟩
  · exact .inr (by rw [free])

theorem isDirectory_of_target (free : disk.target path = .ok spot) :
    disk.tree.isDirectory spot = false := by
  rw [Tree.isDirectory]
  rcases of_target free with ⟨held, found⟩ | vacant
  · rw [(of_resolve found).2]
    rfl
  · rw [resolve_of_sayable (sayable_of_resolve vacant)] at vacant
    rw [get?_of_walk_vacant vacant]
    rfl

/-- Where a file can be put, it is found afterwards. -/
theorem resolve_put_target (bytes : ByteArray) (free : disk.target path = .ok spot) :
    (disk.put spot bytes).resolve path = .ok (.taken spot (.file bytes)) := by
  rcases of_target free with ⟨held, found⟩ | vacant
  · have sayable := sayable_of_resolve found
    rw [resolve_of_sayable sayable] at found ⊢
    exact walk_set_of_taken bytes found
  · have sayable := sayable_of_resolve vacant
    rw [resolve_of_sayable sayable] at vacant ⊢
    exact walk_set_of_vacant bytes vacant

theorem putFile_eq_ok {bytes : ByteArray} (done : disk.putFile path bytes = (.ok (), after)) :
    disk.target path = .ok (locate disk.home path) ∧
      after = disk.put (locate disk.home path) bytes := by
  unfold putFile at done
  cases free : disk.target path with
  | error problem =>
    rw [free] at done
    cases done
  | ok spot =>
    rw [free] at done
    obtain ⟨same, -⟩ := of_resolve (resolve_put_target bytes free)
    rw [show spot = locate disk.home path from same] at done ⊢
    cases done
    exact ⟨rfl, rfl⟩

theorem sayable_of_target (free : disk.target path = .ok spot) : Sayable path := by
  rcases of_target free with ⟨held, found⟩ | vacant
  · exact sayable_of_resolve found
  · exact sayable_of_resolve vacant

theorem source_eq_ok {bytes : ByteArray} (found : disk.source path = .ok (spot, bytes)) :
    disk.resolve path = .ok (.taken spot (.file bytes)) := by
  unfold source at found
  rcases resolved : disk.resolve path with _ | (⟨_, _ | held⟩ | _ | _ | _) <;>
    simp [resolved] at found
  rw [found.1, found.2]

theorem sayable_of_copy (done : disk.copy source path = (.ok (), after)) : Sayable path := by
  unfold copy at done
  rcases made : disk.createParent path with ⟨_ | _, between⟩
  · rw [made] at done
    cases done
  · rw [made] at done
    dsimp only at done
    cases origin : between.source source with
    | error problem =>
      rw [origin] at done
      cases done
    | ok held =>
      rw [origin] at done
      exact sayable_of_target (putFile_eq_ok done).1

/-- A copy into a directory that is there puts what the source holds under the name. -/
theorem copy_eq_ok (isName : IsName name) (there : disk.isDirectory directory = true)
    (outside : locate disk.home source ≠ locate disk.home directory ++ [name])
    (done : disk.copy source (directory / name) = (.ok (), after)) :
    ∃ bytes, disk.read source = .ok bytes ∧
      disk.target (directory / name) = .ok (locate disk.home directory ++ [name]) ∧
      after = disk.put (locate disk.home directory ++ [name]) bytes := by
  have parent := createParent_join isName there (sayable_of_copy done)
  have place : locate disk.home (directory / name) = locate disk.home directory ++ [name] :=
    Memory.locate_join_name isName
  unfold copy at done
  rw [parent] at done
  dsimp only at done
  cases origin : disk.source source with
  | error problem =>
    rw [origin] at done
    cases done
  | ok held =>
    obtain ⟨spot, bytes⟩ := held
    rw [origin] at done
    have found := source_eq_ok origin
    have free := (putFile_eq_ok done).1
    rw [place] at free
    rw [free] at done
    dsimp only at done
    rw [if_neg fun same => outside ((of_resolve found).1 ▸ same.symm)] at done
    exact ⟨bytes, read_eq_ok.mpr ⟨spot, found⟩, free, place ▸ (putFile_eq_ok done).2⟩

/-- What the file under a path holds. -/
def bytes? (path : Path) (disk : Local) : Option ByteArray := (disk.read path).toOption

theorem bytes?_eq_some {bytes : ByteArray} : disk.bytes? path = some bytes ↔
    ∃ spot, disk.resolve path = .ok (.taken spot (.file bytes)) := by
  rw [← read_eq_ok, bytes?]
  cases disk.read path <;> simp [Except.toOption]

theorem bytes?_put_of_ne (bytes : ByteArray) (free : disk.tree.isDirectory target = false)
    (apart : locate disk.home path ≠ target) :
    (disk.put target bytes).bytes? path = disk.bytes? path := by
  ext held
  rw [bytes?_eq_some, bytes?_eq_some]
  refine exists_congr fun spot => ?_
  by_cases same : spot = target
  · have lost (changed : Local) (base : changed.home = disk.home) :
        changed.resolve path ≠ .ok (.taken spot (.file held)) := by
      refine fun found => apart ?_
      rw [← base, ← (of_resolve found).1, same]
    exact iff_of_false (lost _ rfl) (lost _ rfl)
  · exact resolve_put bytes free same

theorem isDirectory_put (bytes : ByteArray) (free : disk.tree.isDirectory target = false)
    (there : disk.isDirectory path = true) : (disk.put target bytes).isDirectory path = true := by
  obtain ⟨spot, found⟩ := isDirectory_iff.mp there
  refine isDirectory_iff.mpr ⟨spot, (resolve_put bytes free ?_).mpr found⟩
  rintro rfl
  rw [Tree.isDirectory, (of_resolve found).2] at free
  cases free

/-- On the disk a directory that is there takes copies of all sources whose places are not below
its own. -/
def intake (home : Place) (directory : Path) (isSource : Path → Prop)
    (outside : ∀ source, isSource source →
      Tree.isBelow (locate home source) (locate home directory) = false) :
    Storage.Intake Local directory isSource where
  sound disk := disk.home = home ∧ disk.isDirectory directory = true
  bytes?
  isFile_eq disk source _ _ := by
    rw [Bool.eq_iff_iff, Option.isSome_iff_exists]
    simp only [bytes?_eq_some]
    exact isFile_iff.trans exists_comm
  agree disk source other one two base _ _ same held otherHeld := by
    obtain ⟨spot, found⟩ := bytes?_eq_some.mp held
    obtain ⟨place, otherFound⟩ := bytes?_eq_some.mp otherHeld
    obtain ⟨here, there⟩ := of_resolve found
    obtain ⟨otherHere, otherThere⟩ := of_resolve otherFound
    rw [here, Memory.locate_congr same, ← otherHere, otherThere] at there
    cases there
    rfl
  copied disk after source name sound known _ isName done := by
    obtain ⟨base, there⟩ := sound
    have apart (other : Path) (given : isSource other) :
        locate disk.home other ≠ locate disk.home directory ++ [name] :=
      Tree.ne_concat_of_not_isBelow (base ▸ outside other given) name
    obtain ⟨bytes, held, free, rfl⟩ := copy_eq_ok isName there (apart source known) done
    have single := isDirectory_of_target free
    refine ⟨⟨base, isDirectory_put bytes single there⟩, ?_, fun other otherName distinct => ?_,
      fun other given => ?_⟩
    · rw [bytes?_eq_some.mpr ⟨_, resolve_put_target bytes free⟩, bytes?, held]
      rfl
    · refine bytes?_put_of_ne bytes single ?_
      rw [show locate disk.home (directory / other) = locate disk.home directory ++ [other] from
        Memory.locate_join_name otherName]
      simpa using distinct
    · exact bytes?_put_of_ne bytes single (apart other given)

end GameBundle.Local
