import GameBundle.Proofs.Storage.Intake

/-!
# Directories being filled

A directory that starts out empty is filled by making directories and putting files below
it. Where these were put decides what succeeds next, whatever the files hold: no file may
stand where a directory is needed.
-/

namespace GameBundle

/-- Where directories were made and files were put. -/
structure Outline where
  dirs : List Place
  files : List Place

namespace Outline

/-- What is done next to a directory that is being filled. -/
inductive Order where
  | make (dir : Place)
  | put (file : Place)
  /-- Puts a copy of a file if it is there. -/
  | take (source file : Place)
  /-- Puts a copy of a file if it is there and nothing is in the way of the copy. -/
  | offer (source file : Place)
deriving DecidableEq

/-- Whether a place has to be a directory. -/
def IsDir (outline : Outline) (place : Place) : Prop :=
  (∃ dir ∈ outline.dirs, place <+: dir) ∨ ∃ file ∈ outline.files, place <+: file ∧ place ≠ file

/-- No file stands where a directory is needed. -/
def Free (outline : Outline) : Prop := ∀ file ∈ outline.files, ¬outline.IsDir file

instance (outline : Outline) (place : Place) : Decidable (outline.IsDir place) :=
  inferInstanceAs (Decidable (_ ∨ _))

instance (outline : Outline) : Decidable outline.Free :=
  inferInstanceAs (Decidable (∀ file ∈ outline.files, ¬outline.IsDir file))

def make (outline : Outline) (dir : Place) : Outline := { outline with dirs := dir :: outline.dirs }

def put (outline : Outline) (file : Place) : Outline :=
  { outline with files := file :: outline.files }

def after (isFile : Place → Bool) (outline : Outline) : Order → Outline
  | .make dir => outline.make dir
  | .put file => outline.put file
  | .take source file => if isFile source ∨ source ∈ outline.files then outline.put file else outline
  | .offer source file =>
    if (isFile source ∨ source ∈ outline.files) ∧ (outline.put file).Free then outline.put file
    else outline

def afterAll (isFile : Place → Bool) (outline : Outline) (orders : List Order) : Outline :=
  orders.foldl (after isFile) outline

variable {outline small large : Outline} {place : Place}

/-- What lies above a directory is one. -/
theorem IsDir.mono {high : Place} (needed : outline.IsDir place) (before : high <+: place) :
    outline.IsDir high := by
  refine needed.imp (fun ⟨dir, member, below⟩ => ⟨dir, member, before.trans below⟩) ?_
  rintro ⟨file, member, below, apart⟩
  refine ⟨file, member, before.trans below, ?_⟩
  rintro rfl
  exact apart (below.eq_of_length_le before.length_le)

/-- What was put is still there. -/
structure Within (small large : Outline) : Prop where
  dirs : small.dirs ⊆ large.dirs
  files : small.files ⊆ large.files

theorem Within.refl (outline : Outline) : Within outline outline := ⟨fun _ => id, fun _ => id⟩

theorem Within.trans {middle : Outline} (first : Within small middle)
    (second : Within middle large) : Within small large :=
  ⟨fun _ member => second.dirs (first.dirs member), fun _ member => second.files (first.files member)⟩

theorem Within.isDir (within : Within small large) (needed : small.IsDir place) :
    large.IsDir place :=
  needed.imp (fun ⟨dir, member, before⟩ => ⟨dir, within.dirs member, before⟩)
    fun ⟨file, member, above⟩ => ⟨file, within.files member, above⟩

/-- What is in the way stays in the way. -/
theorem Within.free (within : Within small large) (free : large.Free) : small.Free :=
  fun file member needed => free file (within.files member) (within.isDir needed)

theorem within_make (outline : Outline) (dir : Place) : Within outline (outline.make dir) :=
  ⟨fun _ member => List.mem_cons_of_mem _ member, fun _ => id⟩

theorem within_put (outline : Outline) (file : Place) : Within outline (outline.put file) :=
  ⟨fun _ => id, fun _ member => List.mem_cons_of_mem _ member⟩

theorem within_after (isFile : Place → Bool) (outline : Outline) (order : Order) :
    Within outline (outline.after isFile order) := by
  cases order with
  | make dir => exact within_make outline dir
  | put file => exact within_put outline file
  | take source file =>
    rw [after]
    split
    · exact within_put outline file
    · exact .refl outline
  | offer source file =>
    rw [after]
    split
    · exact within_put outline file
    · exact .refl outline

theorem within_afterAll (isFile : Place → Bool) (outline : Outline) (orders : List Order) :
    Within outline (outline.afterAll isFile orders) := by
  induction orders generalizing outline with
  | nil => exact .refl outline
  | cons order rest ih => exact (within_after isFile outline order).trans (ih _)

theorem afterAll_singleton (isFile : Place → Bool) (outline : Outline) (order : Order) :
    outline.afterAll isFile [order] = outline.after isFile order := rfl

theorem afterAll_append (isFile : Place → Bool) (outline : Outline) (front back : List Order) :
    outline.afterAll isFile (front ++ back) =
      (outline.afterAll isFile front).afterAll isFile back := List.foldl_append

theorem prefix_dropLast_iff {before place : Place} (named : place ≠ []) :
    before <+: place.dropLast ↔ before <+: place ∧ before ≠ place := by
  obtain ⟨high, name, rfl⟩ := (List.eq_nil_or_concat place).resolve_left named
  rw [List.concat_eq_append, List.dropLast_concat, List.prefix_concat_iff]
  constructor
  · intro inside
    refine ⟨.inr inside, ?_⟩
    rintro rfl
    have short := inside.length_le
    rw [List.length_append, List.length_singleton] at short
    omega
  · exact fun ⟨inside, apart⟩ => inside.resolve_left apart

theorem isDir_put {file : Place} :
    (outline.put file).IsDir place ↔ outline.IsDir place ∨ (place <+: file ∧ place ≠ file) := by
  simp only [IsDir, put, List.exists_mem_cons_iff, or_comm, or_left_comm]

theorem isDir_make {dir : Place} :
    (outline.make dir).IsDir place ↔ place <+: dir ∨ outline.IsDir place := by
  simp only [IsDir, make, List.exists_mem_cons_iff, or_assoc]

/-- A file put where no directory is needed is in nobody's way when no file is above it. -/
theorem put_free_iff (free : outline.Free) (unneeded : ¬outline.IsDir place) :
    (outline.put place).Free ↔ ∀ file ∈ outline.files, ¬(file <+: place ∧ file ≠ place) := by
  constructor
  · intro larger file member above
    exact larger file (List.mem_cons_of_mem _ member) (isDir_put.mpr (.inr above))
  · intro apart file member needed
    rcases isDir_put.mp needed with before | above
    · rcases List.mem_cons.mp member with rfl | listed
      · exact unneeded before
      · exact free file listed before
    · rcases List.mem_cons.mp member with rfl | listed
      · exact above.2 rfl
      · exact apart file listed above

/-- Files are named as most are, and no directory is named like one. -/
structure Usual (outline : Outline) : Prop where
  dirs : ∀ dir ∈ outline.dirs, ∀ name ∈ dir, '.' ∉ name.toList
  files : ∀ file ∈ outline.files, Memory.namesFile file = true

/-- Nothing with a usual name is in the way of anything else. -/
theorem Usual.free (usual : outline.Usual) : outline.Free := by
  intro file member needed
  rcases needed with ⟨dir, listed, above⟩ | ⟨other, listed, above, apart⟩
  · have dotted := usual.files file member
    rw [Memory.namesFile, Bool.and_eq_true, Option.any_eq_true] at dotted
    obtain ⟨⟨name, last, dot⟩, -⟩ := dotted
    exact usual.dirs dir listed name (above.subset (List.mem_of_getLast? last)) (by simpa using dot)
  · have named : other ≠ [] := by
      rintro rfl
      exact apart (List.prefix_nil.mp above)
    exact Memory.not_above_of_namesFile (usual.files file member) (usual.files other listed)
      ((prefix_dropLast_iff named).mpr ⟨above, apart⟩)

/-- An order for something with a usual name. -/
def Order.IsUsual : Order → Prop
  | .make dir => ∀ name ∈ dir, '.' ∉ name.toList
  | .put file => Memory.namesFile file = true
  | .take _ file => Memory.namesFile file = true
  | .offer _ file => Memory.namesFile file = true

theorem Usual.put (usual : outline.Usual) (file : Memory.namesFile place = true) :
    (outline.put place).Usual :=
  ⟨usual.dirs, List.forall_mem_cons.mpr ⟨file, usual.files⟩⟩

theorem Usual.after (usual : outline.Usual) {order : Order} (ordered : order.IsUsual)
    (isFile : Place → Bool) : (outline.after isFile order).Usual := by
  cases order with
  | make dir => exact ⟨List.forall_mem_cons.mpr ⟨ordered, usual.dirs⟩, usual.files⟩
  | put file => exact usual.put ordered
  | take source file =>
    change Outline.Usual (if _ then _ else _)
    split
    · exact usual.put ordered
    · exact usual
  | offer source file =>
    change Outline.Usual (if _ then _ else _)
    split
    · exact usual.put ordered
    · exact usual

theorem Usual.afterAll (usual : outline.Usual) (isFile : Place → Bool) {orders : List Order}
    (ordered : ∀ order ∈ orders, order.IsUsual) : (outline.afterAll isFile orders).Usual := by
  induction orders generalizing outline with
  | nil => exact usual
  | cons order rest ih =>
    rw [List.forall_mem_cons] at ordered
    exact ih (usual.after ordered.1 isFile) ordered.2

end Outline

namespace Memory

open Outline (prefix_dropLast_iff put_free_iff isDir_put isDir_make within_put)

variable {start memory : Memory} {root place : Place} {outline : Outline} {call : StorageCall}

/-- Nothing stands below a place, and no file stands there or above it. -/
structure Vacant (memory : Memory) (root : Place) : Prop where
  way : ∀ place, place <+: root → memory.tree.isFile place = false
  empty : ∀ place, Tree.isBelow place root = true → memory.tree.get? place = none

/-- A place is vacant when all that is stored stands apart from it or is a directory above. -/
theorem vacant_of_entries (below : root ≠ [])
    (apart : ∀ entry ∈ memory.tree.entries, ¬root <+: entry.1 ∧
      (entry.1 <+: root → memory.tree.isFile entry.1 = false)) : memory.Vacant root := by
  have stored {place : Place} {node : Node} (found : memory.tree.get? place = some node)
      (named : place ≠ []) : (place, node) ∈ memory.tree.entries := by
    rw [Tree.get?, if_neg named] at found
    obtain ⟨front, back, entries, -⟩ := List.lookup_eq_some_iff.mp found
    rw [entries]
    exact List.mem_append_right _ List.mem_cons_self
  refine ⟨fun place high => ?_, fun place deep => ?_⟩
  · by_contra file
    obtain ⟨bytes, found⟩ := Tree.isFile_iff.mp (Bool.not_eq_false _ ▸ file)
    have named : place ≠ [] := by
      rintro rfl
      cases found
    exact file ((apart _ (stored found named)).2 high)
  · rw [Option.eq_none_iff_forall_ne_some]
    intro node found
    obtain ⟨inside, other⟩ := Tree.isBelow_iff.mp deep
    exact (apart _ (stored found fun top => below (List.prefix_nil.mp (top ▸ inside)))).1 inside

theorem Vacant.isFile (vacant : memory.Vacant root) (inside : root <+: place) :
    memory.tree.isFile place = false := by
  by_cases same : place = root
  · exact vacant.way place (same ▸ List.prefix_rfl)
  · unfold Tree.isFile
    rw [vacant.empty place (Tree.isBelow_iff.mpr ⟨inside, same⟩)]

/-- A vacant place has been filled as the outline says, and nothing else was touched but that
directories may have appeared above. -/
structure Stands (start : Memory) (root : Place) (outline : Outline) (memory : Memory) : Prop where
  vacant : start.Vacant root
  home : memory.home = start.home
  allowed : memory.denied = []
  rooted : ∃ dir ∈ outline.dirs, root <+: dir
  inside : ∀ file ∈ outline.files, root <+: file
  files : ∀ place, memory.tree.isFile place = true ↔
    start.tree.isFile place = true ∨ place ∈ outline.files
  bytes : ∀ place, start.tree.isFile place = true →
    memory.tree.bytes? place = start.tree.bytes? place
  dirs : ∀ place, root <+: place → (memory.tree.isDirectory place = true ↔ outline.IsDir place)

theorem not_isDirectory_of_isFile {tree : Tree} (held : tree.isFile place = true) :
    tree.isDirectory place = false := by
  obtain ⟨bytes, there⟩ := Tree.isFile_iff.mp held
  simp [Tree.isDirectory, there]

/-- Where nothing is denied, the text of a file can be read when its bytes are one. -/
theorem readText_eq_ok {path : Path} {text : String} (allowed : memory.denied = []) :
    memory.readText path = .ok text ↔
      ∃ bytes, memory.tree.bytes? (memory.place path) = some bytes ∧ decodeText bytes = .ok text := by
  have reads : memory.readText path = contents memory.tree (memory.place path) >>= decodeText := by
    unfold readText
    simp [isDenied, allowed]
  rw [reads]
  unfold contents Tree.bytes?
  rcases memory.tree.get? (memory.place path) with _ | _ | bytes
  · exact iff_of_false nofun (by simp)
  · exact iff_of_false nofun (by simp)
  · simp only [Option.some.injEq, exists_eq_left']
    rfl

namespace Stands

theorem free (stands : Stands start root outline memory) : outline.Free := by
  intro file member needed
  have held := (stands.files file).mpr (.inr member)
  have directory := (stands.dirs file (stands.inside file member)).mpr needed
  rw [not_isDirectory_of_isFile held] at directory
  cases directory

theorem isDenied (stands : Stands start root outline memory) (call : StorageCall) (place : Place) :
    memory.isDenied call place = false := by
  simp [Memory.isDenied, stands.allowed]

theorem way (stands : Stands start root outline memory) (high : place <+: root) :
    memory.tree.isFile place = false := by
  rw [← Bool.not_eq_true, stands.files]
  rintro (there | member)
  · rw [stands.vacant.way place high] at there
    cases there
  · obtain ⟨dir, listed, below⟩ := stands.rooted
    exact stands.free place member (.inl ⟨dir, listed, high.trans below⟩)

/-- No file stands on the way to a place below the root unless one was put there. -/
theorem clear_iff (stands : Stands start root outline memory) (inside : root <+: place) :
    (∀ other ∈ Tree.upTo place, memory.tree.isFile other = false) ↔
      ∀ file ∈ outline.files, ¬file <+: place := by
  constructor
  · intro clear file member before
    have held := (stands.files file).mpr (.inr member)
    have named : file ≠ [] := by
      rintro rfl
      cases held
    rw [clear file (Tree.mem_upTo.mpr ⟨named, before⟩)] at held
    cases held
  · intro apart other member
    have before := (Tree.mem_upTo.mp member).2
    rcases List.prefix_or_prefix_of_prefix before inside with high | low
    · exact stands.way high
    · rw [← Bool.not_eq_true, stands.files]
      rintro (there | listed)
      · rw [stands.vacant.isFile low] at there
        cases there
      · exact apart other listed before

/-- A place that need not be a directory lies below the root. -/
theorem below_of_not_isDir (stands : Stands start root outline memory) (inside : root <+: place)
    (unneeded : ¬outline.IsDir place) : place ≠ [] ∧ root <+: place.dropLast := by
  obtain ⟨dir, member, below⟩ := stands.rooted
  have named : place ≠ [] := by
    rintro rfl
    exact unneeded (.inl ⟨dir, member, List.nil_prefix⟩)
  refine ⟨named, (prefix_dropLast_iff named).mpr ⟨inside, ?_⟩⟩
  rintro rfl
  exact unneeded (.inl ⟨dir, member, below⟩)

/-- A file can be put at a place exactly when the outline stays free. -/
theorem fits_iff (stands : Stands start root outline memory) (inside : root <+: place) :
    memory.Fits call place ↔ (outline.put place).Free := by
  by_cases needed : outline.IsDir place
  · have blocked : ¬(outline.put place).Free := fun free =>
      free place List.mem_cons_self ((within_put outline place).isDir needed)
    have occupied : ¬memory.Fits call place := by
      intro fits
      have directory := (stands.dirs place inside).mpr needed
      rw [fits.vacant] at directory
      cases directory
    exact iff_of_false occupied blocked
  · obtain ⟨named, below⟩ := stands.below_of_not_isDir inside needed
    have vacant : memory.tree.isDirectory place = false := by
      rw [← Bool.not_eq_true, stands.dirs place inside]
      exact needed
    have clear := stands.clear_iff below
    simp only [prefix_dropLast_iff named] at clear
    rw [put_free_iff stands.free needed, ← clear]
    exact ⟨fun fits => fits.clear, fun apart => ⟨stands.isDenied call place, apart, vacant⟩⟩

/-- What stands once a file has been put. -/
theorem put (stands : Stands start root outline memory) (inside : root <+: place)
    (fits : memory.Fits call place) (bytes : ByteArray) :
    Stands start root (outline.put place) (memory.put place bytes) where
  vacant := stands.vacant
  home := stands.home
  allowed := stands.allowed
  rooted := stands.rooted
  inside := List.forall_mem_cons.mpr ⟨inside, stands.inside⟩
  files other := by
    by_cases same : other = place
    · subst same
      have held : (memory.put other bytes).tree.isFile other = true :=
        Tree.isFile_iff.mpr ⟨bytes, get?_put_self fits.ne_nil bytes⟩
      exact iff_of_true held (.inr List.mem_cons_self)
    · rw [isFile_put_of_ne same, stands.files]
      simp [Outline.put, same]
  bytes other there := by
    have apart : other ≠ place := by
      rintro rfl
      rw [stands.vacant.isFile inside] at there
      cases there
    rw [bytes?_put_of_ne apart]
    exact stands.bytes other there
  dirs other below := by
    have vacant : ¬outline.IsDir place := by
      rw [← stands.dirs place inside, fits.vacant]
      exact Bool.false_ne_true
    rw [isDir_put]
    by_cases same : other = place
    · subst same
      rw [Tree.isDirectory, get?_put_self fits.ne_nil]
      simp [vacant]
    · rw [Tree.isDirectory, get?_put_of_ne same, ← stands.dirs other below, Tree.isDirectory,
        ← prefix_dropLast_iff fits.ne_nil]
      by_cases made : other <+: place.dropLast
      · cases held : memory.tree.get? other with
        | none => simp [made]
        | some node =>
          cases node with
          | directory => simp
          | file bytes =>
            have named : other ≠ [] := by
              rintro rfl
              cases held
            have clear := fits.clear other (Tree.mem_upTo.mpr ⟨named, made⟩)
            rw [Tree.isFile_iff.mpr ⟨bytes, held⟩] at clear
            cases clear
      · simp [made]

/-- What stands once a directory has been made. -/
theorem make (stands : Stands start root outline memory) (inside : root <+: place)
    (free : (outline.make place).Free) :
    Stands start root (outline.make place)
      { memory with tree := memory.tree.withDirs place } where
  vacant := stands.vacant
  home := stands.home
  allowed := stands.allowed
  rooted := ⟨place, List.mem_cons_self, inside⟩
  inside := stands.inside
  files other := by
    rw [Tree.isFile_withDirs]
    exact stands.files other
  bytes other there := by
    rw [Tree.bytes?_withDirs]
    exact stands.bytes other there
  dirs other below := by
    rw [isDir_make, ← stands.dirs other below, Tree.isDirectory, Tree.get?_withDirs,
      Tree.isDirectory]
    by_cases made : other <+: place
    · cases held : memory.tree.get? other with
      | none => simp [made]
      | some node =>
        cases node with
        | directory => simp
        | file bytes =>
          have member := ((stands.files other).mp (Tree.isFile_iff.mpr ⟨bytes, held⟩)).resolve_left
            (by simp [stands.vacant.isFile below])
          exact absurd (isDir_make.mpr (.inl made)) (free other member)
    · simp [made]

/-- Directories that are needed anyway make no difference. -/
theorem of_make (stands : Stands start root (outline.make place) memory)
    (rooted : ∃ dir ∈ outline.dirs, root <+: dir) (needed : outline.IsDir place) :
    Stands start root outline memory where
  vacant := stands.vacant
  home := stands.home
  allowed := stands.allowed
  rooted := rooted
  inside := stands.inside
  files := stands.files
  bytes := stands.bytes
  dirs other below := by
    rw [stands.dirs other below, isDir_make]
    exact ⟨fun either => either.elim (fun before => needed.mono before) id, .inr⟩

/-- A directory can be made exactly when the outline stays free. -/
theorem make_free_iff (stands : Stands start root outline memory) (inside : root <+: place) :
    (∀ other ∈ Tree.upTo place, memory.tree.isFile other = false) ↔ (outline.make place).Free := by
  rw [stands.clear_iff inside]
  constructor
  · intro apart file member needed
    rcases isDir_make.mp needed with before | held
    · exact apart file member before
    · exact stands.free file member held
  · exact fun free file member before => free file member (isDir_make.mpr (.inl before))

/-- Clearing a directory changes nothing when nothing was put below it. -/
theorem clear {dirs : List Place} (stands : Stands start root ⟨dirs, []⟩ memory)
    (inside : root <+: place) (bottom : ∀ dir ∈ dirs, dir <+: place) :
    Stands start root ⟨dirs, []⟩ { memory with tree := memory.tree.clear place } := by
  have empty (other : Place) (below : Tree.isBelow other place = true) :
      memory.tree.isFile other = false ∧ ¬Outline.IsDir ⟨dirs, []⟩ other := by
    obtain ⟨low, apart⟩ := Tree.isBelow_iff.mp below
    constructor
    · rw [← Bool.not_eq_true, stands.files]
      simp [stands.vacant.isFile (inside.trans low)]
    · rintro (⟨dir, member, before⟩ | ⟨file, member, -⟩)
      · have high := before.trans (bottom dir member)
        exact apart (high.eq_of_length_le low.length_le)
      · cases member
  refine { stands with files := fun other => ?_, bytes := fun other there => ?_, dirs := fun other low => ?_ }
  · rw [← stands.files other, Tree.isFile_clear]
    cases below : Tree.isBelow other place with
    | false => rfl
    | true => simp [(empty other below).1]
  · rw [← stands.bytes other there]
    unfold Tree.bytes?
    rw [Tree.get?_clear, if_neg]
    intro below
    rw [stands.vacant.isFile (inside.trans (Tree.isBelow_iff.mp below).1)] at there
    cases there
  · rw [Tree.isDirectory, Tree.get?_clear]
    split
    · rename_i below
      exact iff_of_false (by simp) (empty other below).2
    · exact stands.dirs other low

/-- What stands once a vacant place has been made a directory. -/
theorem of_vacant (vacant : start.Vacant root) (allowed : start.denied = []) :
    Stands start root ⟨[root], []⟩ { start with tree := start.tree.withDirs root } where
  vacant := vacant
  home := rfl
  allowed := allowed
  rooted := ⟨root, List.mem_singleton_self root, List.prefix_rfl⟩
  inside := fun _ member => by cases member
  files place := by simp [Tree.isFile_withDirs]
  bytes place _ := Tree.bytes?_withDirs _ _ _
  dirs place inside := by
    rw [Tree.isDirectory, Tree.get?_withDirs]
    simp only [Outline.IsDir, List.mem_singleton, exists_eq_left, List.not_mem_nil, false_and,
      exists_false, or_false]
    by_cases same : place = root
    · subst same
      have absent := vacant.way place List.prefix_rfl
      cases held : start.tree.get? place with
      | none => simp
      | some node =>
        cases node with
        | directory => simp
        | file bytes =>
          rw [Tree.isFile_iff.mpr ⟨bytes, held⟩] at absent
          cases absent
    · have high : ¬place <+: root := fun before =>
        same (before.eq_of_length_le inside.length_le)
      simp [vacant.empty place (Tree.isBelow_iff.mpr ⟨inside, same⟩), high]

end Stands

end Memory

end GameBundle
