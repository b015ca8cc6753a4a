import GameBundle.Text.Ordered

/-!
# Trees of directories

A place is the list of names that leads to it from the root. A tree says what stands
at each place; the root is always a directory.
-/

namespace GameBundle

abbrev Place := List String

/-- A place as an absolute path. -/
def Place.text (place : Place) : String :=
  if place = [] then "/" else String.join (place.map ("/" ++ ·))

inductive Node where
  | directory
  | file (contents : ByteArray)

instance : DecidableEq Node
  | .directory, .directory => isTrue rfl
  | .file one, .file other =>
    match ByteArray.instDecidableEq one other with
    | isTrue same => isTrue (by rw [same])
    | isFalse differ => isFalse (by simpa using differ)
  | .directory, .file _ => isFalse nofun
  | .file _, .directory => isFalse nofun

structure Tree where
  entries : List (Place × Node)

namespace Tree

def empty : Tree := ⟨[]⟩

def get? (tree : Tree) (place : Place) : Option Node :=
  if place = [] then some .directory else tree.entries.lookup place

def set (tree : Tree) (place : Place) (node : Node) : Tree :=
  ⟨(place, node) :: tree.entries.filter fun entry => entry.1 ≠ place⟩

def isDirectory (tree : Tree) (place : Place) : Bool := tree.get? place == some .directory

def isFile (tree : Tree) (place : Place) : Bool :=
  match tree.get? place with
  | some (.file _) => true
  | _ => false

def isBelow (place above : Place) : Bool := above.isPrefixOf place && place != above

/-- Removes everything below a place. -/
def clear (tree : Tree) (place : Place) : Tree :=
  ⟨tree.entries.filter fun entry => !isBelow entry.1 place⟩

def remove (tree : Tree) (place : Place) : Tree :=
  ⟨tree.entries.filter fun entry => entry.1 ≠ place⟩

/-- Names of what stands directly inside a directory. -/
def names (tree : Tree) (place : Place) : List String :=
  tree.entries.filterMap fun entry =>
    if entry.1.dropLast = place then entry.1.getLast? else none

/-- The places from the root's children down to a place. -/
def upTo : Place → List Place
  | [] => []
  | name :: rest => [name] :: (upTo rest).map (name :: ·)

/-- Makes a directory of every missing place down to `place`. -/
def withDirs (tree : Tree) (place : Place) : Tree :=
  (upTo place).foldl (fun tree above =>
    match tree.get? above with
    | some _ => tree
    | none => tree.set above .directory) tree

/-- Name of an entry that is a file directly inside a directory. -/
def nameIn? (place : Place) (entry : Place × Node) : Option String :=
  match entry.2 with
  | .file _ => if entry.1.dropLast = place then entry.1.getLast? else none
  | .directory => none

/-- Names of the files directly inside a directory, in order. -/
def fileNames (tree : Tree) (place : Place) : List String :=
  Text.ordered (tree.entries.filterMap (nameIn? place))

theorem get?_set_self {tree : Tree} {place : Place} {node : Node} (inside : place ≠ []) :
    (tree.set place node).get? place = some node := by
  simp [get?, set, inside]

private theorem lookup_filter_ne {place other : Place} (distinct : other ≠ place)
    (entries : List (Place × Node)) :
    (entries.filter fun entry => decide (entry.1 ≠ place)).lookup other = entries.lookup other := by
  induction entries with
  | nil => rfl
  | cons entry rest ih =>
    obtain ⟨held, node⟩ := entry
    by_cases same : held = place
    · have apart : (other == held) = false := by simpa [same] using distinct
      simp only [same, ne_eq, not_true_eq_false, decide_false, Bool.false_eq_true,
        not_false_eq_true, List.filter_cons_of_neg, ih]
      rw [same] at apart
      simp [List.lookup_cons, apart]
    · simp only [ne_eq, same, not_false_eq_true, decide_true, List.filter_cons_of_pos]
      by_cases found : other == held <;> simp [List.lookup_cons, found]
      simpa using ih

theorem get?_set_of_ne {tree : Tree} {place other : Place} {node : Node}
    (distinct : other ≠ place) : (tree.set place node).get? other = tree.get? other := by
  have apart : (other == place) = false := by simpa using distinct
  unfold get? set
  split
  · rfl
  · simp only [List.lookup_cons, apart]
    exact lookup_filter_ne distinct tree.entries

end Tree

end GameBundle
