import Std.Data.HashSet
import GameBundle.Text.Search

/-!
# Include lists

The scripts that a bundle loads, in load order and without repetition: the first
insertion of a path fixes its place. The set of paths seen answers membership
without a walk through the list.
-/

namespace GameBundle

structure IncludeList where
  paths : List String
  seen : Std.HashSet String

namespace IncludeList

def empty : IncludeList := ⟨[], ∅⟩

def contains (includes : IncludeList) (path : String) : Bool := includes.seen.contains path

def insert (includes : IncludeList) (path : String) : IncludeList :=
  if includes.contains path then includes
  else ⟨includes.paths ++ [path], includes.seen.insert path⟩

def extend (includes : IncludeList) (paths : List String) : IncludeList :=
  paths.foldl insert includes

def ofList (paths : List String) : IncludeList := empty.extend paths

def position? (includes : IncludeList) (path : String) : Option Nat :=
  includes.paths.findIdx? (· == path)

def isMarked (markers : List String) (path : String) : Bool := markers.any (Text.contains path)

/-- The paths that contain a marker, in order. -/
def marked (includes : IncludeList) (markers : List String) : List String :=
  includes.paths.filter (isMarked markers)

/-- Removes the paths that contain a marker; the others keep their order. -/
def withoutMarked (includes : IncludeList) (markers : List String) : IncludeList where
  paths := includes.paths.filter fun path => !isMarked markers path
  seen := (includes.marked markers).foldl (fun seen path => seen.erase path) includes.seen

def size (includes : IncludeList) : Nat := includes.paths.length

/-- Whether two lists hold the same paths in the same order and have seen the same. -/
def same (includes other : IncludeList) : Bool :=
  includes.paths == other.paths && includes.seen.toList.all other.seen.contains &&
    other.seen.toList.all includes.seen.contains

inductive Edit where
  | insert (path : String)
  | extend (paths : List String)
  | removeMarked (markers : List String)
deriving DecidableEq, Repr

inductive Reply where
  | inserted (isNew : Bool)
  | extended
  | removed (paths : List String)
deriving DecidableEq, Repr

/-- Appends a path unless it is there; tells whether it was new. -/
def enter (includes : IncludeList) (path : String) : Bool × IncludeList :=
  if includes.seen.contains path then (false, includes)
  else (true, ⟨includes.paths ++ [path], includes.seen.insert path⟩)

/-- Parts the paths with a marker from the others; these stay, and those are forgotten. -/
def takeMarked (includes : IncludeList) (markers : List String) : List String × IncludeList :=
  let (removed, kept) := includes.paths.partition (isMarked markers)
  (removed, ⟨kept, removed.foldl (fun seen path => seen.erase path) includes.seen⟩)

def perform (includes : IncludeList) : Edit → Reply × IncludeList
  | .insert path =>
    let (isNew, includes) := includes.enter path
    (.inserted isNew, includes)
  | .extend paths =>
    (.extended, paths.foldl (fun includes path => (includes.enter path).2) includes)
  | .removeMarked markers =>
    let (removed, includes) := includes.takeMarked markers
    (.removed removed, includes)

/-- Carries out edits one after the other; gives the replies and the list in the end. -/
def performAll (includes : IncludeList) : List Edit → List Reply × IncludeList
  | [] => ([], includes)
  | edit :: edits =>
    let (reply, next) := includes.perform edit
    let (replies, final) := next.performAll edits
    (reply :: replies, final)

theorem enter_eq (includes : IncludeList) (path : String) :
    includes.enter path = (!includes.contains path, includes.insert path) := by
  unfold enter insert
  rw [contains]
  cases includes.seen.contains path <;> rfl

theorem takeMarked_eq (includes : IncludeList) (markers : List String) :
    includes.takeMarked markers = (includes.marked markers, includes.withoutMarked markers) := by
  simp only [takeMarked, List.partition_eq_filter_filter]
  rfl

end IncludeList

end GameBundle
