import GameBundle.Storage.Tree

/-!
# Changes of a tree

What has to be written, made and removed to turn one tree into another.
-/

namespace GameBundle

structure TreeChanges where
  /-- Files that are new or have new contents. -/
  files : List (Place × ByteArray)
  /-- Directories that are new. -/
  directories : List Place
  /-- Places where there is no file any more. -/
  removedFiles : List Place
  /-- Places where there is no directory any more. -/
  removedDirectories : List Place

namespace Tree

def newFile? (before : Tree) (entry : Place × Node) : Option (Place × ByteArray) :=
  match entry.2 with
  | .file contents => if before.get? entry.1 = some entry.2 then none else some (entry.1, contents)
  | .directory => none

/-- A directory stands before all below it, and else the first names that differ decide. -/
def inOrder : Place → Place → Bool
  | [], _ => true
  | _ :: _, [] => false
  | name :: rest, other :: others =>
    if name < other then true else if name = other then inOrder rest others else false

/-- Places by their names, from the root down. -/
def orderedPlaces (places : List Place) : List Place := places.mergeSort inOrder

def filePlaces (tree : Tree) : List Place :=
  orderedPlaces ((tree.entries.map Prod.fst).filter tree.isFile)

def directoryPlaces (tree : Tree) : List Place :=
  orderedPlaces ((tree.entries.map Prod.fst).filter tree.isDirectory)

def changesTo (before after : Tree) : TreeChanges where
  files := after.entries.filterMap (newFile? before)
  directories := after.directoryPlaces.filter fun place => !before.isDirectory place
  removedFiles := before.filePlaces.filter fun place => !after.isFile place
  removedDirectories := before.directoryPlaces.filter fun place => !after.isDirectory place

/-- The tree of files, each with the directories above it, and of further directories. -/
def ofEntries (entries : List (Place × Node)) : Tree :=
  entries.foldl (fun tree entry =>
    match entry.2 with
    | .directory => tree.withDirs entry.1
    | .file contents => (tree.withDirs entry.1.dropLast).set entry.1 (.file contents)) empty

end Tree

end GameBundle
