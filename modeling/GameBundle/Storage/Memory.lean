import GameBundle.Storage.Basic
import GameBundle.Storage.Tree

/-!
# Files in memory

Paths are resolved by their text alone: relative ones start at the home place, single
dots are dropped, and double dots go up one place, never above the root. Operations
on chosen places can be denied.
-/

namespace GameBundle

/-- Operations that can be denied. -/
inductive StorageCall where
  | createDirs
  | clearDir
  | read
  | readText
  | write
  | copy
  | fileNames
deriving DecidableEq, Repr

structure Memory where
  tree : Tree
  home : Place
  denied : List (StorageCall × Place)

namespace Memory

def step (place : Place) (part : List Char) : Place :=
  if Path.isVoid part then place
  else if part = ['.', '.'] then place.dropLast
  else place ++ [String.ofList part]

/-- The place that a path denotes. -/
def locate (home : Place) (path : Path) : Place :=
  (Path.splitParts path.text.toList).foldl step (if path.isAbsolute then [] else home)

def place (memory : Memory) (path : Path) : Place := locate memory.home path

def isDenied (memory : Memory) (call : StorageCall) (place : Place) : Bool :=
  memory.denied.contains (call, place)

/-- Creates a directory and what is missing above it. -/
def makeDirs (tree : Tree) (place : Place) : Except StorageFault Tree :=
  if tree.isFile place then .error (.plain .alreadyExists)
  else if (Tree.upTo place).any tree.isFile then .error (.plain .notDirectory)
  else .ok (tree.withDirs place)

def contents (tree : Tree) (place : Place) : Except StorageFault ByteArray :=
  match tree.get? place with
  | none => .error (.plain .notFound)
  | some .directory => .error (.plain .isDirectory)
  | some (.file contents) => .ok contents

def putFile (tree : Tree) (place : Place) (contents : ByteArray) : Except StorageFault Tree :=
  if tree.isDirectory place then .error (.plain .isDirectory)
  else .ok (tree.set place (.file contents))

/-- Carries out a change unless it is denied. A change that fails leaves the tree as the
outcome says. -/
def change (memory : Memory) (call : StorageCall) (place : Place)
    (act : Tree → Except StorageFault Unit × Tree) : Except StorageFault Unit × Memory :=
  if memory.isDenied call place then (.error (.plain .permissionDenied), memory)
  else
    let (outcome, tree) := act memory.tree
    (outcome, { memory with tree })

/-- The outcome of a change that leaves the tree alone when it fails. -/
def settle (tree : Tree) : Except StorageFault Tree → Except StorageFault Unit × Tree
  | .ok changed => (.ok (), changed)
  | .error fault => (.error fault, tree)

def createDirs (path : Path) (memory : Memory) : Except StorageFault Unit × Memory :=
  let place := memory.place path
  memory.change .createDirs place fun tree => settle tree (makeDirs tree place)

def clearDir (path : Path) (memory : Memory) : Except StorageFault Unit × Memory :=
  let place := memory.place path
  memory.change .clearDir place fun tree =>
    if tree.isDirectory place then (.ok (), tree.clear place) else (.error (.plain .notFound), tree)

def read (path : Path) (memory : Memory) : Except StorageFault ByteArray :=
  let place := memory.place path
  if memory.isDenied .read place then .error (.plain .permissionDenied)
  else contents memory.tree place

def decodeText (bytes : ByteArray) : Except StorageFault String :=
  match String.fromUTF8? bytes with
  | some text => .ok text
  | none => .error (.plain .invalidText)

def readText (path : Path) (memory : Memory) : Except StorageFault String :=
  let place := memory.place path
  if memory.isDenied .readText place then .error (.plain .permissionDenied)
  else contents memory.tree place >>= decodeText

/-- Makes the directories above a place, then puts a file there. -/
def store (place : Place) (contents : ByteArray) (tree : Tree) : Except StorageFault Unit × Tree :=
  match makeDirs tree place.dropLast with
  | .error fault => (.error fault, tree)
  | .ok tree => settle tree (putFile tree place contents)

def write (path : Path) (text : String) (memory : Memory) : Except StorageFault Unit × Memory :=
  let place := memory.place path
  memory.change .write place (store place text.toUTF8)

def copy (source target : Path) (memory : Memory) : Except StorageFault Unit × Memory :=
  let place := memory.place target
  memory.change .copy place fun tree =>
    match makeDirs tree place.dropLast with
    | .error fault => (.error fault, tree)
    | .ok tree =>
      match contents tree (memory.place source) with
      | .error fault => (.error fault, tree)
      | .ok bytes => settle tree (putFile tree place bytes)

def isFile (path : Path) (memory : Memory) : Bool := memory.tree.isFile (memory.place path)

def fileNames (path : Path) (memory : Memory) : Except StorageFault (List String) :=
  let place := memory.place path
  if memory.isDenied .fileNames place then .error (.plain .permissionDenied)
  else if memory.tree.isDirectory place then .ok (memory.tree.fileNames place)
  else .error (.plain .notFound)

instance : Storage Memory where
  createDirs
  clearDir
  read
  readText
  write
  copy
  isFile
  fileNames
  absolute path memory := Path.absolute ⟨memory.home.text⟩ path

end Memory

end GameBundle
