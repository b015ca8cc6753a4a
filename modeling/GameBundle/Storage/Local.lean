import GameBundle.Storage.Basic
import GameBundle.Storage.Tree

/-!
# The local disk

Paths are resolved name by name, as the operating system does: every name on the way
must exist and be a directory, double dots lead to the directory above, and a slash
at the end asks for a directory. A file can be neither made nor replaced under a name
that ends in a slash. Names have at most 255 bytes and paths at most 4095.
-/

namespace GameBundle

structure Local where
  tree : Tree
  home : Place

namespace Local

/-- Where a path leads. -/
inductive Spot where
  | taken (place : Place) (node : Node)
  /-- A free name in a directory, perhaps with a slash behind it. -/
  | vacant (place : Place) (slash : Bool)
  /-- A name in a directory that is too long, perhaps with a slash behind it. -/
  | overlong (slash : Bool)
  /-- A file that a slash at the end takes for a directory. -/
  | slashedFile

def fault (kind : StorageFault.Kind) : StorageFault := ⟨kind, true⟩

/-- The most bytes that a name can have. -/
def longestName : Nat := 255

/-- The most bytes that a path can have. -/
def longestPath : Nat := 4095

def walk (tree : Tree) (place : Place) : List (List Char) → Except StorageFault Spot
  | [] => match tree.get? place with
    | some node => .ok (.taken place node)
    | none => .error (fault .notFound)
  | part :: rest =>
    if !tree.isDirectory place then
      if part.isEmpty && rest.all List.isEmpty then .ok .slashedFile
      else .error (fault .notDirectory)
    else if Path.isVoid part then walk tree place rest
    else if part = ['.', '.'] then walk tree place.dropLast rest
    else
      let name := String.ofList part
      let next := place ++ [name]
      if longestName < name.utf8ByteSize then
        if rest.all List.isEmpty then .ok (.overlong !rest.isEmpty)
        else .error (fault .nameTooLong)
      else if (tree.get? next).isSome then walk tree next rest
      else if rest.all List.isEmpty then .ok (.vacant next (!rest.isEmpty))
      else .error (fault .notFound)

def resolve (disk : Local) (path : Path) : Except StorageFault Spot :=
  if path.text.toList.contains '\x00' then .error (fault .zeroInName)
  else if path.text.isEmpty then .error (fault .notFound)
  else if longestPath < path.text.utf8ByteSize then .error (fault .nameTooLong)
  else
    let parts := Path.splitParts path.text.toList
    walk disk.tree (if path.isAbsolute then [] else disk.home) parts

def isDirectory (path : Path) (disk : Local) : Bool :=
  match disk.resolve path with
  | .ok (.taken _ .directory) => true
  | _ => false

def isFile (path : Path) (disk : Local) : Bool :=
  match disk.resolve path with
  | .ok (.taken _ (.file _)) => true
  | _ => false

/-- Creates one directory. -/
def makeDir (path : Path) (disk : Local) : Except StorageFault Unit × Local :=
  match disk.resolve path with
  | .error problem => (.error problem, disk)
  | .ok (.overlong _) => (.error (fault .nameTooLong), disk)
  | .ok (.taken _ _) | .ok .slashedFile => (.error (fault .alreadyExists), disk)
  | .ok (.vacant place _) => (.ok (), { disk with tree := disk.tree.set place .directory })

/-- Creates one directory, which may be there already. -/
def ensureDir (path : Path) (disk : Local) : Except StorageFault Unit × Local :=
  match disk.makeDir path with
  | (.error problem, disk) =>
    if problem.kind = .alreadyExists ∧ disk.isDirectory path then (.ok (), disk)
    else (.error problem, disk)
  | done => done

/-- Creates a directory after those above it; `levels` bounds their number. -/
def createLevels : Nat → Path → Local → Except StorageFault Unit × Local
  | 0, _, disk => (.ok (), disk)
  | levels + 1, path, disk =>
    match path.parent? with
    | none => (.ok (), disk)
    | some parent =>
      match disk.ensureDir path with
      | (.error problem, disk) =>
        if problem.kind = .notFound then
          match createLevels levels parent disk with
          | (.ok (), disk) => disk.ensureDir path
          | failed => failed
        else (.error problem, disk)
      | done => done

def createDirs (path : Path) (disk : Local) : Except StorageFault Unit × Local :=
  createLevels (path.text.length + 1) path disk

def createParent (path : Path) (disk : Local) : Except StorageFault Unit × Local :=
  match path.parent? with
  | some parent => disk.createDirs parent
  | none => (.ok (), disk)

def directory (disk : Local) (path : Path) : Except StorageFault Place :=
  match disk.resolve path with
  | .error problem => .error problem
  | .ok (.vacant _ _) => .error (fault .notFound)
  | .ok (.overlong _) => .error (fault .nameTooLong)
  | .ok (.taken _ (.file _)) | .ok .slashedFile => .error (fault .notDirectory)
  | .ok (.taken place .directory) => .ok place

/-- Removes a file, or a directory with all below it. The path is followed once more
when the directory is empty; should it lead through what was below, then it leads
nowhere, and the directory stays. -/
def removeEntry (path : Path) (disk : Local) : Except StorageFault Unit × Local :=
  match disk.resolve path with
  | .error problem => (.error problem, disk)
  | .ok (.vacant _ _) => (.error (fault .notFound), disk)
  | .ok (.overlong _) => (.error (fault .nameTooLong), disk)
  | .ok .slashedFile => (.error (fault .notDirectory), disk)
  | .ok (.taken place (.file _)) => (.ok (), { disk with tree := disk.tree.remove place })
  | .ok (.taken place .directory) =>
    let emptied := { disk with tree := disk.tree.clear place }
    match emptied.resolve path with
    | .ok (.taken place _) => (.ok (), { disk with tree := emptied.tree.remove place })
    | _ => (.ok (), emptied)

/-- Removes what has the given names in a directory, up to the first that cannot be. -/
def removeNames (path : Path) : List String → Local → Except StorageFault Unit × Local
  | [], disk => (.ok (), disk)
  | name :: rest, disk =>
    match disk.removeEntry (path / name) with
    | (.ok (), disk) => removeNames path rest disk
    | failed => failed

def clearDir (path : Path) (disk : Local) : Except StorageFault Unit × Local :=
  match disk.directory path with
  | .error problem => (.error problem, disk)
  | .ok place => disk.removeNames path (disk.tree.names place)

def read (path : Path) (disk : Local) : Except StorageFault ByteArray :=
  match disk.resolve path with
  | .error problem => .error problem
  | .ok (.vacant _ _) => .error (fault .notFound)
  | .ok (.overlong _) => .error (fault .nameTooLong)
  | .ok .slashedFile => .error (fault .notDirectory)
  | .ok (.taken _ .directory) => .error (fault .isDirectory)
  | .ok (.taken _ (.file contents)) => .ok contents

def readText (path : Path) (disk : Local) : Except StorageFault String := do
  match String.fromUTF8? (← disk.read path) with
  | some text => return text
  | none => .error (fault .invalidText)

/-- Where a file can be put. -/
def target (disk : Local) (path : Path) : Except StorageFault Place :=
  match disk.resolve path with
  | .error problem => .error problem
  | .ok (.taken _ .directory) | .ok .slashedFile => .error (fault .isDirectory)
  | .ok (.taken place (.file _)) => .ok place
  | .ok (.vacant place slash) => if slash then .error (fault .isDirectory) else .ok place
  | .ok (.overlong slash) => .error (fault (if slash then .isDirectory else .nameTooLong))

def putFile (path : Path) (contents : ByteArray) (disk : Local) :
    Except StorageFault Unit × Local :=
  match disk.target path with
  | .error problem => (.error problem, disk)
  | .ok place => (.ok (), { disk with tree := disk.tree.set place (.file contents) })

def write (path : Path) (text : String) (disk : Local) : Except StorageFault Unit × Local :=
  match disk.createParent path with
  | (.ok (), disk) => disk.putFile path text.toUTF8
  | failed => failed

/-- The file that is to be copied. -/
def source (disk : Local) (path : Path) : Except StorageFault (Place × ByteArray) :=
  match disk.resolve path with
  | .error problem => .error problem
  | .ok (.vacant _ _) => .error (fault .notFound)
  | .ok (.overlong _) => .error (fault .nameTooLong)
  | .ok .slashedFile => .error (fault .notDirectory)
  | .ok (.taken _ .directory) => .error (fault .notRegularFile)
  | .ok (.taken place (.file contents)) => .ok (place, contents)

/-- Copies a file. The target is emptied before the source is read, so a file copied
onto itself ends up empty. -/
def copy (from_ to_ : Path) (disk : Local) : Except StorageFault Unit × Local :=
  match disk.createParent to_ with
  | (.ok (), disk) =>
    match disk.source from_ with
    | .error problem => (.error problem, disk)
    | .ok (place, contents) =>
      let contents := match disk.target to_ with
        | .ok other => if other = place then ByteArray.empty else contents
        | .error _ => contents
      disk.putFile to_ contents
  | failed => failed

def fileNames (path : Path) (disk : Local) : Except StorageFault (List String) := do
  return disk.tree.fileNames (← disk.directory path)

instance : Storage Local where
  createDirs
  clearDir
  read
  readText
  write
  copy
  isFile
  fileNames
  absolute path disk := Path.absolute ⟨disk.home.text⟩ path

end Local

end GameBundle
