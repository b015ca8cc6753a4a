import GameBundle.Path

/-!
# Storage

An export reads and writes files through a handful of operations, so it can work on
the local disk as well as on files kept in memory. Operations that change something
return the new state, also when they fail.
-/

namespace GameBundle

/-- Why an operation on files failed. -/
inductive StorageFault.Kind where
  | notFound
  | alreadyExists
  | isDirectory
  | notDirectory
  | permissionDenied
  | invalidText
  | notRegularFile
  /-- A name in a path, or the path itself, is longer than the system takes. -/
  | nameTooLong
  /-- A path holds the character zero, which no name can. -/
  | zeroInName
deriving DecidableEq, Repr

/-- A failed operation, and whether the operating system reported it. -/
structure StorageFault where
  kind : StorageFault.Kind
  fromSystem : Bool
deriving DecidableEq, Repr

namespace StorageFault

def Kind.description : Kind → String
  | .notFound => "entity not found"
  | .alreadyExists => "entity already exists"
  | .isDirectory => "is a directory"
  | .notDirectory => "not a directory"
  | .permissionDenied => "permission denied"
  | .invalidText => "stream did not contain valid UTF-8"
  | .notRegularFile => "the source path is neither a regular file nor a symlink to a regular file"
  | .nameTooLong => "invalid filename"
  | .zeroInName => "file name contained an unexpected NUL byte"

/-- The words of the operating system, if the fault has a number there. -/
def Kind.systemDescription : Kind → String
  | .notFound => "No such file or directory (os error 2)"
  | .alreadyExists => "File exists (os error 17)"
  | .isDirectory => "Is a directory (os error 21)"
  | .notDirectory => "Not a directory (os error 20)"
  | .permissionDenied => "Permission denied (os error 13)"
  | .nameTooLong => "File name too long (os error 36)"
  | kind => kind.description

def message (fault : StorageFault) : String :=
  if fault.fromSystem then fault.kind.systemDescription else fault.kind.description

/-- A fault that no operating system reported. -/
def plain (kind : Kind) : StorageFault := ⟨kind, false⟩

end StorageFault

class Storage (σ : Type) where
  /-- Creates a directory and its missing ancestors. -/
  createDirs : Path → σ → Except StorageFault Unit × σ
  /-- Removes everything inside a directory. -/
  clearDir : Path → σ → Except StorageFault Unit × σ
  read : Path → σ → Except StorageFault ByteArray
  readText : Path → σ → Except StorageFault String
  /-- Writes a file; missing directories above it are created. -/
  write : Path → String → σ → Except StorageFault Unit × σ
  /-- Copies a file; missing directories above the second path are created. -/
  copy : Path → Path → σ → Except StorageFault Unit × σ
  isFile : Path → σ → Bool
  /-- Names of the files directly inside a directory, in order. -/
  fileNames : Path → σ → Except StorageFault (List String)
  /-- The path made absolute against the current directory. -/
  absolute : Path → σ → Path

end GameBundle
