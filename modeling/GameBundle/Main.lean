import GameBundle.CommandLine.Footprint
import GameBundle.Storage.Changes
import GameBundle.Storage.Local

/-!
# The program

The parts of the disk that a command needs are read first, the command runs on them,
and what it has changed is written back.
-/

namespace GameBundle.Disk

def nodeAt (place : Place) : IO (Option Node) := do
  try
    return some (.file (← IO.FS.readBinFile place.text))
  catch _ =>
    try
      let _ ← ((← IO.currentDir) / place.text).readDir
      return some .directory
    catch _ => return none

def follow (tree : Tree) (place : Place) : List (List Char) → IO Tree
  | [] => return tree
  | part :: rest =>
    if Path.isVoid part then follow tree place rest
    else if part = ['.', '.'] then follow tree place.dropLast rest
    else do
      let next := place ++ [String.ofList part]
      match ← nodeAt next with
      | some node => follow (tree.set next node) next rest
      | none => return tree

def addPath (disk : Local) (path : Path) : IO Local := do
  let start := if path.isAbsolute then [] else disk.home
  return { disk with tree := ← follow disk.tree start (Path.splitParts path.text.toList) }

/-- Adds everything below a directory. -/
partial def addBelow (tree : Tree) (place : Place) : IO Tree := do
  let mut tree := tree
  for entry in ← ((← IO.currentDir) / place.text).readDir do
    let next := place ++ [entry.fileName]
    match ← nodeAt next with
    | some .directory => tree ← addBelow (tree.set next .directory) next
    | some node => tree := tree.set next node
    | none => pure ()
  return tree

def addDirectory (disk : Local) (path : Path) : IO Local := do
  let disk ← addPath disk path
  match disk.directory path with
  | .ok place => return { disk with tree := ← addBelow disk.tree place }
  | .error _ => return disk

/-- The working directory and what stands above it. -/
def home : IO Local := do
  let place : Place := ((← IO.currentDir).toString.splitOn "/").filter (· ≠ "")
  addPath ⟨.empty, place⟩ ⟨place.text⟩

def apply (changes : TreeChanges) : IO Unit := do
  for place in changes.removedFiles do IO.FS.removeFile place.text
  for place in changes.removedDirectories.mergeSort fun one other => other.length ≤ one.length do
    IO.FS.removeDir place.text
  for place in changes.directories do IO.FS.createDirAll place.text
  for (place, contents) in changes.files do IO.FS.writeBinFile place.text contents

def namesIn (text : List Char) : List String :=
  let parts := (text.map fun c =>
    if Text.isAlphanumeric c ∨ c = '_' ∨ c = '.' then c else '/') |> Path.splitParts
  (parts.filter (· ≠ [])).map String.ofList

/-- The values of variables that commands and the environment file may use. -/
def environment (disk : Local) (file : Option Path) : IO Environment := do
  let text : List Char := match file with
    | some path => match disk.read path with
      | .ok contents => (EnvironmentFile.textLines contents).flatten
      | .error _ => []
    | none => []
  let mut values : Environment := []
  for name in ["KILN_RUNTIME_ROOT", "KILN_CONFIG", "KILN_STRICT"] ++ namesIn text do
    match ← IO.getEnv name with
    | some value => values := values.insert name value
    | none => pure ()
  return values

def forCommand (disk : Local) (command : Command) : IO Local := do
  let disk ← command.documents.foldlM addPath disk
  let disk ← (command.inputs disk).foldlM addPath disk
  (command.outputs disk).foldlM addDirectory disk

end GameBundle.Disk

open GameBundle in
def main (arguments : List String) : IO UInt32 := do
  let home ← Disk.home
  let files := CommandLine.environmentFiles ⟨home.home.text⟩
  let disk ← files.foldlM Disk.addPath home
  let values ← Disk.environment disk (CommandLine.environmentFile? ⟨home.home.text⟩ disk)
  let command? := (CommandLine.environment values disk).toOption.bind fun environment =>
    (Command.ofArguments environment arguments).toOption
  let disk ← match command? with
    | some command => Disk.forCommand disk command
    | none => pure disk
  let (outcome, changed) := CommandLine.run arguments values ⟨none, "kiln"⟩ disk
  Disk.apply (disk.tree.changesTo changed.tree)
  IO.print outcome.output
  for line in outcome.log ++ outcome.errors do IO.eprintln line
  return outcome.exit.toUInt32
