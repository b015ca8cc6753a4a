import GameBundle.Behavior.Module
import GameBundle.Lint

/-!
# Generated scripts

Each behavior and each layout of a project becomes a script of its own. Code is
generated from one state of the project, so the scripts do not depend on each other.
-/

namespace GameBundle

structure GeneratedScript where
  path : Path
  code : String
  needed : List String
  diagnostics : Diagnostics

namespace GeneratedScript

def behaviorFile (extension behavior : String) : String :=
  "behavior-" ++ Script.mangle extension ++ "-" ++ Script.mangle behavior ++ ".js"

def layoutFile (index : Nat) : String := "code" ++ Decimal.text index ++ ".js"

def ofBehavior (generator : BehaviorGenerator) (directory : Path) (forRuntime : Bool)
    (extension : Extension) (behavior : Behavior) : GeneratedScript :=
  let (module, needed) := generator.generate extension.name behavior
    (Script.behaviorNamespace extension.name behavior.name) behavior.methodNames .empty forRuntime
  { path := directory / behaviorFile extension.name behavior.name
    code := module.code
    needed := needed.paths
    diagnostics := module.diagnostics }

def ofLayout (events : EventsCompiler) (project : Project) (directory : Path) (forRuntime : Bool)
    (layout : Layout) (index : Nat) : GeneratedScript :=
  let compiled := events.layout project layout forRuntime
  let path := directory / layoutFile index
  { path
    code := compiled.code
    needed := compiled.includes
    diagnostics := lint compiled.code path.text }

/-- The scripts of all behaviors, then those of all layouts, as they are declared. -/
def ofProject (events : EventsCompiler) (project : Project) (directory : Path)
    (forRuntime : Bool) : List GeneratedScript :=
  let generator : BehaviorGenerator := { project, events, shims := Shim.standard }
  (project.extensions.flatMap fun extension =>
      extension.behaviors.map (ofBehavior generator directory forRuntime extension)) ++
    project.layouts.mapIdx fun index layout =>
      ofLayout events project directory forRuntime layout index

end GeneratedScript

/-- A script written by the author outside the project, and where it is copied to. -/
structure ExternalScript where
  source : Path
  target : Path
deriving DecidableEq, Repr

namespace ExternalScript

def file (index : Nat) : String := "ext-code" ++ Decimal.text index ++ ".js"

def ofSource? (home directory : Path) (source : SourceFile) (index : Nat) : Option ExternalScript :=
  if source.language = "Javascript" then
    some ⟨home / source.fileName, directory / file index⟩
  else none

/-- The external scripts of a project. Other source files count for numbering only. -/
def ofProject (project : Project) (directory : Path) : List ExternalScript :=
  (project.sourceFiles.mapIdx fun index source =>
    ofSource? project.directory directory source index).filterMap id

end ExternalScript

end GameBundle
