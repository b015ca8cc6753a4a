import GameBundle.Bundle.Batch
import GameBundle.CommandLine.Arguments
import GameBundle.CommandLine.Failure
import GameBundle.Environment.File
import GameBundle.Events.Inline
import GameBundle.Log.Filter
import GameBundle.Project.Load
import GameBundle.Text.Harmless

/-!
# Running commands

The program reads variables from an environment file, finds out what it is asked for,
and does it. A single target is exported right into the output directory, several into
a directory each.
-/

namespace GameBundle

structure CommandOutcome where
  exit : Nat
  output : String
  /-- Messages about exports that failed. -/
  log : List String
  errors : List String
deriving DecidableEq, Repr

namespace CommandOutcome

def success (output : String) : CommandOutcome := ⟨0, output, [], []⟩

def failure (failure : CommandFailure) : CommandOutcome := ⟨1, "", [], failure.lines⟩

def usage (fault : UsageFault) : CommandOutcome := ⟨2, "", [], ["error: " ++ fault.message]⟩

/-- The program breaks down before it knows what it is asked for. -/
def breakdown (reason : String) : CommandOutcome := ⟨101, "", [], [reason]⟩

def filtered (outcome : CommandOutcome) (filter : LogFilter) (source : String) :
    CommandOutcome :=
  if filter.shows .error source then outcome else { outcome with log := [] }

end CommandOutcome

namespace Command

def versionText : String := "kiln 0.1.1\n"

variable {σ : Type} [Storage σ]

def settings (arguments : ExportArguments) (disk : σ) : Except CommandFailure ExportSettings := do
  let settings ← match arguments.settings with
    | some path => (ExportSettings.load path disk).mapError (.loadSettings path)
    | none => .ok .standard
  let settings := { settings with
    runtimeRoot := arguments.runtimeRoot.getD settings.runtimeRoot
    strict := settings.strict || arguments.strict }
  settings.validated.mapError .badSettings

def watchedScripts : List String := EngineParts.scripts ⟨true, false, true⟩

/-- The fingerprints that an export passes on; only previews need them. -/
def fingerprints (arguments : ExportArguments) (root : Path) (disk : σ) : Dictionary Nat :=
  if arguments.targets.contains .preview then
    scriptFingerprints Digest.fingerprint root watchedScripts disk
  else []

def outputFor (arguments : ExportArguments) (target : Target) : Path :=
  if arguments.targets.length = 1 then arguments.output else arguments.output / target.name

def requests (arguments : ExportArguments) (project : Project) (hashes : Dictionary Nat) :
    List ExportRequest :=
  arguments.targets.map fun target => {
    project
    target
    directory := outputFor arguments target
    layout := arguments.layout
    externalLayout := arguments.externalLayout
    hashes
    strict := false }

/-- What is printed about an export that succeeded. -/
def successText (withReport : Bool) (report : ExportReport) : String :=
  "Exported " ++ report.target.name ++ " to " ++ report.directory.text ++ " (" ++
    Decimal.text report.includes.length ++ " includes, " ++
    Decimal.text report.diagnostics.size ++ " warnings)\n" ++
    if withReport then report.toJson.indentedText ++ "\n" else ""

def failureText (target : Target) (fault : ExportFault) : String :=
  Text.harmless ("Export for " ++ target.name ++ " failed: " ++ fault.line)

def summary (withReport : Bool) (outcomes : List (Target × Except ExportFault ExportReport)) :
    CommandOutcome :=
  let output := String.join (outcomes.map fun (_, outcome) =>
    match outcome with
    | .ok report => successText withReport report
    | .error _ => "")
  let log := outcomes.filterMap fun (target, outcome) =>
    match outcome with
    | .ok _ => none
    | .error fault => some (failureText target fault)
  if log = [] then .success output
  else ⟨1, output, log, (CommandFailure.failedExports log.length outcomes.length).lines⟩

def exportRequests (exporter : Exporter) (requests : List ExportRequest) (disk : σ) :
    List (Except ExportFault ExportReport) × σ :=
  match requests with
  | [request] =>
    let (outcome, disk) := exporter.exportOne request disk
    ([outcome], disk)
  | requests => exporter.exportAll requests disk

def prepared (arguments : ExportArguments) (disk : σ) :
    Except CommandFailure (Exporter × List ExportRequest) := do
  let settings ← settings arguments disk
  let project ← (Project.load arguments.project disk).mapError (.loadProject arguments.project)
  let hashes := fingerprints arguments settings.runtimeRoot disk
  return (⟨settings, .inline⟩, requests arguments project hashes)

def runExport (arguments : ExportArguments) (disk : σ) : CommandOutcome × σ :=
  match prepared arguments disk with
  | .error failure => (.failure failure, disk)
  | .ok (exporter, requests) =>
    let (outcomes, disk) := exportRequests exporter requests disk
    (summary arguments.report (arguments.targets.zip outcomes), disk)

def behaviorCode (arguments : BehaviorArguments) (disk : σ) : Except CommandFailure String := do
  let project ← (Project.load arguments.project disk).mapError (.loadProject arguments.project)
  let some extension := project.extension? arguments.extension
    | .error (.noExtension arguments.extension)
  let some behavior := extension.behavior? arguments.behavior
    | .error (.noBehavior arguments.extension arguments.behavior)
  let generator : BehaviorGenerator := ⟨project, .inline, Shim.standard⟩
  let (module, _) := generator.generate extension.name behavior
    (Script.behaviorNamespace extension.name behavior.name) behavior.methodNames .empty
    (!arguments.preview)
  return module.code

def run (command : Command) (disk : σ) : CommandOutcome × σ :=
  match command with
  | .version => (.success versionText, disk)
  | .exportProject arguments => runExport arguments disk
  | .showBehavior arguments =>
    match behaviorCode arguments disk with
    | .ok code => (.success code, disk)
    | .error failure => (.failure failure, disk)

end Command

namespace CommandLine

variable {σ : Type} [Storage σ]

def ancestors : Nat → Path → List Path
  | 0, path => [path]
  | levels + 1, path => path :: match path.parent? with
    | some above => ancestors levels above
    | none => []

/-- Where the environment file of a directory may be: in it, or else in the nearest
directory above it. -/
def environmentFiles (directory : Path) : List Path :=
  (ancestors directory.text.length directory).map (· / ".env")

def environmentFile? (directory : Path) (disk : σ) : Option Path :=
  (environmentFiles directory).find? fun path => Storage.isFile path disk

def environment (given : Environment) (disk : σ) : Except EnvironmentFile.Unfit Environment :=
  match environmentFile? (Storage.absolute ⟨"."⟩ disk) disk with
  | none => .ok given
  | some path =>
    match Storage.read path disk with
    | .ok contents => EnvironmentFile.extend given contents
    | .error _ => .ok given

def prepared (given : Environment) (log : LogSettings) (disk : σ) :
    Except String (Environment × LogFilter) :=
  match environment given disk with
  | .error unfit => .error ("the value of " ++ unfit.variableName ++ " holds the character zero")
  | .ok environment =>
    match log.filter environment with
    | .error _ => .error "a directive on messages is torn"
    | .ok filter => .ok (environment, filter)

def run (arguments : List String) (given : Environment) (log : LogSettings) (disk : σ) :
    CommandOutcome × σ :=
  match prepared given log disk with
  | .error reason => (.breakdown reason, disk)
  | .ok (environment, filter) =>
    match Command.ofArguments environment arguments with
    | .error fault => (.usage fault, disk)
    | .ok command =>
      let (outcome, disk) := command.run disk
      (outcome.filtered filter log.source, disk)

end CommandLine

end GameBundle
