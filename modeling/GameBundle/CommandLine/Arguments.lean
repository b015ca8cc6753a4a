import GameBundle.CommandLine.Usage
import GameBundle.Environment.Assignment

/-!
# Commands

What the program can be asked for on its command line. Some options of an export can
be given by environment variables as well; the command line comes first.
-/

namespace GameBundle

structure ExportArguments where
  project : Path
  output : Path
  targets : List Target
  layout : Option String
  externalLayout : Option String
  runtimeRoot : Option Path
  settings : Option Path
  strict : Bool
  /-- Whether the reports are printed. -/
  report : Bool
deriving DecidableEq, Repr

structure BehaviorArguments where
  project : Path
  extension : String
  behavior : String
  preview : Bool
deriving DecidableEq, Repr

inductive Command where
  | version
  /-- Export a project for one or more targets. -/
  | exportProject (arguments : ExportArguments)
  /-- Print the module of a behavior. -/
  | showBehavior (arguments : BehaviorArguments)
deriving DecidableEq, Repr

namespace Command

open Usage

def one (name : String) : OptionForm := ⟨name, none, .one⟩

def flag (name : String) : OptionForm := ⟨name, none, .none⟩

def exportForms : List OptionForm := [
  one "project", one "out", ⟨"target", some 't', .many⟩, one "layout", one "external-layout",
  one "runtime-root", one "config", flag "strict", flag "report"]

def behaviorForms : List OptionForm :=
  [one "project", one "extension", one "behavior", flag "preview"]

def path (name value : String) : Except UsageFault Path :=
  if value = "" then .error (.badValue name value) else .ok ⟨value⟩

def required (name : String) (given : List Given) : Except UsageFault String :=
  match value? name given with
  | some value => .ok value
  | none => .error (.missing name)

def optionalPath (name fallback : String) (environment : Environment) (given : List Given) :
    Except UsageFault (Option Path) :=
  match (value? name given).or (environment.value? fallback) with
  | some value => return some (← path name value)
  | none => return none

def switch (name fallback : String) (environment : Environment) (given : List Given) :
    Except UsageFault Bool :=
  if isGiven name given then .ok true
  else
    match environment.value? fallback with
    | none => .ok false
    | some "true" => .ok true
    | some "false" => .ok false
    | some value => .error (.badValue name value)

def target (value : String) : Except UsageFault Target :=
  match Target.ofName? value with
  | some target => .ok target
  | none => .error (.unknownTarget value)

def targets (given : List Given) : Except UsageFault (List Target) := do
  match ← (valuesOf "target" given).mapM target with
  | [] => return [.html5]
  | targets => return targets

def exportArguments (environment : Environment) (given : List Given) :
    Except UsageFault ExportArguments := do
  return {
    project := ← path "project" (← required "project" given)
    output := ← path "out" (← required "out" given)
    targets := ← targets given
    layout := value? "layout" given
    externalLayout := value? "external-layout" given
    runtimeRoot := ← optionalPath "runtime-root" "KILN_RUNTIME_ROOT" environment given
    settings := ← optionalPath "config" "KILN_CONFIG" environment given
    strict := ← switch "strict" "KILN_STRICT" environment given
    report := isGiven "report" given }

def behaviorArguments (given : List Given) : Except UsageFault BehaviorArguments := do
  return {
    project := ← path "project" (← required "project" given)
    extension := ← required "extension" given
    behavior := ← required "behavior" given
    preview := isGiven "preview" given }

def asksVersion (argument : String) : Bool :=
  match Token.ofArgument argument with
  | .long name value => name == "version" && value.isNone
  | .short letter _ => letter == 'V'
  | _ => false

def ofArguments (environment : Environment) : List String → Except UsageFault Command
  | [] => .error .noCommand
  | "export" :: rest => do
    return .exportProject (← exportArguments environment (← options exportForms rest))
  | "behavior" :: rest => do
    return .showBehavior (← behaviorArguments (← options behaviorForms rest))
  | argument :: _ =>
    if asksVersion argument then .ok .version else .error (.unexpected argument)

end Command

end GameBundle
