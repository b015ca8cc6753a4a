import GameBundle.Json.Fault
import GameBundle.Storage.Basic
import GameBundle.Target

/-!
# Faults of an export

Only what makes a bundle unusable ends an export. Each fault names the place it is
about and keeps its cause; what is merely missing becomes a diagnostic instead.
-/

namespace GameBundle

inductive SettingsFlaw where
  | noRuntimeRoot
  | noCodeDirectory
  /-- The output directory of a run meets that of another run. -/
  | overlap (directory : Path)
deriving DecidableEq, Repr

def SettingsFlaw.message : SettingsFlaw → String
  | .noRuntimeRoot => "runtimeRoot must not be empty"
  | .noCodeDirectory => "codeOutputDir must not be empty"
  | .overlap directory =>
    "output directory " ++ directory.text ++ " overlaps the output of another target"

inductive ExportFault where
  /-- An output directory could not be created or cleared. -/
  | directory (path : Path) (cause : StorageFault)
  | write (path : Path) (cause : StorageFault)
  /-- A template of the runtime is missing or cannot be read. -/
  | template (path : Path) (cause : StorageFault)
  /-- A document could not be read. -/
  | read (path : Path) (cause : StorageFault)
  /-- A document does not have the form it needs. -/
  | malformed (path : Path) (cause : Json.Fault)
  | settings (flaw : SettingsFlaw)
  /-- A strict export was complete but had warnings. -/
  | strict (target : Target) (warnings : Nat) (first : String)
deriving DecidableEq, Repr

namespace ExportFault

def cause? : ExportFault → Option String
  | .directory _ cause => some cause.message
  | .write _ cause => some cause.message
  | .template _ cause => some cause.message
  | .read _ cause => some cause.message
  | .malformed _ cause => some cause.message
  | .settings _ => none
  | .strict _ _ _ => none

def message : ExportFault → String
  | .directory path cause => "unable to prepare directory " ++ path.text ++ ": " ++ cause.message
  | .write path cause => "unable to write " ++ path.text ++ ": " ++ cause.message
  | .template path cause => "unable to read template " ++ path.text ++ ": " ++ cause.message
  | .read path cause => "unable to read " ++ path.text ++ ": " ++ cause.message
  | .malformed path cause => "malformed document " ++ path.text ++ ": " ++ cause.message
  | .settings flaw => "invalid configuration: " ++ flaw.message
  | .strict target warnings first =>
    "strict export for " ++ target.name ++ " failed with " ++ Decimal.text warnings ++
      " warning(s); first: " ++ first

end ExportFault

end GameBundle
