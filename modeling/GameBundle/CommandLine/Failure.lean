import GameBundle.Bundle.ExportFault

/-!
# Failures of commands

A command that fails says what it could not do and lists the causes, outermost first.
-/

namespace GameBundle

inductive CommandFailure where
  | loadSettings (path : Path) (cause : ExportFault)
  | badSettings (cause : ExportFault)
  | loadProject (path : Path) (cause : ExportFault)
  | noExtension (name : String)
  | noBehavior (extension behavior : String)
  | failedExports (failed total : Nat)
deriving DecidableEq, Repr

namespace ExportFault

def chain (fault : ExportFault) : List String := fault.message :: fault.cause?.toList

def line (fault : ExportFault) : String := ": ".intercalate fault.chain

end ExportFault

namespace CommandFailure

def message : CommandFailure → String
  | .loadSettings path _ => "Failed to load config " ++ path.text
  | .badSettings _ => "Invalid exporter configuration"
  | .loadProject path _ => "Failed to load project " ++ path.text
  | .noExtension name => "Extension not found: " ++ name
  | .noBehavior extension behavior => "Behavior not found: " ++ extension ++ "::" ++ behavior
  | .failedExports failed total =>
    Decimal.text failed ++ " of " ++ Decimal.text total ++ " export(s) failed"

def causes : CommandFailure → List String
  | .loadSettings _ cause => cause.chain
  | .badSettings cause => cause.chain
  | .loadProject _ cause => cause.chain
  | _ => []

def withMargins (first others text : String) : List String :=
  match text.splitOn "\n" with
  | [] => [first]
  | line :: lines => (first ++ line) :: lines.map (others ++ ·)

/-- The lines of causes. A single one is indented, and several are numbered. -/
def causeLines (causes : List String) : List String :=
  match causes with
  | [] => []
  | [cause] => "" :: "Caused by:" :: withMargins "    " "    " cause
  | causes =>
    "" :: "Caused by:" :: (causes.mapIdx fun index cause =>
      let number := Decimal.text index
      let margin := "".pushn ' ' (5 - number.length)
      withMargins (margin ++ number ++ ": ") "       " cause).flatten

def lines (failure : CommandFailure) : List String :=
  withMargins "Error: " "" failure.message ++ causeLines failure.causes

end CommandFailure

end GameBundle
