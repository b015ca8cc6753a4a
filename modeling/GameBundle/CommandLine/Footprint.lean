import GameBundle.Bundle.Inputs
import GameBundle.CommandLine.Run

/-!
# What a command needs of the disk

Before a command runs, the parts of the disk that it may read or replace have to be
known: first its documents, then what the documents name.
-/

namespace GameBundle.Command

def documents : Command → List Path
  | .version => []
  | .exportProject arguments => arguments.project :: arguments.settings.toList
  | .showBehavior arguments => [arguments.project]

variable {σ : Type} [Storage σ]

def work? (command : Command) (disk : σ) : Option (Exporter × List ExportRequest) :=
  match command with
  | .exportProject arguments => (prepared arguments disk).toOption
  | _ => none

/-- The files that a command may read beside its documents. -/
def inputs (command : Command) (disk : σ) : List Path :=
  match command.work? disk with
  | some (exporter, requests) => requests.flatMap exporter.inputs
  | none => []

/-- The directories that a command may write to. -/
def outputs (command : Command) (disk : σ) : List Path :=
  match command.work? disk with
  | some (exporter, requests) => requests.flatMap exporter.outputs
  | none => []

end GameBundle.Command
