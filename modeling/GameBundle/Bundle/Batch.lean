import GameBundle.Bundle.Export

/-!
# Batches of exports

Several exports can be asked for at once. Each gets output directories of its own: a
request is turned down when one of its directories is, contains or lies inside a
directory of an earlier request, whether or not that one was turned down itself.
-/

namespace GameBundle

/-- Whether one directory is the other or contains it. -/
def Path.overlaps (path other : Path) : Bool := path.startsWith other || other.startsWith path

namespace OutputPlace

def overlaps (place : OutputPlace) (directory : Path) : Bool :=
  directory.overlaps place.bundle || directory.overlaps place.code

def conflict? (place other : OutputPlace) : Option Path :=
  [place.bundle, place.code].find? other.overlaps

end OutputPlace

namespace Exporter

/-- Where the code of a request of a batch goes; a directory for all code has one
directory for each target. -/
def batchCodeDirectory (exporter : Exporter) (request : ExportRequest) : Path :=
  match exporter.settings.codeDirectory with
  | some directory => directory / request.target.name
  | none => request.directory / "code"

variable {σ : Type} [Storage σ]

def batchPlace (exporter : Exporter) (disk : σ) (request : ExportRequest) : OutputPlace :=
  outputPlace request (exporter.batchCodeDirectory request) disk

def exportApart (exporter : Exporter) (earlier : List OutputPlace) (request : ExportRequest)
    (disk : σ) : Except ExportFault ExportReport × σ :=
  match earlier.findSome? (exporter.batchPlace disk request).conflict? with
  | some directory => (.error (.settings (.overlap directory)), disk)
  | none => exporter.exportWith request (exporter.batchCodeDirectory request) disk

/-- Exports requests one after the other; `earlier` holds the places of those before. -/
def exportBatch (exporter : Exporter) (earlier : List OutputPlace) :
    List ExportRequest → σ → List (Except ExportFault ExportReport) × σ
  | [], disk => ([], disk)
  | request :: rest, disk =>
    let place := exporter.batchPlace disk request
    let (outcome, changed) := exporter.exportApart earlier request disk
    let (outcomes, final) := exporter.exportBatch (earlier ++ [place]) rest changed
    (outcome :: outcomes, final)

/-- Exports all requests; the outcomes come in the order of the requests. -/
def exportAll (exporter : Exporter) (requests : List ExportRequest) (disk : σ) :
    List (Except ExportFault ExportReport) × σ :=
  exporter.exportBatch [] requests disk

end Exporter

end GameBundle
