import GameBundle.Bundle.ExportFault
import GameBundle.Bundle.Fingerprint
import GameBundle.Json.Decoder

/-!
# Settings of an exporter

Settings shared by all exports: where the runtime is, where generated code goes, and
whether warnings count as failure. They can be read from a document in which every
part may be left out.
-/

namespace GameBundle

structure ExportSettings where
  /-- The directory that holds the runtime directory. -/
  runtimeRoot : Path
  /-- Where generated code goes before it is copied into the bundle. -/
  codeDirectory : Option Path
  strict : Bool
  /-- Whether the code of several layouts may be generated at the same time. -/
  layoutParallelism : Bool
deriving DecidableEq, Repr

namespace ExportSettings

def standard : ExportSettings := ⟨⟨"."⟩, none, false, true⟩

def ofRoot (root : Path) : ExportSettings := { standard with runtimeRoot := root }

def toJson (settings : ExportSettings) : Json :=
  .object [("runtimeRoot", .string settings.runtimeRoot.text),
    ("codeOutputDir", match settings.codeDirectory with
      | some directory => .string directory.text
      | none => .null),
    ("strict", .bool settings.strict),
    ("layoutParallelism", .bool settings.layoutParallelism)]

def recordType : Json.RecordType ExportSettings where
  name := "ExporterConfig"
  blank := standard
  fields := [
    .optional "runtimeRoot" (.map Path.mk (.textAs "path string"))
      fun runtimeRoot s => { s with runtimeRoot },
    .optional "codeOutputDir" (.nullable (.map Path.mk (.textAs "path string")))
      fun codeDirectory s => { s with codeDirectory },
    .optional "strict" .bool fun strict s => { s with strict },
    .optional "layoutParallelism" .bool fun layoutParallelism s => { s with layoutParallelism }]

def flaw? (settings : ExportSettings) : Option SettingsFlaw :=
  if settings.runtimeRoot.text = "" then some .noRuntimeRoot
  else if settings.codeDirectory.any (·.text = "") then some .noCodeDirectory
  else none

def validated (settings : ExportSettings) : Except ExportFault ExportSettings :=
  match settings.flaw? with
  | some flaw => .error (.settings flaw)
  | none => .ok settings

def runtimeDirectory (settings : ExportSettings) : Path :=
  GameBundle.runtimeDirectory settings.runtimeRoot

def codeDirectoryFor (settings : ExportSettings) (directory : Path) : Path :=
  settings.codeDirectory.getD (directory / "code")

variable {σ : Type} [Storage σ]

def load (path : Path) (disk : σ) : Except ExportFault ExportSettings :=
  match Storage.readText path disk with
  | .error cause => .error (.read path cause)
  | .ok text =>
    match recordType.decode.ofText text with
    | .error cause => .error (.malformed path cause)
    | .ok settings => settings.validated

end ExportSettings

end GameBundle
