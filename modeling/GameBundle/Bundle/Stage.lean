import GameBundle.Target

/-!
# Stages of an export

Resources come before code, because new names of files flow into code and data. The
project is stripped after code has been generated, because events are code. Scripts
are filtered before anything is said about them.
-/

namespace GameBundle

inductive Stage where
  | prepareOutputDir
  | exportResources
  | applyLegacyAssetCompat
  | buildEngineIncludes
  | buildEffectIncludes
  | generateEventCode
  | exportExternalSources
  | stripProjectForExport
  | filterIncludesForTarget
  | buildRuntimeOptionsDocument
  | writeDataBundle
  | materializeIncludes
  | renderEntryPoint
  | packageTarget
deriving DecidableEq, Repr

namespace Stage

def name : Stage → String
  | .prepareOutputDir => "PrepareOutputDir"
  | .exportResources => "ExportResources"
  | .applyLegacyAssetCompat => "ApplyLegacyAssetCompat"
  | .buildEngineIncludes => "BuildEngineIncludes"
  | .buildEffectIncludes => "BuildEffectIncludes"
  | .generateEventCode => "GenerateEventCode"
  | .exportExternalSources => "ExportExternalSources"
  | .stripProjectForExport => "StripProjectForExport"
  | .filterIncludesForTarget => "FilterIncludesForTarget"
  | .buildRuntimeOptionsDocument => "BuildRuntimeOptionsDocument"
  | .writeDataBundle => "WriteDataBundle"
  | .materializeIncludes => "MaterializeIncludes"
  | .renderEntryPoint => "RenderEntryPoint"
  | .packageTarget => "PackageTarget"

/-- The stages that every export goes through. -/
def common : List Stage := [
  .prepareOutputDir, .exportResources, .applyLegacyAssetCompat, .buildEngineIncludes,
  .buildEffectIncludes, .generateEventCode, .exportExternalSources, .stripProjectForExport,
  .filterIncludesForTarget, .buildRuntimeOptionsDocument, .writeDataBundle,
  .materializeIncludes, .renderEntryPoint]

/-- The stages of an export for a target, in order. -/
def plan (target : Target) : List Stage :=
  common ++ if target.isPackaged then [.packageTarget] else []

end Stage

end GameBundle
