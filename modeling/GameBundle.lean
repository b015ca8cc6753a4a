import GameBundle.Behavior.Module
import GameBundle.Behavior.PropertyCode
import GameBundle.Behavior.Shim
import GameBundle.Bundle.Batch
import GameBundle.Bundle.DataScript
import GameBundle.Bundle.EntryPoint
import GameBundle.Bundle.Export
import GameBundle.Bundle.ExportFault
import GameBundle.Bundle.Fingerprint
import GameBundle.Bundle.FontResources
import GameBundle.Bundle.GeneratedScript
import GameBundle.Bundle.Inputs
import GameBundle.Bundle.LoadOrder
import GameBundle.Bundle.ResourceExport
import GameBundle.Bundle.Settings
import GameBundle.Bundle.Stage
import GameBundle.Bundle.Work
import GameBundle.CommandLine.Arguments
import GameBundle.CommandLine.Failure
import GameBundle.CommandLine.Footprint
import GameBundle.CommandLine.Run
import GameBundle.CommandLine.Usage
import GameBundle.Decimal.Binary64
import GameBundle.Decimal.Digits
import GameBundle.Decimal.Shortest
import GameBundle.Diagnostic
import GameBundle.Dictionary
import GameBundle.Digest.Sha256
import GameBundle.Environment.Assignment
import GameBundle.Environment.Basic
import GameBundle.Environment.File
import GameBundle.Events.Compiler
import GameBundle.Events.Inline
import GameBundle.GameOptions
import GameBundle.Include.Effect
import GameBundle.Include.Engine
import GameBundle.Include.IncludeList
import GameBundle.Json.Basic
import GameBundle.Json.Decoder
import GameBundle.Json.Draft
import GameBundle.Json.Fault
import GameBundle.Json.Numeral
import GameBundle.Json.Printer
import GameBundle.Json.Quoted
import GameBundle.Json.Reader
import GameBundle.Lint
import GameBundle.Log.Directive
import GameBundle.Log.Filter
import GameBundle.Log.Level
import GameBundle.Main
import GameBundle.Markup.Escape
import GameBundle.Package.Basic
import GameBundle.Package.Desktop
import GameBundle.Package.InstantGames
import GameBundle.Package.Mobile
import GameBundle.Package.Native
import GameBundle.Package.Target
import GameBundle.Path
import GameBundle.Project.Basic
import GameBundle.Project.Behavior
import GameBundle.Project.Layout
import GameBundle.Project.Load
import GameBundle.Project.Stripped
import GameBundle.Proofs.Behavior.Degraded
import GameBundle.Proofs.Behavior.DocComment
import GameBundle.Proofs.Behavior.Members
import GameBundle.Proofs.Behavior.Method
import GameBundle.Proofs.Behavior.Module
import GameBundle.Proofs.Behavior.Quoted
import GameBundle.Proofs.Bundle.Batch
import GameBundle.Proofs.Bundle.BatchOrder
import GameBundle.Proofs.Bundle.BlindStages
import GameBundle.Proofs.Bundle.Completeness
import GameBundle.Proofs.Bundle.Containment
import GameBundle.Proofs.Bundle.DataScript
import GameBundle.Proofs.Bundle.DeclaredFonts
import GameBundle.Proofs.Bundle.EffectPaths
import GameBundle.Proofs.Bundle.ExportedName
import GameBundle.Proofs.Bundle.ExportedProject
import GameBundle.Proofs.Bundle.ExportedResources
import GameBundle.Proofs.Bundle.Fingerprint
import GameBundle.Proofs.Bundle.FinishedBundle
import GameBundle.Proofs.Bundle.FontResources
import GameBundle.Proofs.Bundle.Footprint
import GameBundle.Proofs.Bundle.GeneratedScript
import GameBundle.Proofs.Bundle.LevelExport
import GameBundle.Proofs.Bundle.LoadOrder
import GameBundle.Proofs.Bundle.Lockstep
import GameBundle.Proofs.Bundle.LockstepExport
import GameBundle.Proofs.Bundle.LockstepStages
import GameBundle.Proofs.Bundle.MovedResources
import GameBundle.Proofs.Bundle.NameSearch
import GameBundle.Proofs.Bundle.Obstruction
import GameBundle.Proofs.Bundle.OptionScripts
import GameBundle.Proofs.Bundle.Relocation
import GameBundle.Proofs.Bundle.RendererFilter
import GameBundle.Proofs.Bundle.ResourceCopies
import GameBundle.Proofs.Bundle.ResourceExport
import GameBundle.Proofs.Bundle.ResourceNames
import GameBundle.Proofs.Bundle.ResourceTransfer
import GameBundle.Proofs.Bundle.ScriptCopies
import GameBundle.Proofs.Bundle.Settles
import GameBundle.Proofs.Bundle.ShippedFingerprints
import GameBundle.Proofs.Bundle.Siblings
import GameBundle.Proofs.Bundle.Stages
import GameBundle.Proofs.Bundle.StaleOutput
import GameBundle.Proofs.Bundle.Supply
import GameBundle.Proofs.Bundle.Tandem
import GameBundle.Proofs.Bundle.Verdict
import GameBundle.Proofs.Bundle.Work
import GameBundle.Proofs.CommandLine.Targets
import GameBundle.Proofs.Dictionary
import GameBundle.Proofs.Events.Inline
import GameBundle.Proofs.Events.Preview
import GameBundle.Proofs.Events.Traversal
import GameBundle.Proofs.Include.Edits
import GameBundle.Proofs.Include.Effects
import GameBundle.Proofs.Include.Engine
import GameBundle.Proofs.Include.IncludeList
import GameBundle.Proofs.Json.Fragments
import GameBundle.Proofs.Json.Grammar
import GameBundle.Proofs.Json.Letters
import GameBundle.Proofs.Json.Numerals
import GameBundle.Proofs.Json.Printed
import GameBundle.Proofs.Json.Record
import GameBundle.Proofs.Json.Scalar
import GameBundle.Proofs.Json.Solid
import GameBundle.Proofs.Json.Spelling
import GameBundle.Proofs.Json.Stable
import GameBundle.Proofs.Json.Visible
import GameBundle.Proofs.Markup.Document
import GameBundle.Proofs.Markup.Entity
import GameBundle.Proofs.Markup.Inert
import GameBundle.Proofs.Markup.Layout
import GameBundle.Proofs.Markup.Slots
import GameBundle.Proofs.Package.Icons
import GameBundle.Proofs.Package.Manifest
import GameBundle.Proofs.Package.ScriptList
import GameBundle.Proofs.Package.Settings
import GameBundle.Proofs.Package.Steps
import GameBundle.Proofs.Path.Components
import GameBundle.Proofs.Path.Parent
import GameBundle.Proofs.Project.ReadBack
import GameBundle.Proofs.Project.Records
import GameBundle.Proofs.Project.Stripped
import GameBundle.Proofs.Script.Escaped
import GameBundle.Proofs.Script.Identifier
import GameBundle.Proofs.Script.Line
import GameBundle.Proofs.Script.Literal
import GameBundle.Proofs.Storage.Agreement
import GameBundle.Proofs.Storage.Confinement
import GameBundle.Proofs.Storage.Disk
import GameBundle.Proofs.Storage.Intake
import GameBundle.Proofs.Storage.Listing
import GameBundle.Proofs.Storage.Outline
import GameBundle.Proofs.Storage.Place
import GameBundle.Proofs.Storage.Relations
import GameBundle.Proofs.Storage.Route
import GameBundle.Proofs.Storage.Success
import GameBundle.Proofs.Storage.Tree
import GameBundle.Proofs.Storage.Twinned
import GameBundle.Proofs.Template.Parts
import GameBundle.Proofs.Template.Seam
import GameBundle.Proofs.Template.Segmentation
import GameBundle.Proofs.Template.Unresolved
import GameBundle.Proofs.Template.WholeStrings
import GameBundle.Proofs.Text.Count
import GameBundle.Proofs.Text.Ordered
import GameBundle.Proofs.Text.Run
import GameBundle.Proofs.Text.Search
import GameBundle.Resource
import GameBundle.Script.Comment
import GameBundle.Script.Identifier
import GameBundle.Script.Quoted
import GameBundle.Storage.Basic
import GameBundle.Storage.Changes
import GameBundle.Storage.Local
import GameBundle.Storage.Memory
import GameBundle.Storage.Tree
import GameBundle.Target
import GameBundle.Template
import GameBundle.Text.Alphanumeric
import GameBundle.Text.AlphanumericTable
import GameBundle.Text.Blank
import GameBundle.Text.CharRanges
import GameBundle.Text.Debug
import GameBundle.Text.Harmless
import GameBundle.Text.LowerCase
import GameBundle.Text.LowerCaseTable
import GameBundle.Text.Ordered
import GameBundle.Text.Piece
import GameBundle.Text.Search
import GameBundle.Text.UnitEscape
import GameBundle.Text.UnprintableTable
