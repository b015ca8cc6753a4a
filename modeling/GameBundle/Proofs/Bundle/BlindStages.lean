import GameBundle.Bundle.Export
import GameBundle.Proofs.Bundle.Tandem

/-!
# Stages that ask for no report

Packages, entry points and the scripts of a bundle are made from files and from the
project. No stage asks what was reported before it, so each goes in tandem with itself.
-/

namespace GameBundle

open Work (Blind)

variable {σ : Type} [Storage σ]

theorem Work.blind_write (path : Path) (text : String) : Blind (Work.write path text : Work σ Unit) :=
  .change _ _

theorem Work.blind_copy (source target : Path) : Blind (Work.copy source target : Work σ Unit) :=
  .change _ _

namespace PackageSource

variable (source : PackageSource)

theorem blind_write (file text : String) : Blind (source.write file text : Work σ Path) :=
  .bind (Work.blind_write _ _) fun _ => .pure _

theorem blind_copy (origin : Path) (file : String) : Blind (source.copy origin file : Work σ Path) :=
  .bind (Work.blind_copy _ _) fun _ => .pure _

theorem blind_copyTemplate (template file : String) :
    Blind (source.copyTemplate template file : Work σ Path) :=
  .isFile (source.blind_copy _ file) (Work.Tandem.throw _)

theorem blind_writeManifest (template : String) :
    Blind (source.writeManifest template : Work σ Path) :=
  .bind .template fun _ => source.blind_write _ _

end PackageSource

theorem Desktop.blind_copyIcon (source : PackageSource) :
    Blind (copyIcon source : Work σ (List Path)) := by
  unfold copyIcon
  dsimp only
  split
  · exact .pure []
  · exact .isFile (.bind (source.blind_copy _ _) fun _ => .pure _)
      (.bind (.warn _ _ _) fun _ => .pure [])

theorem Desktop.blind_package (source : PackageSource) :
    Blind (package source : Work σ (List Path)) := by
  refine .bind (source.blind_writeManifest _) fun _ => .bind .template fun _ => ?_
  refine .bind (source.blind_write _ _) fun _ => .bind (.change _ _) fun _ => ?_
  exact .bind (blind_copyIcon source) fun _ => .pure _

theorem InstantGames.blind_package (source : PackageSource) :
    Blind (package source : Work σ (List Path)) :=
  .bind .template fun _ => .bind (source.blind_write _ _) fun _ => .pure _

theorem Mobile.blind_package (source : PackageSource) :
    Blind (package source : Work σ (List Path)) := by
  refine .look fun _ => .bind (.report _) fun _ => .bind .template fun _ => ?_
  refine .bind (source.blind_write _ _) fun _ => .bind (source.blind_writeManifest _) fun _ => ?_
  exact .pure _

theorem Native.blind_package (source : PackageSource) :
    Blind (package source : Work σ (List Path)) := by
  refine .bind (source.blind_copyTemplate _ _) fun _ => ?_
  refine .bind (source.blind_copyTemplate _ _) fun _ => .look fun _ => .bind (.report _) fun _ => ?_
  exact .bind .template fun _ => .bind (source.blind_write _ _) fun _ => .pure _

theorem PackageSource.blind_package (source : PackageSource) :
    Blind (source.package : Work σ (List Path)) := by
  unfold PackageSource.package
  split
  · exact .pure []
  · exact .pure []
  · exact InstantGames.blind_package source
  · exact Desktop.blind_package source
  · exact Mobile.blind_package source
  · exact Native.blind_package source

theorem EntryPoint.blind_render (profile : TargetProfile) (runtime directory : Path)
    (scripts : List String) : Blind (render profile runtime directory scripts : Work σ Path) := by
  refine .bind .template fun _ => .bind ?_ fun _ => .bind (Work.blind_write _ _) fun _ => .pure _
  exact .look fun _ => .bind (.report _) fun _ => .pure _

namespace Exporter

theorem blind_materialize (runtime includesDir : Path) (script : String) :
    Blind (materialize runtime includesDir script : Work σ Unit) :=
  .isFile (Work.blind_copy _ _) (.warn _ _ _)

theorem blind_packageFiles (source : PackageSource) :
    Blind (packageFiles source : Work σ (List Path)) := by
  unfold packageFiles
  split
  · exact source.blind_package
  · exact .pure []

end Exporter

end GameBundle
