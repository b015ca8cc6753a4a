import GameBundle.Proofs.Bundle.LockstepExport

/-!
# Leftovers of earlier exports

The output directories are emptied before anything else is done, so what lay in them has
no influence on an export. Nothing of it can be listed as a font, found as a script or
shipped with the bundle.
-/

namespace GameBundle.Exporter

open Memory (Agree Orderly)
open Session (Abreast)

/-- An export once its directories are emptied. -/
def fill {σ : Type} [Storage σ] (exporter : Exporter) (request : ExportRequest)
    (place : OutputPlace) : Work σ ExportReport := do
  let profile := request.target.profile
  exporter.assemble request place
    (← projectWithResources (splashed profile request.project) (profile.webRootIn place.bundle))

theorem build_eq {σ : Type} [Storage σ] (exporter : Exporter) (request : ExportRequest)
    (place : OutputPlace) : (exporter.build request place : Work σ ExportReport) = (do
      prepare place (request.target.profile.webRootIn place.bundle)
      exporter.fill request place) := by
  unfold build exportedProject fill
  simp only [bind_assoc]

/-- From files that agree outside the output directories a bundle is made in lockstep. Once
the directories are emptied, the files agree everywhere. -/
theorem alike_build_of_outside {exporter : Exporter} {request : ExportRequest}
    {place : OutputPlace} {home : Place} {one other : Memory}
    (agree : Agree home (fun spot => ¬place.Holds home spot) (place.IsUnder home) one other) :
    let webRoot := request.target.profile.webRootIn place.bundle
    Alike (fun _ => Abreast (fun x y => ∀ spot, x.tree.get? spot = y.tree.get? spot) .empty)
      (Abreast (fun x y => ((prepare place webRoot).start one).1 = .ok () →
        ∀ spot, x.tree.get? spot = y.tree.get? spot) .empty)
      ((exporter.build request place).start one) ((exporter.build request place).start other) := by
  intro webRoot
  have all (spot : Place) : Refreshed place home (fun spot => ¬place.Holds home spot) spot := by
    by_cases holds : place.Holds home spot
    · exact .inr (.inl holds)
    · exact .inl holds
  have rest : Work.Lockstep
      (fun x y => Agree home (Refreshed place home fun spot => ¬place.Holds home spot)
          (place.IsUnder home) x y ∧ Orderly home webRoot x ∧ Orderly home webRoot y)
      (fun _ x y => ∀ spot, x.tree.get? spot = y.tree.get? spot)
      (fun x y => ∀ spot, x.tree.get? spot = y.tree.get? spot) (exporter.fill request place) := by
    refine .mono (.bind (lockstep_resources fun _ _ _ => all _) fun _ => steady_assemble_of_all all)
      (fun _ _ => id) ?_ ?_
    · exact fun _ x y held spot => held.tree.same spot (all spot)
    · exact fun x y held spot => held.tree.same spot (all spot)
  have emptied := lockstep_emptied request (fun _ before => .inr (.inl before))
    (fun _ before => .inr (.inr before)) .empty ⟨one, .empty⟩ ⟨other, .empty⟩
    ⟨rfl, List.prefix_rfl, agree⟩
  unfold Work.start
  rw [build_eq, Work.exec_bind, Work.exec_bind]
  generalize (prepare place webRoot).exec ⟨one, .empty⟩ = here at emptied
  generalize (prepare place webRoot).exec ⟨other, .empty⟩ = there at emptied
  cases emptied with
  | ok done held =>
    exact (rest .empty _ _ held).mono (fun _ _ _ => id) fun _ _ held => held.mono fun _ _ same _ => same
  | error fault held => exact .error fault ⟨held.reports, held.grown, fun ok => by cases ok⟩

/-- Exports from files that differ inside the output directories only end with the same
outcome. Once the directories are emptied the files are the same everywhere in the end,
whether the export succeeds or not. -/
theorem exportWith_ignores_leftovers (exporter : Exporter) (request : ExportRequest)
    (codeDirectory : Path) (one other : Memory) (home : other.home = one.home)
    (denied : other.denied = one.denied)
    (outside : ∀ spot, ¬(outputPlace request codeDirectory one).Holds one.home spot →
      one.tree.get? spot = other.tree.get? spot)
    (clear : ∀ spot, (outputPlace request codeDirectory one).IsUnder one.home spot →
      one.tree.isFile spot = false ∧ other.tree.isFile spot = false) :
    let place := outputPlace request codeDirectory one
    let emptied := (prepare place (request.target.profile.webRootIn place.bundle)).start one
    let first := exporter.exportWith request codeDirectory one
    let second := exporter.exportWith request codeDirectory other
    first.1 = second.1 ∧
      (emptied.1 = .ok () → ∀ spot, first.2.tree.get? spot = second.2.tree.get? spot) := by
  intro place emptied first second
  have agree : Agree one.home (fun spot => ¬place.Holds one.home spot) (place.IsUnder one.home)
      one other :=
    ⟨rfl, home, denied.symm, outside, fun spot under =>
      (clear spot under).1.trans (clear spot under).2.symm⟩
  obtain ⟨same, files | files⟩ := alike_exportWith home (alike_build_of_outside agree)
  · exact ⟨same, fun _ => files⟩
  · exact ⟨same, files⟩

/-- The files of the picture with a font left over from an earlier export. -/
def leftoverDisk : Memory :=
  { heroDisk with tree := ⟨[(["out", "old.ttf"], .file ⟨#[0]⟩), (["out"], .directory)] ++
    heroDisk.tree.entries⟩ }

theorem hero_ignores_leftovers :
    (lone.exportWith heroRequest ⟨"/out/code"⟩ heroDisk).1 =
        (lone.exportWith heroRequest ⟨"/out/code"⟩ leftoverDisk).1 ∧
      ∀ spot, (lone.exportWith heroRequest ⟨"/out/code"⟩ heroDisk).2.tree.get? spot =
        (lone.exportWith heroRequest ⟨"/out/code"⟩ leftoverDisk).2.tree.get? spot := by
  have places : Memory.locate ["cwd"] heroPlace.bundle = ["out"] ∧
      Memory.locate ["cwd"] heroPlace.code = ["out", "code"] := by decide +kernel
  have outside (spot : Place) (apart : ¬heroPlace.Holds ["cwd"] spot) :
      heroDisk.tree.get? spot = leftoverDisk.tree.get? spot := by
    unfold OutputPlace.Holds at apart
    rw [places.1] at apart
    have font : (spot == ["out", "old.ttf"]) = false := by
      rw [beq_eq_false_iff_ne]
      rintro rfl
      exact apart (.inl (by decide))
    have directory : (spot == ["out"]) = false := by
      rw [beq_eq_false_iff_ne]
      rintro rfl
      exact apart (.inl (by decide))
    simp [Tree.get?, leftoverDisk, List.lookup_cons, font, directory]
  have clear (spot : Place) (under : heroPlace.IsUnder ["cwd"] spot) :
      heroDisk.tree.isFile spot = false ∧ leftoverDisk.tree.isFile spot = false := by
    unfold OutputPlace.IsUnder at under
    rw [places.1, places.2] at under
    have before : spot <+: ["out", "code"] :=
      under.elim (fun short => short.trans (by decide)) id
    by_cases root : spot = []
    · subst root
      decide
    · have listed := Tree.mem_upTo.mpr ⟨root, before⟩
      clear before under root
      revert spot
      decide
  have emptied : ((prepare heroPlace (heroRequest.target.profile.webRootIn
      heroPlace.bundle)).start heroDisk).1 = .ok () := rfl
  obtain ⟨same, files⟩ := exportWith_ignores_leftovers lone heroRequest ⟨"/out/code"⟩ heroDisk
    leftoverDisk rfl rfl outside clear
  exact ⟨same, files emptied⟩

end GameBundle.Exporter
