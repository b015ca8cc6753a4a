import GameBundle.Bundle.FontResources

/-!
# Resources of fonts

Fonts are declared behind the resources that a table has already.
-/

namespace GameBundle.ResourceTable

theorem prefix_add (table : ResourceTable) (resource : Resource) :
    table.resources <+: (table.add resource).resources := by
  unfold add
  split
  · exact List.prefix_rfl
  · exact List.prefix_append _ _

theorem prefix_addFonts (table : ResourceTable) (url : String) (fileNames : List String) :
    table.resources <+: (table.addFonts url fileNames).resources := by
  unfold addFonts
  induction fileNames.filter isFontName generalizing table with
  | nil => exact List.prefix_rfl
  | cons name names ih => exact (prefix_add table _).trans (ih _)

theorem prefix_addFontsIn {σ : Type} [Storage σ] (table : ResourceTable) (directory : Path)
    (url : String) (disk : σ) :
    table.resources <+: (table.addFontsIn directory url disk).resources := by
  unfold addFontsIn
  split
  · exact prefix_addFonts table url _
  · exact List.prefix_rfl

end GameBundle.ResourceTable
